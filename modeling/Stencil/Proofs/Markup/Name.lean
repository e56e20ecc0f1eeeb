import Mathlib.Data.List.Nodup
import Stencil.Proofs.Markup.Fault

/-!
# The names in a page

Whatever a page looks like, the start tags that are read from it have names that begin with a letter
and hold neither capitals nor signs that end a name, and attributes whose names differ
(`named_of_eventsFrom`). A name that is met again in the same tag does not come in twice, but takes
the place of the first one.
-/

namespace Stencil.Markup

variable {attributes : Attributes} {selfClosing : Bool} {cs rest : List Char} {c : Char}
  {name : String} {value : Option String}

/-- The name of an element, as it comes from a page. -/
structure IsTagName (name : String) : Prop where
  isAlpha : name.toList.head?.any Char.isAlpha = true
  isUpper_eq : ∀ c ∈ name.toList, c.isUpper = false
  notMem : ∀ c ∈ name.toList, c ∉ [' ', '\t', '\n', '\x0c', '\r', '>', '/']

/-- The name of an attribute, as it comes from a page. -/
structure IsAttributeName (name : String) : Prop where
  ne_empty : name ≠ ""
  isUpper_eq : ∀ c ∈ name.toList, c.isUpper = false
  notMem : ∀ c ∈ name.toList, c ∉ [' ', '\t', '\n', '\x0c', '\r', '>', '/', '=']

/-- Attributes whose names differ. -/
structure AreNamed (attributes : Attributes) : Prop where
  isAttributeName : ∀ a ∈ attributes, IsAttributeName a.1
  nodup : (attributes.map Prod.fst).Nodup

/-! ## Characters of names -/

theorem endsName_iff : endsName c = true ↔ c ∈ [' ', '\t', '\n', '\x0c', '\r', '>', '/'] := by
  simp [endsName, isBlank, or_assoc]

theorem endsAttributeName_iff :
    endsAttributeName c = true ↔ c ∈ [' ', '\t', '\n', '\x0c', '\r', '>', '/', '='] := by
  simp [endsAttributeName, endsName, isBlank, or_assoc]

/-- What is in a name that was put in small letters was there before or is a small letter. -/
theorem mem_or_isLower_of_mem_lower (h : c ∈ (lower cs).toList) : c ∈ cs ∨ c.isLower = true := by
  rw [lower, String.toList_ofList] at h
  obtain ⟨x, hx, rfl⟩ := List.mem_map.1 h
  by_cases hu : x.isUpper = true
  · exact .inr (Text.isLower_toLower hu)
  · rw [Bool.not_eq_true] at hu
    exact .inl (by rwa [Text.toLower_eq_self hu])

/-- Names are lowered, so no capital is left in them. -/
theorem isUpper_eq_false_of_mem_lower (h : c ∈ (lower cs).toList) : c.isUpper = false := by
  rw [lower, String.toList_ofList] at h
  obtain ⟨x, -, rfl⟩ := List.mem_map.1 h
  exact Text.isUpper_toLower x

/-- Characters of a class without small letters do not come into a name by making it small. -/
theorem eq_false_of_mem_lower {ends : Char → Bool} (he : ∀ c, c.isLower = true → ends c = false)
    (h : c ∈ (lower (cs.takeWhile (!ends ·))).toList) : ends c = false := by
  rcases mem_or_isLower_of_mem_lower h with hc | hc
  · simpa using List.mem_takeWhile_imp hc
  · exact he c hc

theorem endsAttributeName_eq_false_of_isLower (h : c.isLower = true) :
    endsAttributeName c = false :=
  endsAttributeName_eq_false (by rw [isNameChar, h, Bool.true_or, Bool.true_or])

theorem endsName_eq_false_of_isAlpha (h : c.isAlpha = true) : endsName c = false := by
  rw [← Bool.not_eq_true, endsName_iff]
  intro hc
  simp only [List.mem_cons, List.not_mem_nil, or_false] at hc
  rcases hc with rfl | rfl | rfl | rfl | rfl | rfl | rfl
  all_goals exact absurd h (by decide)

/-- What is taken for the name of a tag is one. -/
theorem isTagName_lower (h : c.isAlpha = true) :
    IsTagName (lower ((c :: cs).takeWhile (!endsName ·))) where
  isAlpha := by
    rw [List.takeWhile_cons_of_pos (by rw [endsName_eq_false_of_isAlpha h]; rfl), lower,
      String.toList_ofList, List.map_cons, List.head?_cons, Option.any_some, Text.isAlpha_toLower h]
  isUpper_eq _ := isUpper_eq_false_of_mem_lower
  notMem x hx := by
    rw [← endsName_iff, Bool.not_eq_true]
    exact eq_false_of_mem_lower (fun c hc =>
      (Bool.or_eq_false_iff.1 (endsAttributeName_eq_false_of_isLower hc)).1) hx

/-- What is taken for the name of an attribute is one. -/
theorem isAttributeName_lower (h : endsAttributeName c = false) :
    IsAttributeName (lower ((c :: cs).takeWhile (!endsAttributeName ·))) where
  ne_empty := by
    rw [List.takeWhile_cons_of_pos (by rw [h]; rfl), lower, List.map_cons]
    simp
  isUpper_eq _ := isUpper_eq_false_of_mem_lower
  notMem x hx := by
    rw [← endsAttributeName_iff, Bool.not_eq_true]
    exact eq_false_of_mem_lower (fun _ => endsAttributeName_eq_false_of_isLower) hx

/-! ## Attributes that are put to others -/

/-- An attribute that is there already keeps its place. -/
theorem map_fst_put_of_mem (h : name ∈ attributes.map Prod.fst) :
    (Document.put name value attributes).map Prod.fst = attributes.map Prod.fst := by
  induction attributes with
  | nil => simp at h
  | cons a attributes ih =>
    rw [Document.put]
    split
    · next he => rw [List.map_cons, List.map_cons, ← he]
    · next hne =>
      rw [List.map_cons, List.map_cons,
        ih ((List.mem_cons.1 h).resolve_left (Ne.symm hne))]

namespace AreNamed

theorem nil : AreNamed [] := ⟨by simp, List.nodup_nil⟩

/-- The condition is one on the names. -/
theorem congr {attributes' : Attributes} (h : AreNamed attributes)
    (he : attributes'.map Prod.fst = attributes.map Prod.fst) : AreNamed attributes' where
  isAttributeName a ha := by
    have hm : a.1 ∈ attributes.map Prod.fst := he ▸ List.mem_map_of_mem ha
    obtain ⟨b, hb, hba⟩ := List.mem_map.1 hm
    exact hba ▸ h.isAttributeName b hb
  nodup := he ▸ h.nodup

/-- Attributes stay well named when another one is put among them. -/
theorem put (h : AreNamed attributes) (hn : IsAttributeName name) :
    AreNamed (Document.put name value attributes) := by
  by_cases hm : name ∈ attributes.map Prod.fst
  · exact h.congr (map_fst_put_of_mem hm)
  · rw [put_of_notMem hm]
    refine ⟨fun a ha => ?_, ?_⟩
    · rcases List.mem_append.1 ha with ha | ha
      · exact h.isAttributeName a ha
      · obtain rfl := List.mem_singleton.1 ha
        exact hn
    · rw [List.map_append, List.map_singleton]
      exact List.nodup_append.2 ⟨h.nodup, List.nodup_singleton _, fun x hx y hy =>
        List.mem_singleton.1 hy ▸ ne_of_mem_of_not_mem hx hm⟩

end AreNamed

/-! ## What is read -/

/-- All attributes that are read from a tag are well named. -/
theorem named_of_takeAttributes? {found : Attributes × Bool} (ha : AreNamed attributes)
    (h : takeAttributes? attributes selfClosing cs = .ok (some (found, rest))) :
    AreNamed found.1 := by
  fun_induction takeAttributes? attributes selfClosing cs with
  | case1 => simp at h
  | case2 =>
    obtain ⟨rfl, -⟩ : _ ∧ _ := by simpa using h
    exact ha
  | case3 _ _ _ _ _ _ ih => exact ih ha h
  | case4 => simp at h
  | case5 => simp at h
  | case6 _ _ _ _ _ _ _ _ _ _ _ _ _ _ _ ih => exact ih ha h
  | case7 => simp at h
  | case8 _ _ _ _ _ _ _ _ _ _ _ hc _ ih =>
    exact ih (ha.put (isAttributeName_lower (Bool.not_eq_true _ ▸ hc))) h

/-- What holds of the name and the attributes of a start tag. -/
def StartTag.Named (tag : StartTag) : Prop := IsTagName tag.name ∧ AreNamed tag.attributes

/-- A tag that is read is well named, and so are its attributes. -/
theorem named_of_takeStartTag? {tag : StartTag} (hc : c.isAlpha = true)
    (h : takeStartTag? (c :: cs) = .ok (some (tag, rest))) : tag.Named := by
  rw [takeStartTag?_eq_map] at h
  obtain ⟨found, ha, hfound⟩ := ok_of_map_ok h
  obtain ⟨⟨read, r⟩, rfl, hread⟩ := Option.map_eq_some_iff.1 hfound
  obtain ⟨rfl, -⟩ := Prod.mk.inj hread
  exact ⟨isTagName_lower hc, named_of_takeAttributes? .nil ha⟩

/-- All start tags of a page have names. -/
theorem named_of_eventsFrom {run : List Char} {events : List Event} {tag : StartTag}
    (h : eventsFrom run cs = .ok events) (hm : .start tag ∈ events) : tag.Named := by
  fun_induction eventsFrom run cs generalizing events with
  | case1 =>
    obtain rfl := Except.ok.inj h
    simp [Event.ofRun] at hm
  | case2 _ _ _ _ ih => exact ih h hm
  | case3 _ _ _ _ ih | case4 _ _ _ _ _ ih | case5 _ _ _ _ ih =>
    obtain ⟨more, hmore, rfl⟩ := ok_of_map_ok h
    exact ih hmore (by simpa [Event.ofRun] using hm)
  | case6 =>
    obtain rfl := Except.ok.inj h
    simp at hm
  | case7 _ _ _ _ _ _ _ _ _ ih =>
    obtain ⟨more, hmore, rfl⟩ := ok_of_map_ok h
    exact ih hmore (by simpa [Event.ofRun] using hm)
  | case8 _ _ _ _ _ _ ih => exact ih h hm
  | case9 => simp at h
  | case10 =>
    obtain rfl := Except.ok.inj h
    simp at hm
  | case11 _ _ _ _ _ _ _ _ _ hn _ _ ht =>
    rename_i ih
    obtain ⟨more, hmore, rfl⟩ := ok_of_map_ok h
    simp only [Event.ofRun, List.mem_cons, reduceCtorEq, Event.start.injEq, false_or] at hm
    rcases hm with rfl | hm
    · exact named_of_takeStartTag? hn ht
    · exact ih hmore hm
  | case12 _ _ _ _ _ _ _ _ _ hn _ _ ht _ ih =>
    obtain ⟨more, hmore, rfl⟩ := ok_of_map_ok h
    simp only [Event.ofRun, List.mem_cons, reduceCtorEq, Event.start.injEq, false_or] at hm
    rcases hm with rfl | hm
    · exact named_of_takeStartTag? hn ht
    · exact ih hmore hm
  | case13 _ _ _ _ _ _ _ _ _ _ ih => exact ih h hm
  | case14 _ _ _ ih => exact ih h hm

end Stencil.Markup
