import Mathlib.Data.List.DropRight
import Stencil.Markup.StartTag
import Stencil.Proofs.Text.Letter
import Stencil.Proofs.Text.Occurrence

/-!
# Reading written tags

What one step makes of the inside of a tag (`takeAttributes?_of_skip`), and that a start tag is read
back as it was written (`takeStartTag?_written`) where names and values need no quoting of their own
(`IsName`, `IsValue`).
-/

namespace Stencil.Markup

variable {attributes : Attributes} {selfClosing : Bool} {cs r rest : List Char} {c : Char}
  {name : String} {value : Option String}

/-! ## One step inside a tag -/

/-- Where the page ends before the tag does, there is no tag. -/
theorem takeAttributes?_of_skip_nil (hs : skip cs = []) :
    takeAttributes? attributes selfClosing cs = .ok none := by
  rw [takeAttributes?]
  split <;> simp_all

/-- What comes next in a tag: its end, a slash, an attribute, or a value without a name. -/
theorem takeAttributes?_of_skip (hs : skip cs = c :: r) :
    takeAttributes? attributes selfClosing cs =
      if c = '>' then .ok (some ((attributes, selfClosing), r))
      else if c = '/' then takeAttributes? attributes true r
      else
        match takeValue? ((c :: r).dropWhile (!endsAttributeName ·)) with
        | none => .ok none
        | some (value, rest) =>
          if endsAttributeName c then
            match rest with
            | [] => .ok none
            | x :: rest =>
              if x.utf8Size = 1 then takeAttributes? attributes false rest else .error {}
          else
            takeAttributes? (Document.put (lower ((c :: r).takeWhile (!endsAttributeName ·)))
              (value.map String.ofList) attributes) false rest := by
  rw [takeAttributes?]
  split
  · next h => simp [hs] at h
  · next c' r' h =>
    obtain ⟨rfl, rfl⟩ := List.cons.inj (hs.symm.trans h)
    refine ite_congr rfl (fun _ => rfl) fun _ => ite_congr rfl (fun _ => rfl) fun _ => ?_
    split
    · next hv => rw [hv]
    · next value rest hv =>
      cases rest <;> simp only [hv]

/-- Blanks in front make no difference. -/
theorem takeAttributes?_skip :
    takeAttributes? attributes selfClosing (skip cs) =
      takeAttributes? attributes selfClosing cs := by
  have hskip : skip (skip cs) = skip cs := List.dropWhile_idempotent _ _
  cases hs : skip cs with
  | nil =>
    rw [takeAttributes?_of_skip_nil hs, takeAttributes?_of_skip_nil (by rw [← hs, hskip, hs])]
  | cons c r =>
    rw [takeAttributes?_of_skip hs, takeAttributes?_of_skip (by rw [← hs, hskip, hs])]

/-- A `>` ends the attributes, and so the tag. -/
theorem takeAttributes?_close (hs : skip cs = '>' :: r) :
    takeAttributes? attributes selfClosing cs = .ok (some ((attributes, selfClosing), r)) := by
  rw [takeAttributes?_of_skip hs, if_pos rfl]

/-- Where the name of an attribute starts is neither the end of the tag nor a slash. -/
theorem ne_of_endsAttributeName (hc : endsAttributeName c = false) : c ≠ '>' ∧ c ≠ '/' := by
  constructor
  all_goals
    rintro rfl
    exact absurd hc (by decide)

/-- An attribute with a name is put to the others, and reading goes on behind its value. -/
theorem takeAttributes?_named {value : Option (List Char)} (hs : skip cs = c :: r)
    (hc : endsAttributeName c = false)
    (hv : takeValue? ((c :: r).dropWhile (!endsAttributeName ·)) = some (value, rest)) :
    takeAttributes? attributes selfClosing cs =
      takeAttributes? (Document.put (lower ((c :: r).takeWhile (!endsAttributeName ·)))
        (value.map String.ofList) attributes) false rest := by
  obtain ⟨hgt, hslash⟩ := ne_of_endsAttributeName hc
  rw [takeAttributes?_of_skip hs, if_neg hgt, if_neg hslash, hv]
  simp only [hc, Bool.false_eq_true, if_false]

/-! ## Names and values -/

/-- The characters of names: small letters, digits and hyphens. -/
def isNameChar (c : Char) : Bool := c.isLower || c.isDigit || c == '-'

/-- A small letter, and behind it small letters, digits and hyphens. -/
def IsName (name : String) : Prop :=
  name.toList.head?.any Char.isLower = true ∧ name.toList.tail.all isNameChar = true

instance : DecidablePred IsName := fun _ => inferInstanceAs (Decidable (_ ∧ _))

/-- A value that is not blank at its ends and goes between quotes as it is. -/
structure IsValue (value : String) : Prop where
  ne_empty : value ≠ ""
  trimmed_eq : Text.trimmed value = value
  quote_notMem : '"' ∉ value.toList

instance : DecidablePred IsValue := fun value =>
  decidable_of_iff (value ≠ "" ∧ Text.trimmed value = value ∧ '"' ∉ value.toList)
    ⟨fun ⟨h₁, h₂, h₃⟩ => ⟨h₁, h₂, h₃⟩, fun ⟨h₁, h₂, h₃⟩ => ⟨h₁, h₂, h₃⟩⟩

/-- Attributes with names that differ, with values or without. -/
structure AreAttributes (attributes : Attributes) : Prop where
  isName : ∀ a ∈ attributes, IsName a.1
  isValue : ∀ a ∈ attributes, ∀ v ∈ a.2, IsValue v
  nodup : (attributes.map Prod.fst).Nodup

instance : DecidablePred AreAttributes := fun attributes =>
  decidable_of_iff ((∀ a ∈ attributes, IsName a.1) ∧ (∀ a ∈ attributes, ∀ v ∈ a.2, IsValue v) ∧
      (attributes.map Prod.fst).Nodup)
    ⟨fun ⟨h₁, h₂, h₃⟩ => ⟨h₁, h₂, h₃⟩, fun ⟨h₁, h₂, h₃⟩ => ⟨h₁, h₂, h₃⟩⟩

/-- None of the characters of a name ends the name of an attribute. -/
theorem endsAttributeName_eq_false (h : isNameChar c = true) : endsAttributeName c = false := by
  cases he : endsAttributeName c with
  | false => rfl
  | true =>
    simp only [endsAttributeName, endsName, isBlank, Bool.or_eq_true, beq_iff_eq] at he
    rcases he with ((((((rfl | rfl) | rfl) | rfl) | rfl) | rfl) | rfl) | rfl
    all_goals exact absurd h (by decide)

/-- None of the characters of a name ends the name of a tag. -/
theorem endsName_eq_false (h : isNameChar c = true) : endsName c = false :=
  (Bool.or_eq_false_iff.1 (endsAttributeName_eq_false h)).1

theorem isBlank_eq_false (h : isNameChar c = true) : isBlank c = false :=
  (Bool.or_eq_false_iff.1 (Bool.or_eq_false_iff.1 (endsName_eq_false h)).1).1

theorem isUpper_eq_false (h : isNameChar c = true) : c.isUpper = false := by
  rw [isNameChar, Bool.or_eq_true, Bool.or_eq_true, Text.isLower_iff, Text.isDigit_iff,
    beq_iff_eq] at h
  rw [← Bool.not_eq_true, Text.isUpper_iff]
  rcases h with (h | h) | rfl
  · omega
  · omega
  · decide

namespace IsName

/-- A name starts with a letter and goes on with characters of names. -/
theorem exists_cons (h : IsName name) :
    ∃ c cs, name.toList = c :: cs ∧ c.isAlpha = true ∧ ∀ d ∈ c :: cs, isNameChar d = true := by
  obtain ⟨hhead, htail⟩ := h
  cases hname : name.toList with
  | nil => simp [hname] at hhead
  | cons c cs =>
    rw [hname, List.head?_cons, Option.any_some] at hhead
    rw [hname, List.tail_cons, List.all_eq_true] at htail
    refine ⟨c, cs, rfl, ?_, List.forall_mem_cons.2 ⟨?_, htail⟩⟩
    · rw [Char.isAlpha, hhead, Bool.or_true]
    · rw [isNameChar, hhead, Bool.true_or, Bool.true_or]

theorem isNameChar (h : IsName name) : ∀ c ∈ name.toList, isNameChar c = true := by
  obtain ⟨c, cs, hname, -, hcs⟩ := h.exists_cons
  rwa [hname]

/-- A character that no name may have is not in a name. -/
theorem notMem (h : IsName name) (hc : Markup.isNameChar c = false) : c ∉ name.toList :=
  fun hm => by simp [h.isNameChar c hm] at hc

/-- A name is in small letters already. -/
theorem map_toLower (h : IsName name) : name.toList.map Char.toLower = name.toList :=
  (List.map_congr_left fun c hc =>
    Text.toLower_eq_self (isUpper_eq_false (h.isNameChar c hc))).trans (List.map_id' _)

/-- A name that was written is read as it stands. -/
theorem lower_toList (h : IsName name) : lower name.toList = name := by
  rw [lower, h.map_toLower, String.ofList_toList]

end IsName

/-! ## Reading attributes back -/

/-- What stands behind the name of an attribute. -/
def valueText : Option String → List Char
  | none => []
  | some v => '=' :: '"' :: (v.toList ++ ['"'])

/-- Attributes as they are written, one after the other. -/
def attributesText (attributes : Attributes) : List Char :=
  attributes.flatMap fun a => (Tree.attributeText a.1 a.2).toList

theorem attributesText_cons (a : String × Option String) :
    attributesText (a :: attributes) =
      (Tree.attributeText a.1 a.2).toList ++ attributesText attributes :=
  List.flatMap_cons

/-- An attribute is written behind a blank, its value in quotes. -/
theorem toList_attributeText (hv : ∀ v ∈ value, IsValue v) :
    (Tree.attributeText name value).toList = ' ' :: (name.toList ++ valueText value) := by
  cases value with
  | none => simp [Tree.attributeText, valueText]
  | some v =>
    have h := hv v rfl
    simp [Tree.attributeText, valueText, h.trimmed_eq, h.ne_empty]

/-- A value that was written is read, and with it at most blanks. -/
theorem takeValue?_valueText (hv : ∀ v ∈ value, IsValue v) (hr : (skip rest).head? ≠ some '=') :
    ∃ r, takeValue? (valueText value ++ rest) = some (value.map String.toList, r) ∧
      skip r = skip rest := by
  cases value with
  | none =>
    refine ⟨skip rest, ?_, List.dropWhile_idempotent _ _⟩
    rw [valueText, List.nil_append, takeValue?]
    split
    · next h =>
      rw [h] at hr
      exact absurd rfl hr
    · rfl
  | some v =>
    have hsplit : Text.splitAtFirst? ['"'] (v.toList ++ ['"'] ++ rest) = some (v.toList, rest) :=
      Text.splitAtFirst?_eq_some_iff.2 ⟨rfl, Text.firstBehind_singleton.2 (hv v rfl).quote_notMem⟩
    refine ⟨rest, ?_, rfl⟩
    rw [takeValue?]
    rw [List.append_assoc, List.singleton_append] at hsplit
    simp [valueText, skip, isBlank, hsplit]

/-- What follows an attribute: another one or the end of the tag. -/
def FollowsAttribute (rest : List Char) : Prop :=
  (∃ c r, rest = c :: r ∧ endsAttributeName c = true) ∧ (skip rest).head? ≠ some '='

/-- The name of an attribute ends where its value starts or what follows the attribute. -/
theorem span_name (hn : IsName name) (hr : FollowsAttribute rest) (value : Option String) :
    (name.toList ++ (valueText value ++ rest)).takeWhile (!endsAttributeName ·) = name.toList ∧
      (name.toList ++ (valueText value ++ rest)).dropWhile (!endsAttributeName ·) =
        valueText value ++ rest := by
  have hname : ∀ c ∈ name.toList, (!endsAttributeName c) = true := fun c hc => by
    rw [endsAttributeName_eq_false (hn.isNameChar c hc), Bool.not_false]
  have hbehind : ∃ c r, valueText value ++ rest = c :: r ∧ endsAttributeName c = true := by
    cases value with
    | none => exact hr.1
    | some v => exact ⟨'=', _, rfl, rfl⟩
  obtain ⟨c, r, hcr, hc⟩ := hbehind
  rw [List.takeWhile_append_of_pos hname, List.dropWhile_append_of_pos hname, hcr,
    List.takeWhile_cons_of_neg (by simp [hc]), List.dropWhile_cons_of_neg (by simp [hc]),
    List.append_nil]
  exact ⟨rfl, rfl⟩

/-- An attribute that was written is put to the others. -/
theorem takeAttributes?_attributeText (hn : IsName name) (hv : ∀ v ∈ value, IsValue v)
    (hr : FollowsAttribute rest) :
    takeAttributes? attributes selfClosing ((Tree.attributeText name value).toList ++ rest) =
      takeAttributes? (Document.put name value attributes) false rest := by
  obtain ⟨c, cs, hname, -, hcs⟩ := hn.exists_cons
  have hc := hcs c List.mem_cons_self
  obtain ⟨htake, hdrop⟩ := span_name hn hr value
  obtain ⟨r, hvalue, hskip⟩ := takeValue?_valueText hv hr.2
  rw [hname, List.cons_append] at htake hdrop
  have hs : skip (' ' :: (c :: (cs ++ (valueText value ++ rest)))) =
      c :: (cs ++ (valueText value ++ rest)) := by
    rw [skip, List.dropWhile_cons_of_pos (by decide),
      List.dropWhile_cons_of_neg (by simp [isBlank_eq_false hc])]
  rw [toList_attributeText hv, hname]
  simp only [List.cons_append, List.append_assoc]
  rw [takeAttributes?_named hs (endsAttributeName_eq_false hc) (hdrop ▸ hvalue), htake, ← hname,
    hn.lower_toList, ← takeAttributes?_skip, hskip, takeAttributes?_skip]
  cases value <;> simp

/-- What follows an attribute, another one or the end of the tag, cannot be taken for a part of it.
-/
theorem followsAttribute_attributesText (hn : ∀ a ∈ attributes, IsName a.1)
    (hv : ∀ a ∈ attributes, ∀ v ∈ a.2, IsValue v) :
    FollowsAttribute (attributesText attributes ++ '>' :: rest) := by
  cases attributes with
  | nil => exact ⟨⟨'>', rest, rfl, rfl⟩, by simp [attributesText, skip, isBlank]⟩
  | cons a more =>
    obtain ⟨c, cs, hname, -, hcs⟩ := (hn a List.mem_cons_self).exists_cons
    have hc := hcs c List.mem_cons_self
    rw [attributesText_cons, toList_attributeText (hv a List.mem_cons_self), hname]
    refine ⟨⟨' ', _, rfl, rfl⟩, ?_⟩
    simp only [skip, List.cons_append]
    rw [List.dropWhile_cons_of_pos (by decide),
      List.dropWhile_cons_of_neg (by simp [isBlank_eq_false hc]), List.head?_cons, ne_eq,
      Option.some.injEq]
    rintro rfl
    exact absurd hc (by decide)

/-- Attributes that were written are put to those before, one after the other. -/
theorem takeAttributes?_attributesText {more : Attributes} (hn : ∀ a ∈ more, IsName a.1)
    (hv : ∀ a ∈ more, ∀ v ∈ a.2, IsValue v) :
    takeAttributes? attributes false (attributesText more ++ '>' :: rest) =
      .ok (some ((more.foldl (fun before (name, value) => Document.put name value before)
        attributes, false), rest)) := by
  induction more generalizing attributes with
  | nil => exact takeAttributes?_close (by simp [attributesText, skip, isBlank])
  | cons a more ih =>
    rw [List.forall_mem_cons] at hn hv
    rw [attributesText_cons, List.append_assoc,
      takeAttributes?_attributeText hn.1 hv.1 (followsAttribute_attributesText hn.2 hv.2)]
    exact ih hn.2 hv.2

/-! ## Reading a start tag back -/

/-- An attribute of a new name goes to the end. -/
theorem put_of_notMem (h : name ∉ attributes.map Prod.fst) :
    Document.put name value attributes = attributes ++ [(name, value)] := by
  induction attributes with
  | nil => rfl
  | cons a attributes ih =>
    rw [List.map_cons, List.mem_cons, not_or] at h
    rw [Document.put, if_neg (Ne.symm h.1), ih h.2, List.cons_append]

/-- Attributes with names that differ are those that were put, in this order. -/
theorem foldl_put_eq {more : Attributes} (h : ((attributes ++ more).map Prod.fst).Nodup) :
    more.foldl (fun before (name, value) => Document.put name value before) attributes =
      attributes ++ more := by
  induction more generalizing attributes with
  | nil => rw [List.append_nil, List.foldl_nil]
  | cons a more ih =>
    have ha : a.1 ∉ attributes.map Prod.fst := by
      rw [List.map_append, List.map_cons] at h
      exact fun hm => (List.nodup_append.1 h).2.2 _ hm _ List.mem_cons_self rfl
    obtain ⟨name, value⟩ := a
    rw [List.foldl_cons]
    simp only [put_of_notMem ha]
    rw [ih (by simpa using h), List.append_assoc, List.singleton_append]

/-- A start tag that was written is read as it stands. -/
theorem takeStartTag?_written {tag : String} (hn : IsName tag) (ha : AreAttributes attributes) :
    takeStartTag? (tag.toList ++ (attributesText attributes ++ '>' :: rest)) =
      .ok (some (⟨tag, attributes, false⟩, rest)) := by
  have hname : ∀ c ∈ tag.toList, (!endsName c) = true := fun c hc => by
    rw [endsName_eq_false (hn.isNameChar c hc), Bool.not_false]
  obtain ⟨c, r, hcr, hc⟩ : ∃ c r,
      attributesText attributes ++ '>' :: rest = c :: r ∧ endsName c = true := by
    cases attributes with
    | nil => exact ⟨'>', rest, rfl, rfl⟩
    | cons a more =>
      rw [attributesText_cons, toList_attributeText (ha.isValue a List.mem_cons_self)]
      exact ⟨' ', _, rfl, rfl⟩
  have hattributes :
      takeAttributes? [] false (c :: r) = .ok (some ((attributes, false), rest)) := by
    rw [← hcr, takeAttributes?_attributesText ha.isName ha.isValue,
      foldl_put_eq (by simpa using ha.nodup), List.nil_append]
  rw [hcr, takeStartTag?, List.dropWhile_append_of_pos hname,
    List.dropWhile_cons_of_neg (by simp [hc]), hattributes, List.takeWhile_append_of_pos hname,
    List.takeWhile_cons_of_neg (by simp [hc]), List.append_nil, hn.lower_toList]
  rfl

end Stencil.Markup
