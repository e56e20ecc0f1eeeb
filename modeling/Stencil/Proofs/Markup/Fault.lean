import Mathlib.Data.List.Infix
import Stencil.Proofs.Markup.Event

/-!
# Pages that cannot be read

Reading a page comes to a fault in one situation only: an `=` without a name before it takes a
quoted value, and the byte that is passed over behind the value is not a character of its own. So
every page is read that has no such value anywhere (`parse_of_not_hasStrayValue`), and where a tag
begins with one there is a fault (`parse_strayValue`).
-/

namespace Stencil.Markup

variable {attributes : Attributes} {selfClosing : Bool} {cs t r rest : List Char} {c x : Char}
  {value : Option (List Char)} {depth : Nat} {fault : Fault}

/-- An `=` with a quoted value, and right behind it a character of more than one byte. -/
def StrayValue (cs : List Char) : Prop :=
  ∃ blanks q value x after, cs = '=' :: (blanks ++ q :: (value ++ q :: x :: after)) ∧
    (∀ b ∈ blanks, isBlank b = true) ∧ (q = '"' ∨ q = '\'') ∧ q ∉ value ∧ x.utf8Size ≠ 1

/-- There is such a value somewhere. -/
def HasStrayValue (cs : List Char) : Prop := ∃ t ∈ cs.tails, StrayValue t

/-- A stray value in the end of a text is one in the text. -/
theorem HasStrayValue.of_suffix (h : HasStrayValue t) (ht : t <:+ cs) : HasStrayValue cs := by
  obtain ⟨u, hu, hs⟩ := h
  exact ⟨u, (List.mem_tails ..).2 (((List.mem_tails ..).1 hu).trans ht), hs⟩

theorem HasStrayValue.cons (h : HasStrayValue cs) (c : Char) : HasStrayValue (c :: cs) :=
  h.of_suffix (List.suffix_cons c cs)

theorem StrayValue.hasStrayValue (h : StrayValue cs) : HasStrayValue cs :=
  ⟨cs, (List.mem_tails ..).2 List.suffix_rfl, h⟩

/-! ## Results that are passed on -/

section Map

variable {α β : Type} {result : Except Fault α} {f : α → β} {b : β}

theorem error_of_map_error (h : (do return f (← result)) = Except.error fault) :
    result = .error fault := by
  cases result with
  | error _ => rfl
  | ok _ => simp [bind, Except.bind, pure, Except.pure] at h

theorem ok_of_map_ok (h : (do return f (← result)) = Except.ok b) :
    ∃ a, result = .ok a ∧ f a = b := by
  cases result with
  | error _ => simp [bind, Except.bind] at h
  | ok a => exact ⟨a, rfl, by simpa [bind, Except.bind, pure, Except.pure] using h⟩

end Map

/-- A start tag is its name and its attributes. -/
theorem takeStartTag?_eq_map (cs : List Char) :
    takeStartTag? cs = do
      return (← takeAttributes? [] false (cs.dropWhile (!endsName ·))).map fun
        ((attributes, selfClosing), rest) =>
          (⟨lower (cs.takeWhile (!endsName ·)), attributes, selfClosing⟩, rest) := by
  rw [takeStartTag?]
  cases takeAttributes? [] false (cs.dropWhile (!endsName ·)) with
  | error _ => rfl
  | ok found => cases found <;> rfl

/-! ## What readers leave is the end of what they read -/

/-- Blanks are passed over. -/
theorem suffix_of_skip (h : skip cs = c :: r) : r <:+ cs :=
  (List.suffix_cons c r).trans (h ▸ List.dropWhile_suffix _)

theorem suffix_of_splitAtFirst? {needle before : List Char}
    (h : Text.splitAtFirst? needle cs = some (before, rest)) : rest <:+ cs :=
  ⟨before ++ needle, (Text.eq_of_splitAtFirst? h).symm⟩

/-- A value without quotes leaves the end of the text. -/
theorem suffix_takeUnquoted : (takeUnquoted depth cs).2 <:+ cs :=
  ⟨_, takeUnquoted_append depth cs⟩

/-- So does every value. -/
theorem suffix_of_takeValue? (h : takeValue? cs = some (value, rest)) : rest <:+ cs := by
  rw [takeValue?] at h
  split at h
  · next r hr =>
    split at h
    · simp at h
    · next q r' hq =>
      split at h
      · obtain ⟨⟨b, a⟩, hsplit, hba⟩ := Option.map_eq_some_iff.1 h
        obtain ⟨-, rfl⟩ := Prod.mk.inj hba
        exact (suffix_of_splitAtFirst? hsplit).trans
          ((suffix_of_skip hq).trans (suffix_of_skip hr))
      · obtain ⟨-, rfl⟩ := Prod.mk.inj (Option.some.inj h)
        have hskip : q :: r' <:+ r := hq ▸ List.dropWhile_suffix isBlank
        exact suffix_takeUnquoted.trans (hskip.trans (suffix_of_skip hr))
  · obtain ⟨-, rfl⟩ := Prod.mk.inj (Option.some.inj h)
    exact List.dropWhile_suffix _

/-- So does an attribute, with its name and its value. -/
theorem suffix_of_attribute (hs : skip cs = c :: r)
    (hv : takeValue? ((c :: r).dropWhile (!endsAttributeName ·)) = some (value, rest)) :
    rest <:+ cs :=
  (suffix_of_takeValue? hv).trans
    ((List.dropWhile_suffix _).trans (hs ▸ List.dropWhile_suffix isBlank))

/-- Attributes leave what is behind the mark that closes their tag. -/
theorem suffix_of_takeAttributes? {found : Attributes × Bool}
    (h : takeAttributes? attributes selfClosing cs = .ok (some (found, rest))) : rest <:+ cs := by
  fun_induction takeAttributes? attributes selfClosing cs with
  | case1 => simp at h
  | case2 _ _ _ _ hs =>
    obtain ⟨-, rfl⟩ : _ ∧ _ := by simpa using h
    exact suffix_of_skip hs
  | case3 _ _ _ _ hs _ ih => exact (ih h).trans (suffix_of_skip hs)
  | case4 => simp at h
  | case5 => simp at h
  | case6 _ _ _ _ _ hs _ _ _ _ _ _ hv _ _ ih =>
    exact (ih h).trans ((List.suffix_cons _ _).trans (suffix_of_attribute hs hv))
  | case7 => simp at h
  | case8 _ _ _ _ _ hs _ _ _ _ hv _ _ ih => exact (ih h).trans (suffix_of_attribute hs hv)

theorem suffix_of_takeStartTag? {tag : StartTag} (h : takeStartTag? cs = .ok (some (tag, rest))) :
    rest <:+ cs := by
  rw [takeStartTag?_eq_map] at h
  obtain ⟨found, ha, hfound⟩ := ok_of_map_ok h
  obtain ⟨⟨read, r⟩, rfl, hread⟩ := Option.map_eq_some_iff.1 hfound
  obtain ⟨-, rfl⟩ := Prod.mk.inj hread
  exact (suffix_of_takeAttributes? ha).trans (List.dropWhile_suffix _)

theorem suffix_dropThrough (needle : List Char) : dropThrough needle cs <:+ cs := by
  rw [dropThrough]
  split
  · next h => exact suffix_of_splitAtFirst? h
  · exact List.nil_suffix

/-- The content of a raw element leaves what is behind its end tag. -/
theorem suffix_takeRaw (name : List Char) : (takeRaw name cs).2 <:+ cs :=
  ⟨_, takeRaw_append name cs⟩

/-! ## Faults come from stray values -/

/-- A blank takes one byte, so that passing over a byte passes over it. -/
theorem utf8Size_eq_one_of_isBlank (h : isBlank c = true) : c.utf8Size = 1 := by
  simp only [isBlank, Bool.or_eq_true, beq_iff_eq] at h
  rcases h with (((rfl | rfl) | rfl) | rfl) | rfl <;> rfl

/-- An unquoted value ends at a character of one byte. -/
theorem utf8Size_of_takeUnquoted (h : (takeUnquoted depth cs).2 = x :: rest) : x.utf8Size = 1 := by
  fun_induction takeUnquoted depth cs with
  | case1 => simp at h
  | case2 _ _ _ _ heq ih => exact ih (by rwa [heq])
  | case3 _ _ _ _ heq _ ih => exact ih (by rwa [heq])
  | case4 _ _ _ _ _ hend =>
    obtain ⟨rfl, -⟩ := List.cons.inj h
    rcases hend.2 with hblank | rfl
    · exact utf8Size_eq_one_of_isBlank hblank
    · rfl
  | case5 _ _ _ _ _ _ _ _ heq ih => exact ih (by rwa [heq])

/-- Stray values are the values that are read with a character of more than one byte behind them. -/
theorem strayValue_iff :
    StrayValue cs ↔ ∃ r value x rest,
      cs = '=' :: r ∧ takeValue? cs = some (value, x :: rest) ∧ x.utf8Size ≠ 1 := by
  have hequals : ∀ r, skip ('=' :: r) = '=' :: r := fun r =>
    List.dropWhile_cons_of_neg (by decide)
  constructor
  · rintro ⟨blanks, q, value, x, after, rfl, hblanks, hquote, hq, hx⟩
    refine ⟨_, some value, x, after, rfl, ?_, hx⟩
    have hqblank : isBlank q = false := by rcases hquote with rfl | rfl <;> rfl
    have hskip : skip (blanks ++ q :: (value ++ q :: x :: after)) =
        q :: (value ++ q :: x :: after) := by
      rw [skip, List.dropWhile_append_of_pos hblanks,
        List.dropWhile_cons_of_neg (by simp [hqblank])]
    have hsplit : Text.splitAtFirst? [q] (value ++ q :: x :: after) = some (value, x :: after) :=
      Text.splitAtFirst?_eq_some_iff.2 ⟨by simp, Text.firstBehind_singleton.2 hq⟩
    simp [takeValue?, hequals, hskip, hquote, hsplit]
  · rintro ⟨r, value, x, rest, rfl, h, hx⟩
    rw [takeValue?, hequals] at h
    simp only at h
    split at h
    · simp at h
    · next q r' hq =>
      split at h
      · next hquote =>
        obtain ⟨⟨v, after⟩, hsplit, hv⟩ := Option.map_eq_some_iff.1 h
        obtain ⟨-, rfl⟩ := Prod.mk.inj hv
        obtain ⟨rfl, hfirst⟩ := Text.splitAtFirst?_eq_some_iff.1 hsplit
        refine ⟨r.takeWhile isBlank, q, v, x, rest, ?_, fun b hb => List.mem_takeWhile_imp hb,
          hquote, Text.firstBehind_singleton.1 hfirst, hx⟩
        have hr := List.takeWhile_append_dropWhile (p := isBlank) (l := r)
        rw [← skip, hq] at hr
        simpa using hr.symm
      · exact absurd (utf8Size_of_takeUnquoted (Prod.mk.inj (Option.some.inj h)).2) hx

/-- `StrayValue` as a check. -/
def isStrayValue (cs : List Char) : Bool :=
  match cs, takeValue? cs with
  | '=' :: _, some (_, x :: _) => x.utf8Size != 1
  | _, _ => false

instance : DecidablePred StrayValue := fun cs =>
  decidable_of_iff (isStrayValue cs = true) <| by
    rw [strayValue_iff]
    unfold isStrayValue
    split <;> simp_all

instance : DecidablePred HasStrayValue := fun cs =>
  inferInstanceAs (Decidable (∃ t ∈ cs.tails, StrayValue t))

/-- What is left begins with something that is not dropped. -/
theorem eq_false_of_dropWhile {p : Char → Bool} (h : cs.dropWhile p = c :: r) : p c = false := by
  have hnot := List.head?_dropWhile_not p cs
  rwa [h] at hnot

theorem isBlank_of_skip (h : skip cs = c :: r) : isBlank c = false := eq_false_of_dropWhile h

/-- Where a name would start there is an `=` if there is neither a name nor the end of the tag. -/
theorem eq_of_endsAttributeName (hs : skip cs = c :: r) (hc : endsAttributeName c = true)
    (hgt : c ≠ '>') (hslash : c ≠ '/') : c = '=' := by
  simpa [endsAttributeName, endsName, isBlank_of_skip hs, hgt, hslash] using hc

/-- Attributes that cannot be read have a stray value among them. -/
theorem hasStrayValue_of_takeAttributes?
    (h : takeAttributes? attributes selfClosing cs = .error fault) : HasStrayValue cs := by
  fun_induction takeAttributes? attributes selfClosing cs with
  | case1 => simp at h
  | case2 => simp at h
  | case3 _ _ _ _ hs _ ih => exact (ih h).of_suffix (suffix_of_skip hs)
  | case4 => simp at h
  | case5 => simp at h
  | case6 _ _ _ _ _ hs _ _ _ _ _ _ hv _ _ ih =>
    exact (ih h).of_suffix ((List.suffix_cons _ _).trans (suffix_of_attribute hs hv))
  | case7 _ _ _ _ _ hs hgt hslash _ hc _ _ hv hx =>
    obtain rfl := eq_of_endsAttributeName hs hc hgt hslash
    rw [List.dropWhile_cons_of_neg (by decide)] at hv
    rw [skip] at hs
    exact (strayValue_iff.2 ⟨_, _, _, _, rfl, hv, hx⟩).hasStrayValue.of_suffix
      (hs ▸ List.dropWhile_suffix _)
  | case8 _ _ _ _ _ hs _ _ _ _ hv _ _ ih => exact (ih h).of_suffix (suffix_of_attribute hs hv)

/-- So has a start tag that cannot be read. -/
theorem hasStrayValue_of_takeStartTag? (h : takeStartTag? cs = .error fault) :
    HasStrayValue cs := by
  rw [takeStartTag?_eq_map] at h
  exact (hasStrayValue_of_takeAttributes? (error_of_map_error h)).of_suffix
    (List.dropWhile_suffix _)

/-- A page with a fault in it has a stray value. -/
theorem hasStrayValue_of_eventsFrom {run : List Char} (h : eventsFrom run cs = .error fault) :
    HasStrayValue cs := by
  fun_induction eventsFrom run cs with
  | case1 => simp at h
  | case2 _ _ _ _ ih => exact (ih h).cons _
  | case3 _ _ _ _ ih =>
    have hrest := (ih (error_of_map_error h)).of_suffix (suffix_dropThrough _)
    exact (((hrest.cons _).cons _).cons _).cons _
  | case4 _ _ _ _ _ ih | case5 _ _ _ _ ih =>
    have hrest := (ih (error_of_map_error h)).of_suffix (suffix_dropThrough _)
    exact (hrest.cons _).cons _
  | case6 => simp at h
  | case7 _ _ _ _ _ _ _ _ hsplit ih =>
    have hrest := (ih (error_of_map_error h)).of_suffix (suffix_of_splitAtFirst? hsplit)
    exact (hrest.cons _).cons _
  | case8 _ _ _ _ _ _ ih => exact (ih h).cons _
  | case9 _ _ _ _ _ _ _ _ _ _ _ ht => exact (hasStrayValue_of_takeStartTag? ht).cons _
  | case10 => simp at h
  | case11 _ _ _ _ _ _ _ _ _ _ _ _ ht _ _ ih =>
    have hrest := (ih (error_of_map_error h)).of_suffix (suffix_takeRaw _)
    exact (hrest.of_suffix (suffix_of_takeStartTag? ht)).cons _
  | case12 _ _ _ _ _ _ _ _ _ _ _ _ ht _ ih =>
    exact ((ih (error_of_map_error h)).of_suffix (suffix_of_takeStartTag? ht)).cons _
  | case13 _ _ _ _ _ _ _ _ _ _ ih => exact (ih h).cons _
  | case14 _ _ _ ih => exact (ih h).cons _

/-- A page without stray values becomes a document. -/
theorem parse_of_not_hasStrayValue {source : String} (h : ¬ HasStrayValue source.toList) :
    ∃ d, parse source = .ok d := by
  cases hp : parse source with
  | ok d => exact ⟨d, rfl⟩
  | error fault => exact absurd (hasStrayValue_of_eventsFrom (error_of_map_error hp)) h

/-! ## Stray values that are faults -/

/-- At a stray value the attributes cannot be read, whatever came before it. -/
theorem takeAttributes?_strayValue (h : StrayValue cs) (hskip : skip t = cs) :
    takeAttributes? attributes selfClosing t = .error {} := by
  obtain ⟨r, value, x, rest, rfl, hv, hx⟩ := strayValue_iff.1 h
  rw [takeAttributes?_of_skip hskip, if_neg (by decide), if_neg (by decide),
    List.dropWhile_cons_of_neg (by decide), hv]
  simp only [hx, if_false]
  rfl

/-- A tag that begins with a stray value makes a page that is not read. -/
theorem parse_strayValue (before cs : List Char) (tag : String) (hb : '<' ∉ before)
    (hn : IsName tag) (h : StrayValue cs) :
    parse (String.ofList (before ++ '<' :: (tag.toList ++ ' ' :: cs))) = .error {} := by
  obtain ⟨n, r, hname, halpha, -⟩ := hn.exists_cons
  have hskip : skip (' ' :: cs) = cs := by
    obtain ⟨blanks, q, value, x, after, rfl, -⟩ := h
    rfl
  have hdrop : (tag.toList ++ ' ' :: cs).dropWhile (!endsName ·) = ' ' :: cs := by
    rw [List.dropWhile_append_of_pos fun c hc => by simp [endsName_eq_false (hn.isNameChar c hc)]]
    exact List.dropWhile_cons_of_neg (by decide)
  have htake : takeStartTag? (tag.toList ++ ' ' :: cs) = .error {} := by
    rw [takeStartTag?, hdrop, takeAttributes?_strayValue h hskip]
    rfl
  rw [hname, List.cons_append] at htake
  rw [Builder.parse_eq, String.toList_ofList, Builder.read_text hb, Builder.read, hname,
    List.cons_append, eventsFrom_of_isAlpha halpha, htake]
  rfl

/-- Nothing is wrong with a stray value as such, nor with characters of more than one byte. -/
theorem parse_of_mixedTag : ∃ d, parse "<p =\"ü\" lang=\"é\">ä</p>" = .ok d :=
  parse_of_not_hasStrayValue (by decide +kernel)

theorem parse_emptyValue : parse "<a =\"\"é>" = .error {} :=
  parse_strayValue [] "=\"\"é>".toList "a" (by decide) (by decide +kernel) (by decide +kernel)

end Stencil.Markup
