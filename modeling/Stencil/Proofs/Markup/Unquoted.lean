import Stencil.Proofs.Markup.Draft
import Stencil.Proofs.Markup.Name
import Stencil.Proofs.Markup.TagEnd
import Stencil.Proofs.Segment.Braces

/-!
# Unquoted values

An unquoted value goes on up to the first blank or `>` that is outside of braces, and braces are
counted as they are where the value is cut into segments later (`takeUnquoted_eq_iff`). A tag is
read only if something stands behind each of its values (`Meets.ne_nil`), so the braces that a value
opens are closed in it and none of its expressions is cut off. The other way round, whatever text is
like this is read back as a value from where it is written without quotes (`unquoted_values`).
-/

namespace Stencil.Markup

open Segment (nest depth)

variable {attributes : Attributes} {selfClosing quoted : Bool}
  {cs cs' r t u v w before after rest : List Char} {c q : Char} {n : Nat}

/-! ## Where unquoted values end -/

/-- What ends an unquoted value outside of braces. -/
def EndsValue (c : Char) : Prop := isBlank c = true ∨ c = '>'

instance : DecidablePred EndsValue := fun _ => inferInstanceAs (Decidable (_ ∨ _))

/-- With this many braces open before it, a text holds nothing outside of braces that ends a
value. -/
def Unbroken (n : Nat) (cs : List Char) : Prop :=
  ∀ before c after, cs = before ++ c :: after → EndsValue c → before.foldl nest n ≠ 0

theorem unbroken_nil (n : Nat) : Unbroken n [] := fun before c after h => by simp at h

/-- A value goes on as long as nothing ends it outside of braces. -/
theorem unbroken_cons :
    Unbroken n (c :: cs) ↔ ¬ (n = 0 ∧ EndsValue c) ∧ Unbroken (nest n c) cs := by
  constructor
  · intro h
    refine ⟨fun ⟨hn, hc⟩ => h [] c cs rfl hc hn, fun before x after hcs hx => ?_⟩
    exact h (c :: before) x after (by rw [hcs, List.cons_append]) hx
  · rintro ⟨hc, hcs⟩ before x after h hx
    cases before with
    | nil =>
      obtain ⟨rfl, -⟩ := List.cons.inj h
      exact fun hn => hc ⟨hn, hx⟩
    | cons b before =>
      obtain ⟨rfl, hcs'⟩ := List.cons.inj h
      exact hcs before x after hcs' hx

theorem takeUnquoted_cons (n : Nat) (c : Char) (cs : List Char) :
    takeUnquoted n (c :: cs) =
      if n = 0 ∧ EndsValue c then ([], c :: cs)
      else (c :: (takeUnquoted (nest n c) cs).1, (takeUnquoted (nest n c) cs).2) := by
  rw [takeUnquoted]
  by_cases hopen : c = '{'
  · subst hopen
    rw [if_pos rfl, if_neg fun h => absurd h.2 (by decide)]
    rfl
  by_cases hclose : c = '}'
  · subst hclose
    rw [if_neg hopen, if_pos rfl, if_neg fun h => absurd h.2 (by decide)]
    rfl
  · rw [if_neg hopen, if_neg hclose, nest, if_neg hopen, if_neg hclose]
    rfl

/-- An unquoted value is unbroken, and either nothing is left behind it or what ends it, outside of
all braces. -/
theorem takeUnquoted_eq_iff :
    takeUnquoted n cs = (v, rest) ↔
      cs = v ++ rest ∧ Unbroken n v ∧ ∀ c ∈ rest.head?, EndsValue c ∧ v.foldl nest n = 0 := by
  induction cs generalizing n v with
  | nil =>
    rw [takeUnquoted, Prod.mk.injEq]
    constructor
    · rintro ⟨rfl, rfl⟩
      exact ⟨rfl, unbroken_nil n, by simp⟩
    · rintro ⟨h, -, -⟩
      obtain ⟨rfl, rfl⟩ := List.append_eq_nil_iff.1 h.symm
      exact ⟨rfl, rfl⟩
  | cons c cs ih =>
    rw [takeUnquoted_cons]
    split
    · next hc =>
      rw [Prod.mk.injEq]
      constructor
      · rintro ⟨rfl, rfl⟩
        exact ⟨rfl, unbroken_nil n, by simpa using And.symm hc⟩
      · rintro ⟨h, hv, -⟩
        cases v with
        | nil => exact ⟨rfl, h⟩
        | cons x v =>
          obtain ⟨rfl, -⟩ := List.cons.inj h
          exact absurd hc (unbroken_cons.1 hv).1
    · next hc =>
      cases v with
      | nil =>
        refine iff_of_false (by simp) ?_
        rintro ⟨h, -, hrest⟩
        rw [List.nil_append] at h
        subst h
        exact hc (hrest c rfl).symm
      | cons x v =>
        have ih := ih (n := nest n c) (v := v)
        rw [Prod.ext_iff] at ih
        rw [Prod.mk.injEq, List.cons.injEq, List.cons_append, List.cons.injEq, and_assoc,
          and_assoc, ih, unbroken_cons]
        constructor
        · rintro ⟨rfl, h, hv, hrest⟩
          exact ⟨rfl, h, ⟨hc, hv⟩, hrest⟩
        · rintro ⟨rfl, h, ⟨-, hv⟩, hrest⟩
          exact ⟨rfl, h, hv, hrest⟩

instance (n : Nat) : DecidablePred (Unbroken n) := fun cs =>
  decidable_of_iff (takeUnquoted n cs = (cs, [])) <| by
    rw [takeUnquoted_eq_iff]
    simp

/-- No longer text is unbroken than one that is ended by what stands behind it. -/
theorem prefix_of_unbroken (hc : EndsValue c) (hv : depth v = 0) (hw : Unbroken 0 w)
    (h : w <+: v ++ c :: rest) : w <+: v := by
  rcases List.prefix_or_prefix_of_prefix h (List.prefix_append v (c :: rest)) with hwv | ⟨s, rfl⟩
  · exact hwv
  · cases s with
    | nil => rw [List.append_nil]
    | cons x s =>
      obtain ⟨rfl, -⟩ := List.cons_prefix_cons.1 ((List.prefix_append_right_inj v).1 h)
      exact absurd hv (hw v x s rfl hc)

/-- What an unquoted value is, and what stands behind it: it goes as far as it can, it closes the
braces it opens, and so its expressions end within it. -/
structure Complete (v after : List Char) : Prop where
  unbroken : Unbroken 0 v
  longest : ∀ w, w <+: v ++ after → Unbroken 0 w → w <+: v
  depth_eq : depth v = 0
  closes : ∀ p s, v = p ++ s → 0 < depth p → Segment.Closes p s
  balanced : ∀ e, .expression e ∈ Segment.parse (String.ofList v) → Segment.Balanced e.toList

/-- A value that is taken before the page ends is complete. -/
theorem complete_of_takeUnquoted (h : takeUnquoted 0 cs = (v, after)) (ha : after ≠ []) :
    Complete v after := by
  obtain ⟨c, r, rfl⟩ := List.exists_cons_of_ne_nil ha
  obtain ⟨-, hv, hrest⟩ := takeUnquoted_eq_iff.1 h
  obtain ⟨hc, hdepth⟩ : EndsValue c ∧ depth v = 0 := hrest c rfl
  refine ⟨hv, fun w hw hwu => prefix_of_unbroken hc hdepth hwu hw, hdepth, ?_, ?_⟩
  · rintro p s rfl hp
    exact Segment.closes_of_depth_eq hdepth hp
  · refine (Segment.printable_parse ?_).expression
    rwa [String.toList_ofList]

/-! ## The values in a tag -/

/-- The value of the attribute that stands in front starts here. -/
def ValueAt (cs t : List Char) : Prop :=
  ∃ c r r', skip cs = c :: r ∧ c ≠ '>' ∧ c ≠ '/' ∧
    skip ((c :: r).dropWhile (!endsAttributeName ·)) = '=' :: r' ∧ skip r' = t

/-- One turn of reading what is in a tag: a slash is passed, or an attribute with its value, or a
value without a name and what stands behind it. -/
inductive Passes (cs : List Char) : List Char → Prop
  | slash {r : List Char} (hs : skip cs = '/' :: r) : Passes cs r
  | named {c : Char} {r rest : List Char} {value : Option (List Char)} (hs : skip cs = c :: r)
      (hc : endsAttributeName c = false)
      (hv : takeValue? ((c :: r).dropWhile (!endsAttributeName ·)) = some (value, rest)) :
      Passes cs rest
  | nameless {x : Char} {r rest : List Char} {value : Option (List Char)}
      (hs : skip cs = '=' :: r) (hv : takeValue? ('=' :: r) = some (value, x :: rest))
      (hx : x.utf8Size = 1) : Passes cs rest

/-- A value that is met where a tag is read, in quotes or without, and what stands behind it. -/
inductive Meets : List Char → Bool → List Char → List Char → Prop
  | quoted {cs t v rest : List Char} {q : Char} (hat : ValueAt cs (q :: t))
      (hq : q = '"' ∨ q = '\'') (hv : Text.splitAtFirst? [q] t = some (v, rest)) :
      Meets cs true v rest
  | unquoted {cs t v rest : List Char} {q : Char} (hat : ValueAt cs (q :: t))
      (hq : ¬ (q = '"' ∨ q = '\'')) (hv : takeUnquoted 0 (q :: t) = (v, rest)) :
      Meets cs false v rest
  | behind {cs cs' v rest : List Char} {quoted : Bool} (hp : Passes cs cs')
      (hm : Meets cs' quoted v rest) : Meets cs quoted v rest

/-- Reading goes on behind what is passed. -/
theorem Passes.exists_takeAttributes? (h : Passes cs cs') (attributes : Attributes)
    (selfClosing : Bool) :
    ∃ attributes' selfClosing',
      takeAttributes? attributes selfClosing cs = takeAttributes? attributes' selfClosing' cs' := by
  cases h with
  | slash hs => exact ⟨attributes, true, by rw [takeAttributes?_of_skip hs]; rfl⟩
  | named hs hc hv => exact ⟨_, false, takeAttributes?_named hs hc hv⟩
  | nameless hs hv hx => exact ⟨attributes, false, takeAttributes?_nameless hs hv hx⟩

theorem takeValue?_of_skip (hs : skip cs = '=' :: r) (hr : skip r = q :: t) :
    takeValue? cs =
      if q = '"' ∨ q = '\'' then
        (Text.splitAtFirst? [q] t).map fun (value, rest) => (some value, rest)
      else some (some (takeUnquoted 0 (q :: t)).1, (takeUnquoted 0 (q :: t)).2) := by
  rw [takeValue?, hs]
  simp only [hr]

/-- There is nothing to read if the text ends with a value. -/
theorem takeAttributes?_of_valueAt {value : Option (List Char)} (h : ValueAt cs (q :: t))
    (hv : ∀ u r, skip u = '=' :: r → skip r = q :: t → takeValue? u = some (value, [])) :
    takeAttributes? attributes selfClosing cs = .ok none := by
  obtain ⟨c, r, r', hs, hgt, hslash, hr, ht⟩ := h
  rw [takeAttributes?_of_skip hs, if_neg hgt, if_neg hslash, hv _ r' hr ht]
  dsimp only
  split
  · rfl
  · exact takeAttributes?_of_skip_nil rfl

/-- Something stands behind every value of a tag that is read. -/
theorem Meets.ne_nil (h : Meets cs quoted v after) {found : (Attributes × Bool) × List Char}
    (ht : takeAttributes? attributes selfClosing cs = .ok (some found)) : after ≠ [] := by
  induction h generalizing attributes selfClosing with
  | quoted hat hq hv =>
    rintro rfl
    rw [takeAttributes?_of_valueAt hat fun u r hs hr => by
      rw [takeValue?_of_skip hs hr, if_pos hq, hv]; rfl] at ht
    simp at ht
  | unquoted hat hq hv =>
    rintro rfl
    rw [takeAttributes?_of_valueAt hat fun u r hs hr => by
      rw [takeValue?_of_skip hs hr, if_neg hq, hv]] at ht
    simp at ht
  | behind hp _ ih =>
    obtain ⟨_, _, hread⟩ := hp.exists_takeAttributes? attributes selfClosing
    exact ih (hread ▸ ht)

theorem ValueAt.suffix (h : ValueAt cs t) : t <:+ cs := by
  obtain ⟨c, r, r', hs, -, -, hr, rfl⟩ := h
  have hname : (c :: r).dropWhile (!endsAttributeName ·) <:+ cs :=
    (List.dropWhile_suffix _).trans (hs ▸ List.dropWhile_suffix isBlank)
  exact (List.dropWhile_suffix isBlank).trans ((suffix_of_skip hr).trans hname)

/-- Reading goes forward only. -/
theorem Passes.suffix (h : Passes cs cs') : cs' <:+ cs := by
  cases h with
  | slash hs => exact suffix_of_skip hs
  | named hs _ hv => exact suffix_of_attribute hs hv
  | @nameless x _ _ _ hs hv _ =>
    have hvalue : x :: cs' <:+ cs :=
      suffix_of_attribute hs (by rwa [List.dropWhile_cons_of_neg (by decide)])
    exact (List.suffix_cons x cs').trans hvalue

/-- An unquoted value is read from the text of the tag where it starts. -/
theorem Meets.exists_takeUnquoted (h : Meets cs false v after) :
    ∃ t, t <:+ cs ∧ takeUnquoted 0 t = (v, after) := by
  generalize hquoted : false = quoted at h
  induction h with
  | quoted => simp at hquoted
  | unquoted hat _ hv => exact ⟨_, hat.suffix, hv⟩
  | behind hp _ ih =>
    obtain ⟨t, ht, hv⟩ := ih hquoted
    exact ⟨t, ht.trans hp.suffix, hv⟩

/-! ## All values are met -/

/-- An attribute after another one was put in is that one or was there before. -/
theorem mem_put {name : String} {value : Option String} {a : String × Option String}
    (h : a ∈ Document.put name value attributes) : a ∈ attributes ∨ a = (name, value) := by
  induction attributes with
  | nil => exact .inr (List.mem_singleton.1 h)
  | cons b attributes ih =>
    rw [Document.put] at h
    split at h
    · rcases List.mem_cons.1 h with rfl | h
      · exact .inr rfl
      · exact .inl (List.mem_cons_of_mem b h)
    · rcases List.mem_cons.1 h with rfl | h
      · exact .inl List.mem_cons_self
      · exact (ih h).imp_left (List.mem_cons_of_mem b)

theorem meets_of_takeValue? (hs : skip cs = c :: r) (hc : endsAttributeName c = false)
    (hv : takeValue? ((c :: r).dropWhile (!endsAttributeName ·)) = some (some v, rest)) :
    ∃ quoted, Meets cs quoted v rest := by
  obtain ⟨hgt, hslash⟩ := ne_of_endsAttributeName hc
  rw [takeValue?] at hv
  split at hv
  · next r' hr =>
    split at hv
    · simp at hv
    · next q t ht =>
      have hat : ValueAt cs (q :: t) := ⟨c, r, r', hs, hgt, hslash, hr, ht⟩
      split at hv
      · next hq =>
        obtain ⟨⟨w, after⟩, hsplit, hw⟩ := Option.map_eq_some_iff.1 hv
        simp only [Prod.mk.injEq, Option.some.injEq] at hw
        obtain ⟨rfl, rfl⟩ := hw
        exact ⟨true, .quoted hat hq hsplit⟩
      · next hq =>
        simp only [Option.some.injEq, Prod.mk.injEq] at hv
        obtain ⟨rfl, rfl⟩ := hv
        exact ⟨false, .unquoted hat hq rfl⟩
  · simp at hv

theorem Passes.exists_meets (hp : Passes cs cs') (h : ∃ quoted after, Meets cs' quoted v after) :
    ∃ quoted after, Meets cs quoted v after := by
  obtain ⟨quoted, after, hm⟩ := h
  exact ⟨quoted, after, .behind hp hm⟩

/-- The value of every attribute that comes in is met on the way. -/
theorem meets_of_mem {found : Attributes × Bool} {a : String × Option String}
    (h : takeAttributes? attributes selfClosing cs = .ok (some (found, rest)))
    (ha : a ∈ found.1) :
    a ∈ attributes ∨ ∀ v ∈ a.2, ∃ quoted after, Meets cs quoted v.toList after := by
  fun_induction takeAttributes? attributes selfClosing cs with
  | case1 => simp at h
  | case2 =>
    obtain ⟨rfl, -⟩ : _ ∧ _ := by simpa using h
    exact .inl ha
  | case3 _ _ _ _ hs _ ih =>
    exact (ih h).imp_right fun hmeets v hv => (Passes.slash hs).exists_meets (hmeets v hv)
  | case4 => simp at h
  | case5 => simp at h
  | case6 _ _ _ _ _ hs hgt hslash _ hc _ _ hv hx _ ih =>
    obtain rfl := eq_of_endsAttributeName hs hc hgt hslash
    rw [List.dropWhile_cons_of_neg (by decide)] at hv
    exact (ih h).imp_right fun hmeets v hvalue =>
      (Passes.nameless hs hv hx).exists_meets (hmeets v hvalue)
  | case7 => simp at h
  | case8 _ _ _ _ _ hs _ _ value _ hv hc _ ih =>
    have hc := Bool.not_eq_true _ ▸ hc
    rcases ih h with hput | hmeets
    · refine (mem_put hput).imp_right ?_
      rintro rfl v hvalue
      obtain ⟨w, rfl, rfl⟩ := Option.map_eq_some_iff.1 hvalue
      rw [String.toList_ofList]
      obtain ⟨quoted, hm⟩ := meets_of_takeValue? hs hc hv
      exact ⟨quoted, _, hm⟩
    · exact .inr fun v hvalue => (Passes.named hs hc hv).exists_meets (hmeets v hvalue)

/-! ## Reading unquoted values back -/

/-- A value is read as it stands in front of the end of the tag. -/
theorem takeValue?_of_unbroken (hv : Unbroken 0 v) (hd : depth v = 0) (hdouble : v.head? ≠ some '"')
    (hsingle : v.head? ≠ some '\'') :
    takeValue? ('=' :: (v ++ '>' :: rest)) = some (some v, '>' :: rest) := by
  have htake : takeUnquoted 0 (v ++ '>' :: rest) = (v, '>' :: rest) :=
    takeUnquoted_eq_iff.2 ⟨rfl, hv, by simpa using ⟨.inr rfl, hd⟩⟩
  obtain ⟨q, t, hqt, hblank, hq⟩ : ∃ q t, v ++ '>' :: rest = q :: t ∧ isBlank q = false ∧
      ¬ (q = '"' ∨ q = '\'') := by
    cases v with
    | nil => exact ⟨'>', rest, rfl, by decide, by decide⟩
    | cons c v =>
      refine ⟨c, v ++ '>' :: rest, rfl, ?_, by simpa [not_or] using And.intro hdouble hsingle⟩
      rw [← Bool.not_eq_true]
      exact fun hblank => (unbroken_cons.1 hv).1 ⟨rfl, .inl hblank⟩
  have hskip : skip (v ++ '>' :: rest) = q :: t := by
    rw [hqt, skip, List.dropWhile_cons_of_neg (by simp [hblank])]
  rw [takeValue?_of_skip (List.dropWhile_cons_of_neg (by decide)) hskip, if_neg hq, ← hqt, htake]

theorem takeStartTag?_unquoted (ht : ∀ c ∈ t, c.isAlpha = true) (hv : Unbroken 0 v)
    (hd : depth v = 0) (hdouble : v.head? ≠ some '"') (hsingle : v.head? ≠ some '\'')
    (rest : List Char) :
    takeStartTag? (t ++ ' ' :: 'a' :: '=' :: (v ++ '>' :: rest)) =
      .ok (some (⟨lower t, [("a", some (String.ofList v))], false⟩, rest)) := by
  have hname : ∀ c ∈ t, (!endsName c) = true := fun c hc => by
    rw [endsName_eq_false_of_isAlpha (ht c hc), Bool.not_false]
  have hread : takeAttributes? [] false (' ' :: 'a' :: '=' :: (v ++ '>' :: rest)) =
      .ok (some (([("a", some (String.ofList v))], false), rest)) := by
    have hvalue : takeValue? (('a' :: '=' :: (v ++ '>' :: rest)).dropWhile (!endsAttributeName ·)) =
        some (some v, '>' :: rest) := takeValue?_of_unbroken hv hd hdouble hsingle
    rw [takeAttributes?_named rfl (by decide) hvalue]
    exact takeAttributes?_close rfl
  rw [takeStartTag?, List.dropWhile_append_of_pos hname, List.dropWhile_cons_of_neg (by decide),
    hread, List.takeWhile_append_of_pos hname, List.takeWhile_cons_of_neg (by decide),
    List.append_nil]
  rfl

/-! ## A page that is one start tag -/

/-- Nothing but empty texts is met behind a start tag at the end of a page. -/
theorem exists_eventsBehind (tag : StartTag) :
    ∃ more, eventsBehind tag [] = .ok more ∧ ∀ event ∈ more, event = .text "" := by
  have hnil : eventsFrom [] [] = .ok [.text ""] := eventsFrom_nil
  rw [eventsBehind]
  split
  · exact ⟨[.text "", .text ""], by simp only [takeRaw, hnil]; rfl, by simp⟩
  · exact ⟨[.text ""], hnil, by simp⟩

/-- Empty texts change nothing. -/
theorem Draft.run_of_forall_eq {p : Draft} {events : List Event}
    (h : ∀ event ∈ events, event = .text "") : p.run events = p := by
  induction events with
  | nil => rfl
  | cons event events ih =>
    rw [List.forall_mem_cons] at h
    have hstep : p.step event = p := by
      rw [h.1]
      rfl
    rw [Draft.run, List.foldl_cons, hstep]
    exact ih h.2

theorem Draft.trees_start (tag : StartTag) :
    (Draft.start.step (.start tag)).trees =
      [.element tag.name (Page.merged tag.attributes) []] := by
  rw [Draft.step]
  split
  · rfl
  · rfl

/-- A page that is a start tag and nothing else has one element. -/
theorem parse_startTag {tag : StartTag} (hc : c.isAlpha = true)
    (h : takeStartTag? (c :: r) = .ok (some (tag, []))) :
    ∃ d, parse (String.ofList ('<' :: c :: r)) = .ok d ∧
      d.trees = [.element tag.name (Page.merged tag.attributes) []] := by
  obtain ⟨more, hbehind, hmore⟩ := exists_eventsBehind tag
  have hevents : eventsFrom [] ('<' :: c :: r) = .ok (.text "" :: .start tag :: more) := by
    rw [eventsFrom_of_takeStartTag? hc h, hbehind]
    rfl
  have hparse : parse (String.ofList ('<' :: c :: r)) =
      .ok (Builder.start.run (.text "" :: .start tag :: more)).document := by
    rw [Builder.parse_eq, Builder.read, String.toList_ofList, hevents]
    rfl
  refine ⟨_, hparse, ?_⟩
  have hrun := Builder.Realizes.start.run (.text "" :: .start tag :: more)
  have hdraft : Draft.start.run (.text "" :: .start tag :: more) =
      Draft.start.step (.start tag) := Draft.run_of_forall_eq hmore
  rw [hdraft] at hrun
  exact hrun.traces.below_root_eq.trans (Draft.trees_start tag)

/-- Every unquoted value of a tag that is read is the longest text from its start without a blank or
a `>` outside of braces. It closes the braces it opens, so each of its expressions is closed in it;
and the values that the attributes have are all met, in quotes or without. The other way round, a
text of this kind that does not begin with a quote is read back from between `a=` and the end of a
tag, and this tag alone is a page with one element. -/
theorem unquoted_values :
    (∀ cs tag rest, takeStartTag? cs = .ok (some (tag, rest)) →
      (∀ v after, Meets (cs.dropWhile (!endsName ·)) false v after →
        v ++ after <:+ cs ∧ Complete v after) ∧
      ∀ a ∈ tag.attributes, ∀ v ∈ a.2,
        ∃ quoted after, Meets (cs.dropWhile (!endsName ·)) quoted v.toList after) ∧
    ∀ t v, (∀ c ∈ t, c.isAlpha = true) → Unbroken 0 v → depth v = 0 → v.head? ≠ some '"' →
      v.head? ≠ some '\'' →
      (∀ rest, takeStartTag? (t ++ ' ' :: 'a' :: '=' :: (v ++ '>' :: rest)) =
        .ok (some (⟨lower t, [("a", some (String.ofList v))], false⟩, rest))) ∧
      (t ≠ [] → ∃ d, parse (String.ofList ('<' :: (t ++ ' ' :: 'a' :: '=' :: (v ++ ['>'])))) =
          .ok d ∧
        d.trees = [.element (lower t) [("a", some (String.ofList v))] []]) := by
  refine ⟨fun cs tag rest h => ?_, fun t v ht hv hd hdouble hsingle => ?_⟩
  · rw [takeStartTag?_eq_map] at h
    obtain ⟨more, hread, hmore⟩ := ok_of_map_ok h
    obtain ⟨⟨found, r⟩, rfl, hfound⟩ := Option.map_eq_some_iff.1 hmore
    obtain ⟨rfl, -⟩ := Prod.mk.inj hfound
    refine ⟨fun v after hm => ?_, fun a ha => ?_⟩
    · obtain ⟨t, ht, hv⟩ := hm.exists_takeUnquoted
      refine ⟨?_, complete_of_takeUnquoted hv (hm.ne_nil hread)⟩
      rw [← (takeUnquoted_eq_iff.1 hv).1]
      exact ht.trans (List.dropWhile_suffix _)
    · exact (meets_of_mem hread ha).resolve_left List.not_mem_nil
  · have hread := takeStartTag?_unquoted ht hv hd hdouble hsingle
    refine ⟨hread, fun hne => ?_⟩
    obtain ⟨c, t, rfl⟩ := List.exists_cons_of_ne_nil hne
    have hmerged : Page.merged [("a", some (String.ofList v))] =
        [("a", some (String.ofList v))] := rfl
    rw [← hmerged]
    exact parse_startTag (ht c List.mem_cons_self) (hread [])

/-- A `>` in braces does not end the tag, neither with blanks around it nor in braces of its own. -/
theorem unquoted_values_of_braces :
    Complete "\x7ba > b\x7d".toList " x=1>".toList ∧
      ∃ d, parse "<B a=\x7ba\x7b>\x7d \x7d>" = .ok d ∧
        d.trees = [.element "b" [("a", some "\x7ba\x7b>\x7d \x7d")] []] := by
  have hread : takeStartTag? "yes value=\x7ba > b\x7d x=1>".toList =
      .ok (some (⟨"yes", [("value", some "\x7ba > b\x7d"), ("x", some "1")], false⟩, [])) := by
    cbv
  have hmeets : Meets ("yes value=\x7ba > b\x7d x=1>".toList.dropWhile (!endsName ·)) false
      "\x7ba > b\x7d".toList " x=1>".toList := by
    refine .unquoted (q := '{') (t := "a > b\x7d x=1>".toList) ?_ (by decide) (by decide)
    exact ⟨'v', "alue=\x7ba > b\x7d x=1>".toList, "\x7ba > b\x7d x=1>".toList, rfl,
      by decide, by decide, rfl, rfl⟩
  refine ⟨((unquoted_values.1 _ _ _ hread).1 _ _ hmeets).2, ?_⟩
  exact (unquoted_values.2 ['B'] "\x7ba\x7b>\x7d \x7d".toList (by simp) (by decide)
    (by decide) (by decide) (by decide)).2 (by decide)

end Stencil.Markup
