import Mathlib.Data.List.Forall2
import Stencil.Proofs.Segment
import Stencil.Proofs.Text.Occurrence
import Stencil.Route.Match

/-!
# Matching cuts paths

A template is a text, and captures that each have a text behind them (`Segment.lead`,
`Segment.captures`). A path matches if it is the template with values in the place of the captures,
where the text behind each value first occurs there (`Template.Cuts`). There is one way at most to
cut a path like this, and matching finds it (`match?_eq_some_iff`).
-/

namespace Stencil

/-- A capture of a template, with the plain text behind it. Where there is none, the text is
empty. -/
structure Capture where
  expression : String
  behind : String
deriving DecidableEq, Repr

namespace Segment

/-- The segments of a plain text, which has none if it is empty. -/
def plain (text : String) : List Segment := if text = "" then [] else [.literal text]

/-- The plain text in front of the first expression. -/
def lead : List Segment → String
  | .literal text :: _ => text
  | _ => ""

/-- The expressions, each with the plain text behind it. -/
def captures : List Segment → List Capture
  | [] => []
  | .literal _ :: segments => captures segments
  | .expression e :: .literal text :: segments => ⟨e, text⟩ :: captures segments
  | .expression e :: segments => ⟨e, ""⟩ :: captures segments

end Segment

namespace Capture

variable {c c' : Capture} {cs : List Capture} {path : List Char} {values : List (List Char)}

/-- The name of a capture. -/
def name (c : Capture) : String := Text.trimmed c.expression

/-- The segments of a capture. -/
def segments (c : Capture) : List Segment := .expression c.expression :: Segment.plain c.behind

/-- A value and the text behind a capture, if there is one, are told apart by where that text first
occurs. -/
def Fits (c : Capture) (value : List Char) : Prop :=
  c.behind ≠ "" → Text.FirstBehind c.behind.toList value

instance {value : List Char} : Decidable (c.Fits value) :=
  inferInstanceAs (Decidable (c.behind ≠ "" → Text.FirstBehind c.behind.toList value))

/-- Values in the place of captures, each with the text behind it. -/
def filled (cs : List Capture) (values : List (List Char)) : List Char :=
  (List.zipWith (fun v c => v ++ c.behind.toList) values cs).flatten

/-- All captures but the last have text behind them. -/
def Separated (cs : List Capture) : Prop := ∀ c ∈ cs.dropLast, c.behind ≠ ""

theorem segments_of_behind_eq (h : c.behind = "") : c.segments = [.expression c.expression] := by
  rw [segments, Segment.plain, if_pos h]

theorem segments_of_behind_ne (h : c.behind ≠ "") :
    c.segments = [.expression c.expression, .literal c.behind] := by
  rw [segments, Segment.plain, if_neg h]

theorem separated_cons_cons :
    Separated (c :: c' :: cs) ↔ c.behind ≠ "" ∧ Separated (c' :: cs) := by
  simp [Separated]

theorem Separated.tail (h : Separated (c :: cs)) : Separated cs := by
  cases cs with
  | nil => simp [Separated]
  | cons c' cs => exact (separated_cons_cons.1 h).2

/-! ## What captures hold -/

/-- A last capture with nothing behind it holds all that is left. -/
theorem capture?_of_behind_eq (h : c.behind = "") :
    Route.capture? ([c].flatMap segments) path = some values ↔ values = [path] := by
  rw [List.flatMap_singleton, segments_of_behind_eq h, Route.capture?, Option.some.injEq, eq_comm]

/-- A capture with text behind it holds what stands before the first occurrence of the text. -/
theorem capture?_of_behind_ne (h : c.behind ≠ "") :
    Route.capture? ((c :: cs).flatMap segments) path = some values ↔
      ∃ v rest vs, path = v ++ c.behind.toList ++ rest ∧ Text.FirstBehind c.behind.toList v ∧
        Route.capture? (cs.flatMap segments) rest = some vs ∧ values = v :: vs := by
  rw [List.flatMap_cons, segments_of_behind_ne h, List.cons_append, List.singleton_append,
    Route.capture?]
  constructor
  · intro hm
    split at hm
    · next v rest hsplit =>
      obtain ⟨hpath, hfirst⟩ := Text.splitAtFirst?_eq_some_iff.1 hsplit
      obtain ⟨vs, hvs, rfl⟩ := Option.map_eq_some_iff.1 hm
      exact ⟨v, rest, vs, hpath, hfirst, hvs, rfl⟩
    · exact absurd hm (by simp)
  · rintro ⟨v, rest, vs, hpath, hfirst, hvs, rfl⟩
    rw [Text.splitAtFirst?_eq_some_iff.2 ⟨hpath, hfirst⟩]
    exact Option.map_eq_some_iff.2 ⟨vs, hvs, rfl⟩

/-- Captures in a row hold the values that, with the texts between them, make up a path and fit. -/
theorem capture?_eq_some_iff (h : Separated cs) :
    Route.capture? (cs.flatMap segments) path = some values ↔
      path = filled cs values ∧ List.Forall₂ (fun v c => Fits c v) values cs := by
  induction cs generalizing path values with
  | nil =>
    rw [List.forall₂_nil_right_iff, List.flatMap_nil, Route.capture?]
    constructor
    · intro hm
      split at hm
      · next hp => exact ⟨by simp [hp, filled], (Option.some.inj hm).symm⟩
      · simp at hm
    · rintro ⟨rfl, rfl⟩
      rfl
  | cons c cs ih =>
    by_cases hc : c.behind = ""
    · have hcs : cs = [] := by
        cases cs with
        | nil => rfl
        | cons c' cs => exact absurd hc (separated_cons_cons.1 h).1
      subst hcs
      rw [capture?_of_behind_eq hc]
      constructor
      · rintro rfl
        exact ⟨by simp [filled, hc], .cons (fun hne => absurd hc hne) .nil⟩
      · rintro ⟨rfl, hfit⟩
        obtain ⟨v, vs, -, hvs, rfl⟩ := List.forall₂_cons_right_iff.1 hfit
        obtain rfl := List.forall₂_nil_right_iff.1 hvs
        simp [filled, hc]
    · rw [capture?_of_behind_ne hc]
      constructor
      · rintro ⟨v, rest, vs, rfl, hfirst, hvs, rfl⟩
        obtain ⟨rfl, hfit⟩ := (ih h.tail).1 hvs
        exact ⟨by simp [filled], .cons (fun _ => hfirst) hfit⟩
      · rintro ⟨rfl, hfit⟩
        obtain ⟨v, vs, hv, hvs, rfl⟩ := List.forall₂_cons_right_iff.1 hfit
        exact ⟨v, filled cs vs, vs, by simp [filled], hv hc, (ih h.tail).2 ⟨rfl, hvs⟩, rfl⟩

end Capture

namespace Segment

variable {segments : List Segment}

/-! ## The captures of a template -/

/-- Segments that begin with an expression are the segments of their captures. -/
theorem Alternate.eq_flatMap_captures (h : Alternate segments)
    (hhead : ∀ s ∈ segments.head?, s.isExpression = true) :
    segments = (captures segments).flatMap Capture.segments ∧
      Capture.Separated (captures segments) := by
  fun_induction captures segments with
  | case1 => exact ⟨rfl, by simp [Capture.Separated]⟩
  | case2 text segments => exact absurd (hhead _ rfl) (by simp [isExpression])
  | case3 e text segments ih =>
    have htext : text ≠ "" := h.text_ne (.literal text) (by simp)
    obtain ⟨heq, hsep⟩ := ih h.of_cons.of_cons (by
      rintro s hs
      obtain ⟨rest, rfl⟩ := List.head?_eq_some_iff.1 hs
      cases h.isChain with
      | cons_cons _ h => cases h with
        | cons_cons hne _ => simpa [isExpression] using hne)
    refine ⟨?_, ?_⟩
    · rw [List.flatMap_cons, ← heq, Capture.segments_of_behind_ne htext]
      rfl
    · cases hcs : captures segments with
      | nil => simp [Capture.Separated]
      | cons c cs => exact Capture.separated_cons_cons.2 ⟨htext, hcs ▸ hsep⟩
  | case4 e segments hno ih =>
    have hnil : segments = [] := by
      cases segments with
      | nil => rfl
      | cons s segments =>
        cases s with
        | literal text => exact absurd rfl (hno text segments)
        | expression e' => cases h.isChain with
          | cons_cons hne _ => exact absurd rfl hne
    subst hnil
    exact ⟨by simp [captures, Capture.segments, plain], by simp [captures, Capture.Separated]⟩

/-- A list of segments is a plain text with captures behind it. -/
theorem Alternate.eq_plain_append (h : Alternate segments) :
    segments = plain (lead segments) ++ (captures segments).flatMap Capture.segments ∧
      Capture.Separated (captures segments) := by
  cases segments with
  | nil => exact ⟨rfl, by simp [captures, Capture.Separated]⟩
  | cons s segments =>
    cases s with
    | literal text =>
      obtain ⟨heq, hsep⟩ := h.of_cons.eq_flatMap_captures (by
        intro s hs
        obtain ⟨rest, rfl⟩ := List.head?_eq_some_iff.1 hs
        cases h.isChain with
        | cons_cons hne _ => simpa [isExpression] using hne)
      have htext : text ≠ "" := h.text_ne (.literal text) (by simp)
      refine ⟨?_, hsep⟩
      rw [lead, plain, if_neg htext, List.singleton_append, captures, ← heq]
    | expression e =>
      obtain ⟨heq, hsep⟩ := h.eq_flatMap_captures (by
        intro s hs
        obtain rfl := Option.some.inj hs
        rfl)
      exact ⟨heq, hsep⟩

theorem names_eq_map_captures : names segments = (captures segments).map Capture.name := by
  fun_induction captures segments with
  | case1 => rfl
  | case2 text segments ih => exact ih
  | case3 e text segments ih => exact congrArg _ ih
  | case4 e segments hno ih => exact congrArg _ ih

end Segment

namespace Route.Template

variable {t : Template} {source path : String} {values values' : List String}

/-- The captures of a template. -/
def captures (t : Template) : List Capture := Segment.captures t.segments

/-- The template with values in the place of its captures. -/
def filled (t : Template) (values : List String) : String :=
  Segment.lead t.segments ++
    String.join (List.zipWith (fun v (c : Capture) => v ++ c.behind) values t.captures)

/-- The path is the template with values in the place of its captures, one for each, and wherever
there is text behind a capture, it first occurs right behind the value. -/
structure Cuts (t : Template) (path : String) (values : List String) : Prop where
  path_eq : path = t.filled values
  fits : List.Forall₂ (fun v c => Capture.Fits c v.toList) values t.captures

theorem toList_filled (t : Template) (values : List String) :
    (t.filled values).toList =
      (Segment.lead t.segments).toList ++ Capture.filled t.captures (values.map String.toList) := by
  rw [filled, String.toList_append, String.toList_join, Capture.filled, List.flatMap,
    List.map_zipWith, List.zipWith_map_left]
  simp only [String.toList_append]

theorem names_eq (t : Template) : t.names = t.captures.map Capture.name :=
  Segment.names_eq_map_captures

/-- The plain text in front of the first capture must be in front of the path. -/
theorem capture?_plain_append {text : String} {segments : List Segment} {path : List Char}
    {values : List (List Char)} :
    capture? (Segment.plain text ++ segments) path = some values ↔
      ∃ rest, path = text.toList ++ rest ∧ capture? segments rest = some values := by
  by_cases h : text = ""
  · subst h
    simp [Segment.plain]
  · rw [Segment.plain, if_neg h, List.singleton_append, capture?]
    constructor
    · intro hm
      split at hm
      · next hp =>
        obtain ⟨rest, rfl⟩ := List.isPrefixOf_iff_prefix.1 hp
        rw [List.drop_left] at hm
        exact ⟨rest, rfl, hm⟩
      · simp at hm
    · rintro ⟨rest, rfl, hm⟩
      rwa [if_pos (List.isPrefixOf_iff_prefix.2 (List.prefix_append _ _)), List.drop_left]

/-- What the captures hold of a path is how the path is cut. -/
theorem capture?_eq_some_iff_cuts (h : Segment.Alternate t.segments) :
    capture? t.segments path.toList = some (values.map String.toList) ↔ t.Cuts path values := by
  obtain ⟨heq, hsep⟩ := h.eq_plain_append
  rw [heq, capture?_plain_append]
  constructor
  · rintro ⟨rest, hpath, hm⟩
    obtain ⟨rfl, hfit⟩ := (Capture.capture?_eq_some_iff hsep).1 hm
    refine ⟨String.ext ?_, List.forall₂_map_left_iff.1 hfit⟩
    rw [hpath, toList_filled]
    rfl
  · rintro ⟨rfl, hfit⟩
    refine ⟨_, toList_filled t values, (Capture.capture?_eq_some_iff hsep).2 ⟨rfl, ?_⟩⟩
    exact List.forall₂_map_left_iff.2 hfit

/-- A path is cut in one way at most. -/
theorem Cuts.unique (h : Segment.Alternate t.segments) (hv : t.Cuts path values)
    (hv' : t.Cuts path values') : values = values' := by
  have he := (capture?_eq_some_iff_cuts h).2 hv
  rw [(capture?_eq_some_iff_cuts h).2 hv', Option.some.injEq] at he
  exact (List.map_injective_iff.2 fun a b => String.ext) he.symm

theorem match?_of_captures_eq_nil (h : t.captures = []) {found : Bindings String} :
    t.match? path = some found ↔ found = [] ∧ path = t.source := by
  rw [match?, names_eq, h, List.map_nil, List.isEmpty_nil, if_pos rfl]
  constructor
  · intro hm
    split at hm
    · next hs => exact ⟨(Option.some.inj hm).symm, hs.symm⟩
    · simp at hm
  · rintro ⟨rfl, rfl⟩
    rw [if_pos rfl]

theorem match?_of_captures_ne_nil (h : Segment.Alternate t.segments) (hc : t.captures ≠ [])
    {found : Bindings String} :
    t.match? path = some found ↔ ∃ values, t.Cuts path values ∧ found = t.names.zip values := by
  have hne : t.names.isEmpty = false := by
    rw [names_eq, List.isEmpty_map, List.isEmpty_eq_false_iff]
    exact hc
  rw [match?, hne, if_neg Bool.false_ne_true, Option.map_eq_some_iff]
  constructor
  · rintro ⟨vs, hm, rfl⟩
    refine ⟨vs.map String.ofList, (capture?_eq_some_iff_cuts h).1 ?_, rfl⟩
    rw [hm, List.map_map]
    simp [Function.comp_def]
  · rintro ⟨values, hcuts, rfl⟩
    refine ⟨_, (capture?_eq_some_iff_cuts h).2 hcuts, ?_⟩
    simp [List.map_map, Function.comp_def]

/-- A template is a text with captures behind it, each with a text behind it. With captures, what
it finds in a path are the values by which the path is cut; there is one list of them at most, and
without one the path does not match. Without captures it matches the very text it is written as. -/
theorem match?_eq_some_iff (source path : String) :
    (ofString source).segments =
        Segment.plain (Segment.lead (ofString source).segments) ++
          (ofString source).captures.flatMap Capture.segments ∧
      (∀ found, (ofString source).match? path = some found ↔
        if (ofString source).captures = [] then found = [] ∧ path = source
        else ∃ values, (ofString source).Cuts path values ∧
          found = ((ofString source).captures.map Capture.name).zip values) ∧
      ∀ values values', (ofString source).Cuts path values → (ofString source).Cuts path values' →
        values = values' := by
  have h : Segment.Alternate (ofString source).segments := Segment.alternate_parse source
  refine ⟨h.eq_plain_append.1, fun found => ?_, fun values values' => Cuts.unique h⟩
  split
  · next hc => exact match?_of_captures_eq_nil hc
  · next hc =>
    rw [← names_eq]
    exact match?_of_captures_ne_nil h hc

/-- What stands behind the first capture may stand in the last one once more. -/
example : (ofString "/{a}--{b}").match? "/x--y--z" = some [("a", "x"), ("b", "y--z")] := by cbv

end Route.Template

end Stencil
