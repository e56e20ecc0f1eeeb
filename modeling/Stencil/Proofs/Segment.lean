import Mathlib.Data.List.Chain
import Stencil.Segment

/-!
# Segments alternate

Plain text and expressions take turns in the segments of a text, and no segment is empty. So an
expression has at most one plain text behind it before the next one comes.
-/

namespace Stencil.Segment

variable {s : String}

/-! ## Runs -/

/-- A marked character in front keeps neighbours apart: it joins a run of its own kind. -/
theorem isChain_consRun {mark : Bool × Char} {rs : List (Bool × List Char)}
    (h : rs.IsChain fun a b => a.1 ≠ b.1) : (consRun mark rs).IsChain fun a b => a.1 ≠ b.1 := by
  cases rs with
  | nil => exact .singleton _
  | cons r rs =>
    obtain ⟨inside, cs⟩ := r
    rw [consRun]
    split
    · cases h with
      | singleton => exact .singleton _
      | cons_cons hne h => exact .cons_cons hne h
    · next hne => exact .cons_cons hne h

theorem ne_nil_of_mem_consRun {mark : Bool × Char} {rs : List (Bool × List Char)}
    (h : ∀ r ∈ rs, r.2 ≠ []) : ∀ r ∈ consRun mark rs, r.2 ≠ [] := by
  cases rs with
  | nil =>
    intro r hr
    obtain rfl := List.mem_singleton.1 hr
    exact List.cons_ne_nil _ _
  | cons r rs =>
    obtain ⟨inside, cs⟩ := r
    rw [consRun]
    split
    all_goals
      intro r hr
      rcases List.mem_cons.1 hr with rfl | hr
      · exact List.cons_ne_nil _ _
    · exact h r (List.mem_cons_of_mem _ hr)
    · exact h r hr

/-- Another character in front goes to the first run if it has the same mark. -/
theorem runs_cons (mark : Bool × Char) (marked : List (Bool × Char)) :
    runs (mark :: marked) = consRun mark (runs marked) :=
  rfl

/-- Neighbouring runs have different marks. -/
theorem isChain_runs (marked : List (Bool × Char)) :
    (runs marked).IsChain fun a b => a.1 ≠ b.1 := by
  induction marked with
  | nil => exact .nil
  | cons mark marked ih => exact isChain_consRun ih

/-- No run is empty. -/
theorem ne_nil_of_mem_runs (marked : List (Bool × Char)) : ∀ r ∈ runs marked, r.2 ≠ [] := by
  induction marked with
  | nil => simp [runs]
  | cons mark marked ih => exact ne_nil_of_mem_consRun ih

/-! ## Segments -/

@[simp] theorem isExpression_ofRun (r : Bool × List Char) : (ofRun r).isExpression = r.1 := by
  obtain ⟨_ | _, cs⟩ := r <;> rfl

@[simp] theorem text_ofRun (r : Bool × List Char) : (ofRun r).text = String.ofList r.2 := by
  obtain ⟨_ | _, cs⟩ := r <;> rfl

/-- Plain text and expressions take turns, and none of them is empty. -/
structure Alternate (segments : List Segment) : Prop where
  isChain : segments.IsChain fun a b => a.isExpression ≠ b.isExpression
  text_ne : ∀ s ∈ segments, s.text ≠ ""

/-- Segments that alternate do so without the first. -/
theorem Alternate.of_cons {s : Segment} {segments : List Segment} (h : Alternate (s :: segments)) :
    Alternate segments :=
  ⟨h.isChain.tail, fun t ht => h.text_ne t (List.mem_cons_of_mem _ ht)⟩

/-- The segments of a text alternate between literals and expressions, and none is empty. -/
theorem alternate_parse (s : String) : Alternate (parse s) where
  isChain := by
    rw [parse, List.isChain_map]
    simpa using isChain_runs _
  text_ne := by
    intro t ht
    obtain ⟨r, hr, rfl⟩ := List.mem_map.1 ht
    rw [text_ofRun]
    intro he
    exact ne_nil_of_mem_runs _ r hr (String.ofList_eq_empty_iff.1 he)

end Stencil.Segment
