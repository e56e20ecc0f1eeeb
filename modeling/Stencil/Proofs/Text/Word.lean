import Mathlib.Data.List.Induction
import Mathlib.Data.List.TakeWhile
import Stencil.Text.Blank

/-!
# Words

The words of a text are what stands between its blanks. A text is taken apart into words by
`induction_words`, one word and the blank behind it at a time, and what its words are follows from
where a blank stands (`words_append_cons`) and from what has no blank in it (`words_of_solid`).
-/

namespace Stencil.Text

variable {c : Char} {a b cs w : List Char}

/-- No character of the text is blank. -/
def Solid (cs : List Char) : Prop := ∀ c ∈ cs, isBlank c = false

/-- All characters of the text are blank. -/
def Bare (cs : List Char) : Prop := ∀ c ∈ cs, isBlank c = true

instance : DecidablePred Bare := fun cs =>
  decidable_of_iff (cs.all isBlank = true) List.all_eq_true

/-- The longest parts of a text that are not empty and have no blanks in them. -/
def words (cs : List Char) : List (List Char) := (cs.splitOnP isBlank).filter (· ≠ [])

/-- The words of a text with single spaces between them. -/
def joined (cs : List Char) : List Char := [' '].intercalate (words cs)

@[simp] theorem words_nil : words [] = [] := by
  simp [words]

theorem words_of_solid (h : Solid w) : words w = if w = [] then [] else [w] := by
  rw [words, List.splitOnP_eq_singleton h]
  split <;> simp [*]

/-- No word goes on over a blank. -/
theorem words_append_cons (a b : List Char) (hc : isBlank c = true) :
    words (a ++ c :: b) = words a ++ words b := by
  rw [words, List.splitOnP_append_cons a b hc, List.filter_append]
  rfl

theorem words_cons (cs : List Char) (hc : isBlank c = true) : words (c :: cs) = words cs :=
  words_append_cons [] cs hc

/-- What holds of a text without blanks, and of a text with a blank in it if it holds of what comes
after the first blank, holds of every text. -/
@[elab_as_elim]
theorem induction_words {motive : List Char → Prop} (solid : ∀ w, Solid w → motive w)
    (blank : ∀ w c cs, Solid w → isBlank c = true → motive cs → motive (w ++ c :: cs))
    (cs : List Char) : motive cs := by
  have hsolid : Solid (cs.takeWhile fun c => !isBlank c) := fun c hc => by
    simpa using List.mem_takeWhile_imp hc
  have hcs := List.takeWhile_append_dropWhile (p := fun c => !isBlank c) (l := cs)
  cases hrest : cs.dropWhile fun c => !isBlank c with
  | nil =>
    rw [hrest, List.append_nil] at hcs
    exact hcs ▸ solid _ hsolid
  | cons c rest =>
    rw [hrest] at hcs
    have hc : isBlank c = true := by
      have := List.head?_dropWhile_not (fun c => !isBlank c) cs
      simpa [hrest] using this
    have hlt : rest.length < cs.length := by
      rw [← hcs]
      simp
      omega
    exact hcs ▸ blank _ c rest hsolid hc (induction_words solid blank rest)
termination_by cs.length

/-- A text without words has nothing but blanks. -/
theorem words_eq_nil_iff : words cs = [] ↔ Bare cs := by
  induction cs using induction_words with
  | solid w hw =>
    rw [words_of_solid hw]
    cases w with
    | nil => simp [Bare]
    | cons c w => simp [Bare, hw c List.mem_cons_self]
  | blank w c cs hw hc ih =>
    rw [words_append_cons w cs hc, List.append_eq_nil_iff, ih, words_of_solid hw]
    cases w with
    | nil => simp [Bare, hc]
    | cons c w => simp [Bare, hw c List.mem_cons_self]

/-! ## The ends of a text -/

/-- Whether the text starts with a blank. -/
def startsBlank (cs : List Char) : Bool := cs.head?.any isBlank

/-- Whether the text ends in a blank. -/
def endsBlank (cs : List Char) : Bool := cs.getLast?.any isBlank

@[simp] theorem endsBlank_concat (cs : List Char) (c : Char) :
    endsBlank (cs ++ [c]) = isBlank c := by
  rw [endsBlank, List.getLast?_concat, Option.any_some]

theorem endsBlank_of_solid (h : Solid cs) : endsBlank cs = false := by
  cases cs using List.reverseRecOn with
  | nil => rfl
  | append_singleton front c => rw [endsBlank_concat, h c (by simp)]

/-- A text with a blank in it ends in one iff what comes after that does, or has no words. -/
theorem endsBlank_append_cons (a b : List Char) (hc : isBlank c = true) :
    endsBlank (a ++ c :: b) = true ↔ words b = [] ∨ endsBlank b = true := by
  cases b using List.reverseRecOn with
  | nil => simp [hc]
  | append_singleton b l =>
    rw [← List.cons_append, ← List.append_assoc, endsBlank_concat, endsBlank_concat,
      words_eq_nil_iff]
    exact ⟨.inr, fun h => h.elim (fun h => h l (by simp)) id⟩

/-! ## Words put together -/

theorem joined_of_solid (h : Solid w) : joined w = w := by
  rw [joined, words_of_solid h]
  split
  · next hw => rw [hw, List.intercalate_nil]
  · rw [List.intercalate_singleton]

theorem joined_cons (cs : List Char) (hc : isBlank c = true) : joined (c :: cs) = joined cs := by
  rw [joined, words_cons cs hc, joined]

/-- The first word goes before the others. -/
theorem joined_append_cons (hw : Solid w) (hne : w ≠ []) (hc : isBlank c = true) :
    joined (w ++ c :: cs) = if words cs = [] then w else w ++ ' ' :: joined cs := by
  rw [joined, words_append_cons w cs hc, words_of_solid hw, if_neg hne, List.singleton_append]
  split
  · next h => rw [h, List.intercalate_singleton]
  · next h =>
    rw [List.intercalate_cons_of_ne_nil h, joined, List.append_assoc, List.singleton_append]

/-- Joined words end in a character of a word. -/
theorem exists_joined_eq_append (h : words cs ≠ []) :
    ∃ front c, joined cs = front ++ [c] ∧ isBlank c = false := by
  induction cs using induction_words with
  | solid w hw =>
    rw [joined_of_solid hw]
    cases w using List.reverseRecOn with
    | nil => exact absurd words_nil h
    | append_singleton front c => exact ⟨front, c, rfl, hw c (by simp)⟩
  | blank w c cs hw hc ih =>
    rw [words_append_cons w cs hc] at h
    cases w using List.reverseRecOn with
    | nil =>
      rw [List.nil_append, joined_cons cs hc]
      exact ih (by simpa using h)
    | append_singleton front l =>
      rw [joined_append_cons hw (by simp) hc]
      split
      · exact ⟨front, l, rfl, hw l (by simp)⟩
      · next hcs =>
        obtain ⟨front', l', hjoined, hl'⟩ := ih hcs
        exact ⟨front ++ [l] ++ ' ' :: front', l', by simp [hjoined], hl'⟩

end Stencil.Text
