import Stencil.Markdown.Source

/-!
# Margins and containers

What stands at the front of a line: blanks, by columns, and the marks of the containers that the
line belongs to. A tab reaches to the next column that is a multiple of four, counted from the
line's start or the tab before; where only a part of it is passed, the rest is kept.
-/

namespace Stencil.Markdown

/-- How far the front of a line has been passed: the position, the position that columns are counted
from, and the columns that are left of the last tab. -/
structure Margin where
  pos : Nat
  origin : Nat
  spare : Nat

namespace Margin

/-- The margin of a line that starts at a position. -/
def ofLine (start : Nat) : Margin := ⟨start, start, 0⟩

/-- The columns that a tab at the margin's position takes. -/
def tabWidth (m : Margin) : Nat := 4 - (m.pos - m.origin) % 4

theorem tabWidth_pos (m : Margin) : 0 < m.tabWidth := by
  unfold tabWidth
  omega

/-- Passes at most `n` columns of blanks: how many it did not get to pass, and the margin then. -/
def passFresh (s : Source) (n : Nat) (m : Margin) : Nat × Margin :=
  if n = 0 then (0, m)
  else if s[m.pos]? = some ' ' then passFresh s (n - 1) { m with pos := m.pos + 1 }
  else if s[m.pos]? = some '\t' then
    passFresh s (n - m.tabWidth) ⟨m.pos + 1, m.pos + 1, m.tabWidth - n⟩
  else (n, m)
termination_by n
decreasing_by
  · omega
  · have := m.tabWidth_pos
    omega

/-- Passes at most `n` columns of blanks, what is left of a tab first: how many it passed, and the
margin then. -/
def pass (s : Source) (n : Nat) (m : Margin) : Nat × Margin :=
  let (missing, after) := { m with spare := 0 }.passFresh s (n - m.spare)
  (n - missing, if m.spare < n then after else { m with spare := m.spare - n })

/-- Passes at most `n` columns of blanks. -/
def skip (s : Source) (n : Nat) (m : Margin) : Margin := (m.pass s n).2

/-- Passes all spaces and tabs. -/
def skipAll (s : Source) (m : Margin) : Margin :=
  { m with pos := s.skipWhile (fun c => c == ' ' || c == '\t') m.pos, spare := 0 }

/-- Passes the mark of a quote, and a space behind it if there is one. -/
def quoteMark? (s : Source) (m : Margin) : Option Margin :=
  if s[m.pos]? = some '>' then some ({ m with pos := m.pos + 1 }.skip s 1) else none

end Margin

/-- What a line can belong to: a quote, or an item whose content starts at a column. -/
inductive Container where
  | quote
  | item (indent : Nat)

namespace Container

/-- Passes what a line of the container starts with. An empty line belongs to every item. -/
def enter? (s : Source) (m : Margin) : Container → Option Margin
  | quote => (m.skip s 3).quoteMark? s
  | item indent =>
    let (passed, inner) := m.pass s indent
    if passed = indent || s.atLineEnd inner.pos then some inner else none

/-- How many of the containers, the outermost first, a line belongs to, and its margin inside. -/
def enterAll (s : Source) : List Container → Margin → Nat × Margin
  | [], m => (0, m)
  | c :: cs, m =>
    match c.enter? s m with
    | some inner =>
      let (depth, inner) := enterAll s cs inner
      (depth + 1, inner)
    | none => (0, m)

/-- The position behind the marks of the containers in a line that starts at `start`. -/
def skipMarks (s : Source) (cs : List Container) (start : Nat) : Nat :=
  (enterAll s cs (.ofLine start)).2.pos

end Container

end Stencil.Markdown
