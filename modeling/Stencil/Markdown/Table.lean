import Stencil.Markdown.Block

/-!
# Tables

A row with bars and a row of dashes below it begin a table. Bars cut a row into cells; a bar behind
a backslash does not.
-/

namespace Stencil.Markdown

/-- What has been read of the column of a row of dashes: its alignment, and whether a mark and a
dash were met. -/
structure Column where
  align : Alignment
  begun : Bool
  dashed : Bool

namespace Column

/-- Before the first mark. -/
def empty : Column := ⟨.unset, false, false⟩

/-- After a colon, which aligns the column with its side. -/
def colon (c : Column) : Column :=
  let align :=
    match c.begun, c.align with
    | false, .unset => .left
    | true, .left => .center
    | true, .unset => .right
    | _, align => align
  { c with align := align, begun := true }

/-- After a dash. -/
def dash (c : Column) : Column := { c with begun := true, dashed := true }

end Column

namespace Source

/-- Reads the row of dashes from `i` on: the columns, the latest first, and the position behind the
row. -/
def columnsFrom? (s : Source) :
    (fuel : Nat) → (done : List Alignment) → Column → Nat → Option (List Alignment × Nat)
  | 0, _, _, _ => none
  | fuel + 1, done, column, i =>
    match s.lineEnd? i with
    | some next => some (if column.begun then column.align :: done else done, next)
    | none =>
      match s[i]? with
      | some ' ' => columnsFrom? s fuel done column (i + 1)
      | some ':' => columnsFrom? s fuel done column.colon (i + 1)
      | some '-' => columnsFrom? s fuel done column.dash (i + 1)
      | some '|' =>
        if column.dashed then columnsFrom? s fuel (column.align :: done) .empty (i + 1) else none
      | _ => none

/-- The columns that the row of dashes in the line at `i` sets up, and the position behind it. The
row is indented by less than four columns, and has a bar and a dash. -/
def columns? (s : Source) (i : Nat) : Option (List Alignment × Nat) :=
  let start := s.skipWhile (· == ' ') i
  if 4 ≤ start - i then none
  else
    (s.columnsFrom? (s.size + 1 - start) [] .empty
        (if s[start]? = some '|' then start + 1 else start)).bind fun (columns, next) =>
      let row := s.slice start next
      if row.contains '|' && row.contains '-' then some (columns.reverse, next) else none

/-- How many bars that are not behind a backslash stand between two positions, and the last of
them. -/
def bars (s : Source) (start stop : Nat) : Nat × Nat :=
  let isBar (i : Nat) : Bool := s[i]? == some '|' && !(i != 0 && s[i - 1]? == some '\\')
  let found := (List.range (stop - start)).filter fun k => isBar (start + k)
  (found.length, start + found.getLast?.getD 0)

/-- The columns of the table whose first row stands at `start`, and the position behind its row of
dashes. That row belongs to the same containers and sets up as many columns as the first row has
cells. -/
def tableHead? (s : Source) (within : List Container) (start : Nat) :
    Option (List Alignment × Nat) := do
  let stop := s.skipWhile (!isLineEnd ·) start
  let (count, last) := s.bars start stop
  let next ← s.lineEnd? stop
  let (depth, margin) := Container.enterAll s within (.ofLine next)
  if stop = s.size || count = 0 || depth ≠ within.length then none
  let (columns, after) ← s.columns? margin.pos
  let count := if s[s.skipGaps start]? = some '|' then count - 1 else count
  if columns.length = (if s.isBlankAt (last + 1) then count else count + 1) then
    some (columns, after)
  else none

/-- The cells of the row from `i` on, each with its pieces and its end, and the position behind the
row. -/
def rowFrom (s : Source) : (fuel : Nat) → Nat → List (List Piece × Nat) × Nat
  | 0, i => ([], i)
  | fuel + 1, i =>
    let start := s.skipGaps (if s[i]? = some '|' then i + 1 else i)
    match s.lineEnd? start with
    | some next => ([], next)
    | none =>
      let (pieces, stop) := s.readCell start
      let (cells, next) := rowFrom s fuel stop
      ((pieces.reverse, stop) :: cells, next)

/-- The cells of the row at `i`, as many as there are columns, and the position behind the row.
Surplus cells are dropped, and missing ones are empty. -/
def row? (s : Source) (within : List Container) (columns i : Nat) :
    Option (List Passage × Nat) :=
  let (cells, next) := s.rowFrom (s.size + 1 - i) i
  let passages := cells.map fun (pieces, stop) => Passage.mk pieces stop within true
  if cells.isEmpty then none
  else
    some (passages.take columns
      ++ List.replicate (columns - cells.length) ⟨[], next, within, true⟩, next)

end Source

end Stencil.Markdown
