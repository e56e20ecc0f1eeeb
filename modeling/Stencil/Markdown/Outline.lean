import Stencil.Markdown.Definition
import Stencil.Markdown.Verbatim

/-!
# The outline of a text

A text is read block by block. The outline keeps the containers that are still open (quotes, lists
and their items) and the blocks that are finished.
-/

namespace Stencil.Markdown

/-- An item that is open: the columns that its content is indented by, and that content, the latest
block first. -/
structure Item where
  indent : Nat
  content : List Block

/-- A quote or a list that is open, the list with its open item if there is one. Contents and items
are kept with the latest first. -/
inductive Frame where
  | quote (content : List Block)
  | listing (mark : ListMark) (tight : Bool) (items : List (List Block)) (item : Option Item)

namespace Frame

/-- What a line has to start with to belong to the frame. A list without an open item asks for
nothing. -/
def container? : Frame → Option Container
  | quote _ => some .quote
  | listing _ _ _ item => item.map fun item => .item item.indent

/-- Adds a block to the frame. -/
def add (b : Block) : Frame → Frame
  | quote content => quote (b :: content)
  | listing mark tight items (some item) =>
    listing mark tight items (some { item with content := b :: item.content })
  | listing mark tight items none => listing mark tight ([b] :: items) none

end Frame

/-- What has been read of a text. Frames are kept with the innermost first, blocks with the latest
first. An item is `bare` as long as only its mark has been read; `blankBefore` tells whether a blank
line came since the latest block. -/
structure Outline where
  frames : List Frame
  blocks : List Block
  references : References
  bare : Bool
  blankBefore : Bool

namespace Outline

/-- Before the first line. -/
def empty : Outline := ⟨[], [], [], false, false⟩

/-- The containers that are open, the outermost first. -/
def within (o : Outline) : List Container := (o.frames.filterMap Frame.container?).reverse

/-- Adds a block to the innermost frame. -/
def add (b : Block) (o : Outline) : Outline :=
  match o.frames with
  | f :: fs => { o with frames := f.add b :: fs }
  | [] => { o with blocks := b :: o.blocks }

/-- Closes the open item of the innermost list, or the innermost frame. -/
def closeInner (o : Outline) : Outline :=
  match o.frames with
  | .listing mark tight items (some item) :: fs =>
    { o with frames := .listing mark tight (item.content.reverse :: items) none :: fs }
  | .listing mark tight items none :: fs =>
    { o with frames := fs, bare := o.bare && !tight }.add (.list mark tight items.reverse)
  | .quote content :: fs => { o with frames := fs }.add (.quote content.reverse)
  | [] => o

/-- Closes containers until `depth` of them are open, in at most `fuel` steps. The list of an item
that was closed last stays open. -/
def closeTo (depth : Nat) : (fuel : Nat) → Outline → Outline
  | 0, o => o
  | fuel + 1, o => if depth < o.within.length then closeTo depth fuel o.closeInner else o

/-- Closes everything, in at most `fuel` steps. -/
def closeAll : (fuel : Nat) → Outline → Outline
  | 0, o => o
  | fuel + 1, o => if o.frames.isEmpty then o else closeAll fuel o.closeInner

/-- Closes the innermost item if it is bare and a blank line followed, for an item begins with one
blank line at most. -/
def closeBare (o : Outline) : Outline :=
  let closed :=
    match o.frames with
    | .listing _ _ _ (some _) :: _ => if o.bare && o.blankBefore then o.closeInner else o
    | _ => o
  { closed with bare := false }

/-- Closes the innermost list if no item of it is open, for a block begins that is none. A blank
line before it makes the list around it loose. -/
def closeList (o : Outline) : Outline :=
  let o := o.closeBare
  let o :=
    match o.frames with
    | .listing _ _ _ none :: _ => o.closeInner
    | _ => o
  let frames :=
    match o.frames with
    | .listing mark tight items (some item) :: fs =>
      .listing mark (tight && !o.blankBefore) items (some item) :: fs
    | frames => frames
  { o with frames := frames, blankBefore := false }

/-- Begins a quote. -/
def beginQuote (o : Outline) : Outline :=
  let o := o.closeList
  { o with frames := .quote [] :: o.frames }

/-- Begins an item: in the innermost list if the mark belongs to it, else in a new one. -/
def beginItem (mark : ListMark) (indent : Nat) (o : Outline) : Outline :=
  let o := o.closeBare
  let fresh (o : Outline) : Outline :=
    { o with frames := .listing mark true [] (some ⟨indent, []⟩) :: o.frames, blankBefore := false }
  match o.frames with
  | .listing first tight items none :: fs =>
    if first.sameList mark then
      let frame := .listing first (tight && !o.blankBefore) items (some ⟨indent, []⟩)
      { o with frames := frame :: fs, blankBefore := false }
    else fresh o.closeList
  | _ => fresh o.closeList

/-- Passes a blank line that belongs to no block. What is in a bare item after that is not
indented. -/
def passBlank (o : Outline) : Outline :=
  match o.frames with
  | .quote _ :: _ => o
  | .listing mark tight items (some item) :: fs =>
    let item := if o.bare then { item with indent := 0 } else item
    { o with frames := .listing mark tight items (some item) :: fs, blankBefore := true }
  | _ => { o with blankBefore := true }

end Outline

/-- A mark of an item at the front of a line: the columns that the item's content is indented by,
and the margin behind the mark. -/
structure ItemStart where
  mark : ListMark
  indent : Nat
  margin : Margin

namespace Source

/-- The mark of an item at a margin before which `lead` columns of blanks are. The content of an
item starts at most four columns behind the mark. -/
def itemStart? (s : Source) (lead : Nat) (margin : Margin) : Option ItemStart :=
  if (s.ruleEnd? margin.pos).isSome then none
  else
    (s.listMark? margin.pos).map fun (mark, stop) =>
      let indent := lead + (stop - margin.pos) + 1
      let inner := { margin with pos := stop }.skip s 1
      let (gap, deeper) := inner.pass s 4
      if s.isBlankAt inner.pos || gap = 4 then ⟨mark, indent, inner⟩
      else ⟨mark, indent + gap, deeper⟩

/-- Begins the containers that a line begins, at most `fuel` of them. The result is the margin
inside them, or the position of the next line if nothing else is in this one. -/
def beginContainers (s : Source) : (fuel : Nat) → Margin → Outline → Outline × (Nat ⊕ Margin)
  | 0, margin, o => (o, .inr margin)
  | fuel + 1, margin, o =>
    let (lead, inner) := margin.pass s 4
    if lead = 4 then (o, .inr margin)
    else
      match s.itemStart? lead inner with
      | some item =>
        let o := o.beginItem item.mark item.indent
        match s.blankEnd? item.margin.pos with
        | some next => ({ o with bare := true }, .inl next)
        | none => beginContainers s fuel item.margin o
      | none =>
        match inner.quoteMark? s with
        | some inner => beginContainers s fuel inner o.beginQuote
        | none => (o, .inr margin)

/-- The heading whose marks start at `i`, and the position behind it. Marks at its end are left out
if a space is before them. -/
def heading (s : Source) (within : List Container) (level i : Nat) : Block × Nat :=
  match s.lineEnd? (i + level) with
  | some next => (.heading level ⟨[], next, within, false⟩, next)
  | none =>
    let start := s.skipGaps (i + level)
    let line := s.readLine start
    let limit := line.next - s.countBack (fun c => isLineEnd c || c == ' ') start line.next
    let closer := limit - s.countBack (· == '#') start limit
    let spaces := s.countBack (· == ' ') start closer
    let stop := if closer = start then start else if spaces = 0 then limit else closer - spaces
    let pieces :=
      match line.pieces with
      | last :: before => { last with stop := stop } :: before
      | [] => []
    (.heading level ⟨pieces.reverse, line.next, within, false⟩, line.next)

/-- The rows of the table from the line at `i` on, and the position behind them. -/
def tableRows (s : Source) (within : List Container) (columns : Nat) :
    (fuel : Nat) → Nat → List (List Passage) × Nat
  | 0, i => ([], i)
  | fuel + 1, i =>
    let (depth, margin) := Container.enterAll s within (.ofLine i)
    let start := (margin.skipAll s).pos
    if depth < within.length || s.beginsBlock true start then ([], i)
    else
      match s.row? within columns start with
      | some (row, next) =>
        let (rows, stop) := tableRows s within columns fuel next
        (row :: rows, stop)
      | none => ([], i)

/-- The table whose first row stands at `i`, and the position behind it. -/
def table? (s : Source) (within : List Container) (i : Nat) : Option (Block × Nat) := do
  let (columns, body) ← s.tableHead? within i
  let (head, _) ← s.row? within columns.length i
  let (rows, next) := s.tableRows within columns.length (s.size + 1) body
  some (.table columns head rows, next)

/-- Reads a paragraph from the line at `i` on: the block, which is a heading if a line of marks
follows it, and the position behind it. Pieces are kept with the latest first. -/
def paragraphFrom (s : Source) (within : List Container) :
    (fuel : Nat) → (pieces : List Piece) → Nat → Block × Nat
  | 0, pieces, i => (.paragraph ⟨pieces.reverse, i, within, false⟩, i)
  | fuel + 1, pieces, i =>
    let line := s.readLine i
    let pieces := line.pieces ++ pieces
    let ended : List Piece :=
      match line.lineBreak with
      | some ⟨.hardBreak true, start, _⟩ => ⟨.text, start, start + 1⟩ :: pieces
      | _ => pieces
    let c := Continuation.ofLine s within line.next
    match if c.inside then c.underline? s else none with
    | some (level, next) => (.heading level ⟨ended.reverse, next, within, false⟩, next)
    | none =>
      let start := (c.margin.skipAll s).pos
      if c.interrupts s within || s.atLineEnd start then
        (.paragraph ⟨ended.reverse, line.next, within, false⟩, line.next)
      else paragraphFrom s within fuel (line.lineBreak.toList ++ pieces) start

/-- The table, the paragraph or the heading from `i` on, and the position behind it. -/
def paragraph (s : Source) (within : List Container) (i : Nat) : Block × Nat :=
  (s.table? within i).getD (s.paragraphFrom within (s.size + 1) [] i)

/-- Reads definitions from `i` on, at most `fuel` of them, and the paragraph behind them if there is
one. -/
def beginParagraph (s : Source) : (fuel : Nat) → Nat → Outline → Outline × Nat
  | 0, i, o => (o, i)
  | fuel + 1, i, o =>
    match s.definition? o.within i with
    | none =>
      let (block, next) := s.paragraph o.within i
      (o.add block, next)
    | some (label, target, stop) =>
      let o := { o with references := o.references.define label target }
      match s.blankEnd? stop with
      | none => (o, stop)
      | some next =>
        let c := Continuation.ofLine s o.within next
        if c.interrupts s o.within then (o, next)
        else beginParagraph s fuel (c.margin.skipAll s).pos o

/-- Reads the block at a margin, which is no container: the outline then, and the position behind
the block. -/
def beginLeaf (s : Source) (margin : Margin) (o : Outline) : Outline × Nat :=
  let o := o.closeList
  let within := o.within
  let (indent, inner) := margin.pass s 4
  let i := inner.pos
  if indent = 4 then
    let (text, next, blank) := s.indentedCode within inner
    ({ o.add (.code [] text) with blankBefore := blank }, next)
  else
    match s.markupEnd? i with
    | some finish =>
      let (markup, next) := s.markupBlock within finish indent i
      (o.add (.html markup), next)
    | none =>
      match s.ruleEnd? i with
      | some next => (o.add .rule, next)
      | none =>
        match s.headingLevel? i with
        | some level =>
          let (block, next) := s.heading within level i
          (o.add block, next)
        | none =>
          match s.fence? i with
          | some (mark, count) =>
            let (info, text, next) := s.fencedCode within mark count indent i
            (o.add (.code info text), next)
          | none => s.beginParagraph (s.size + 1) i o

/-- Reads the block in the line at `i`, and the containers that begin there. -/
def beginBlock (s : Source) (i : Nat) (o : Outline) : Outline × Nat :=
  let (depth, margin) := Container.enterAll s o.within (.ofLine i)
  let o := o.closeTo depth (2 * o.frames.length)
  match s.beginContainers (s.size + 1) margin o with
  | (o, .inl next) => (o, next)
  | (o, .inr margin) =>
    match s.blankEnd? margin.pos with
    | some next => (o.passBlank, next)
    | none => s.beginLeaf margin o

/-- Reads blocks from `i` on, at most `fuel` of them. -/
def beginBlocks (s : Source) : (fuel : Nat) → Nat → Outline → Outline
  | 0, _, o => o
  | fuel + 1, i, o =>
    if i < s.size then
      let (o, next) := s.beginBlock i o
      beginBlocks s fuel next o
    else o

/-- The outline of a text. -/
def outline (s : Source) : Outline :=
  let o := s.beginBlocks (s.size + 1) 0 .empty
  o.closeAll (2 * o.frames.length)

end Source

end Stencil.Markdown
