import Stencil.Markdown.Address
import Stencil.Markdown.Block
import Stencil.Markdown.Emphasis
import Stencil.Markdown.Link
import Stencil.Markdown.RawHtml

/-!
# The content of a paragraph

The pieces of a paragraph get their meaning from left to right: code and raw markup take what they
reach over, and a closing bracket turns the pieces since the nearest opening one into a link if a
target belongs to it. After that the runs of marks become emphasis.
-/

namespace Stencil.Markdown

/-- A bracket that may open a link: whether an image is meant, whether a link is still allowed
there, and where it stands. -/
structure Bracket where
  image : Bool
  active : Bool
  start : Nat
  stop : Nat

/-- A piece whose meaning is known, as far as emphasis is not concerned. -/
inductive Part where
  | inline (content : Inline)
  | run (marks : Run)
  /-- The end of a line behind a backslash. -/
  | keptBreak
  | bracket (mark : Bracket)

/-- What the pieces of a passage are read in: the text up to the passage's end, the containers that
its lines belong to, whether it is in a table, and the targets of labels. -/
structure Scope where
  source : Source
  within : List Container
  cell : Bool
  references : References

/-- What has been read of a passage: the parts, the latest first, the pieces that follow, and how
many bytes the targets of labels may still take. The limit keeps a text with many links to a long
target from growing out of proportion. -/
structure Progress where
  done : List Part
  rest : List Piece
  budget : Nat

namespace Part

/-- Text as a part. -/
def text (content : List Char) : Part := .inline (.text content)

/-- Inside the text of a link no other link starts. -/
def deactivate : Part → Part
  | bracket mark => bracket { mark with active := mark.image && mark.active }
  | p => p

/-- The parts since the latest bracket, the bracket, and the parts before it; all with the latest
first. -/
def sinceBracket? : List Part → Option (List Part × Bracket × List Part)
  | [] => none
  | bracket mark :: before => some ([], mark, before)
  | p :: ps => (sinceBracket? ps).map fun (inner, mark, before) => (p :: inner, mark, before)

/-- Whether the part is a run of marks. -/
def isRun : Part → Bool
  | run _ => true
  | _ => false

/-- Adds a part to the layers of emphasis. -/
def addTo (s : Source) (l : Layers) : Part → Layers
  | inline content => l.add [content]
  | run marks => l.meet marks
  | keptBreak => l.add [.hardBreak]
  | bracket mark => l.add [.text (s.slice mark.start mark.stop)]

/-- The content that parts, the latest first, make. Where there are marks among them, a backslash at
the end is text, for no line follows. -/
def resolve (s : Source) (parts : List Part) : List Inline :=
  let parts :=
    match parts with
    | keptBreak :: before => if before.any isRun then text ['\\'] :: before else parts
    | _ => parts
  (parts.reverse.foldl (addTo s) .empty).content

end Part

namespace Scope

/-- The position of what a line adds to the passage. -/
def lineStart (sc : Scope) (start : Nat) : Nat := Container.skipMarks sc.source sc.within start

/-- The text between two positions. -/
def slice (sc : Scope) (start stop : Nat) : List Char := sc.source.slice start stop

/-- The text of code between two positions, where lines' ends are spaces and the marks of containers
are left out. In a table a bar in code has a backslash too. -/
def codeFrom (sc : Scope) (stop : Nat) : (fuel : Nat) → Nat → List Char
  | 0, _ => []
  | fuel + 1, i =>
    if stop ≤ i then []
    else
      match sc.source[i]? with
      | none => []
      | some c =>
        if isLineEnd c then
          ' ' :: codeFrom sc stop fuel (sc.lineStart ((sc.source.lineEnd? i).getD (i + 1)))
        else if sc.cell && c == '\\' && sc.source[i + 1]? == some '|' then
          '|' :: codeFrom sc stop fuel (i + 2)
        else c :: codeFrom sc stop fuel (i + 1)

/-- The content of code: one space on each side is left out unless there is nothing else. -/
def code (sc : Scope) (start stop : Nat) : Inline :=
  let cs := sc.codeFrom stop (stop - start) start
  .code (if cs.head? == some ' ' && cs.getLast? == some ' ' && !cs.all (· == ' ') then
    cs.tail.dropLast else cs)

/-- The next run of `count` backticks, and the pieces behind it. -/
def closingTicks? (count : Nat) : List Piece → Option (Piece × List Piece)
  | [] => none
  | p :: ps =>
    match p.kind with
    | .ticks n _ => if n = count then some (p, ps) else closingTicks? count ps
    | _ => closingTicks? count ps

/-- The address or the markup that an angle bracket starts, and the position behind it. -/
def angled? (sc : Scope) (p : Piece) : Option (Inline × Nat) :=
  (sc.source.address? (p.start + 1)).or
    ((sc.source.markup? (fun start => some (sc.lineStart start)) p.start).map fun (text, stop) =>
      (.html text, stop))

/-- Where the pieces go on behind the line's end at a position. -/
def pieceLine? (pieces : List Piece) : NextLine := fun i =>
  (pieces.find? fun p => i + 1 < p.stop).bind fun p => if i < p.start then some p.start else none

/-- The target in parentheses behind a bracket, and the position behind it. -/
def inlineTarget? (sc : Scope) (close : Piece) (rest : List Piece) : Option (Target × Nat) :=
  sc.source.inlineTarget? sc.lineStart (pieceLine? rest) sc.cell close.stop

/-- The label whose opening bracket stands at a position, and the position behind it. -/
def label? (sc : Scope) (start : Nat) : Option (List Char × Nat) :=
  sc.source.label? (fun start => some (sc.lineStart start)) sc.cell start

/-- What a closing bracket may refer to: the label, the pieces behind the link then, and the pieces
to go on with if the label has no target. -/
structure Reference where
  label : List Char
  linked : List Piece
  unlinked : List Piece

/-- The pieces behind the closing bracket that ends at `stop`, and all of them with that bracket
marked as one that has been tried. -/
def afterLabel? (stop : Nat) : List Piece → Option (List Piece × List Piece)
  | [] => none
  | p :: ps =>
    if p.stop < stop then (afterLabel? stop ps).map fun (linked, tried) => (linked, p :: tried)
    else some (ps, { p with kind := .close false } :: ps)

/-- What the closing bracket of `mark` refers to: the label behind it if there is one, else the text
between the brackets. -/
def reference? (sc : Scope) (mark : Bracket) (close : Piece) (mayRefer : Bool)
    (rest : List Piece) : Option Reference :=
  let own (linked : List Piece) : Option Reference :=
    if !mayRefer then none
    else
      (sc.label? (mark.stop - 1)).bind fun (label, stop) =>
        if stop = close.stop then some ⟨label, linked, rest⟩ else none
  match rest with
  | [] => own []
  | p :: _ =>
    if sc.source.hasAt ['[', ']'] p.start then own (rest.drop 2)
    else
      match sc.label? p.start with
      | none => own rest
      | some (label, stop) =>
        (afterLabel? stop rest).map fun (linked, unlinked) => ⟨label, linked, unlinked⟩

/-- The bytes that a target takes. -/
def cost (t : Target) : Nat :=
  (t.destination ++ t.title).foldl (fun n c => n + c.utf8Size) 0

/-- Turns the parts since a bracket into a link or an image. -/
def link (sc : Scope) (target : Target) (inner : List Part) (mark : Bracket)
    (before : List Part) : List Part :=
  let content := Part.resolve sc.source inner
  if mark.image then .inline (.image target content) :: before
  else .inline (.link target content) :: before.map .deactivate

/-- Reads a closing bracket. -/
def close (sc : Scope) (p : Piece) (mayRefer : Bool) (st : Progress) : Progress :=
  let text := Part.text (sc.slice p.start p.stop)
  match Part.sinceBracket? st.done with
  | none => { st with done := text :: st.done }
  | some (inner, mark, before) =>
    let bracket := Part.text (sc.slice mark.start mark.stop)
    let plain := { st with done := text :: (inner ++ bracket :: before) }
    if !mark.active then plain
    else
      match sc.inlineTarget? p st.rest with
      | some (target, stop) =>
        { st with done := sc.link target inner mark before, rest := Piece.dropTo stop st.rest }
      | none =>
        match sc.reference? mark p mayRefer st.rest with
        | none => plain
        | some ref =>
          match if st.budget = 0 then none else sc.references.target? ref.label with
          | none => { plain with rest := ref.unlinked }
          | some target =>
            ⟨sc.link target inner mark before, ref.linked, st.budget - cost target⟩

/-- Reads a run of backticks. -/
def ticks (sc : Scope) (p : Piece) (count : Nat) (escaped : Bool) (st : Progress) : Progress :=
  let count := if escaped then count - 1 else count
  match if count = 0 then none else closingTicks? count st.rest with
  | none => { st with done := .text (sc.slice p.start p.stop) :: st.done }
  | some (closing, rest) =>
    let before := if escaped then [Part.text (sc.slice p.start (p.start + 1))] else []
    { st with
      done := .inline (sc.code p.stop closing.start) :: (before ++ st.done)
      rest := rest }

/-- Reads an opening angle bracket. -/
def angle (sc : Scope) (p : Piece) (st : Progress) : Progress :=
  match if st.rest.isEmpty then none else sc.angled? p with
  | none => { st with done := .text (sc.slice p.start p.stop) :: st.done }
  | some (content, stop) =>
    { st with done := .inline content :: st.done, rest := Piece.dropTo stop st.rest }

/-- Reads a piece. -/
def read (sc : Scope) (p : Piece) (st : Progress) : Progress :=
  let add (part : Part) : Progress := { st with done := part :: st.done }
  match p.kind with
  | .text => add (.text (sc.slice p.start p.stop))
  | .literal content => add (.text content)
  | .marks mark count opens closes =>
    add (.run ⟨mark, count, sc.slice p.start p.stop, count, opens, closes⟩)
  | .ticks count escaped => sc.ticks p count escaped st
  | .angle => sc.angle p st
  | .openLink => add (.bracket ⟨false, true, p.start, p.stop⟩)
  | .openImage => add (.bracket ⟨true, true, p.start, p.stop⟩)
  | .close mayRefer => sc.close p mayRefer st
  | .softBreak => add (.inline .softBreak)
  | .hardBreak true => add .keptBreak
  | .hardBreak false => add (.inline .hardBreak)

/-- Reads pieces until none are left, at most `fuel` of them. -/
def readAll (sc : Scope) : (fuel : Nat) → Progress → Progress
  | 0, st => st
  | fuel + 1, st =>
    match st.rest with
    | [] => st
    | p :: rest => readAll sc fuel (sc.read p { st with rest := rest })

end Scope

/-- The content of a passage, and what is left of the budget for targets of labels. -/
def Passage.content (s : Source) (refs : References) (budget : Nat) (p : Passage) :
    List Inline × Nat :=
  let sc : Scope := ⟨s.extract 0 p.stop, p.within, p.cell, refs⟩
  let st := sc.readAll p.pieces.length ⟨[], p.pieces, budget⟩
  (Part.resolve sc.source st.done, st.budget)

end Stencil.Markdown
