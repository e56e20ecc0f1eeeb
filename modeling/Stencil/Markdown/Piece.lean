import Stencil.Markdown.Escape
import Stencil.Text.Blank

/-!
# Pieces of a line

A line is cut where a character may have a meaning: a mark of emphasis, a bracket and the like. What
it means, if anything, shows when the paragraph is complete. A piece keeps where it stands, since
links and raw markup are looked for in the text itself.
-/

namespace Stencil.Markdown

/-- What a piece of a line may mean. -/
inductive PieceKind where
  | text
  /-- Text that stands for itself, whatever is written. -/
  | literal (content : List Char)
  /-- A run of marks of emphasis, and whether it can open or close some. -/
  | marks (mark : Char) (count : Nat) (opens closes : Bool)
  /-- A run of backticks, and whether a backslash is before it. -/
  | ticks (count : Nat) (escaped : Bool)
  /-- An opening angle bracket. -/
  | angle
  | openLink
  | openImage
  /-- A closing bracket, and whether the text before it may still be a label. -/
  | close (mayRefer : Bool)
  | softBreak
  /-- The end of a line that is kept, and whether a backslash asks for it. -/
  | hardBreak (backslash : Bool)

/-- A piece of a line. -/
structure Piece where
  kind : PieceKind
  start : Nat
  stop : Nat

namespace Piece

/-- The pieces from the first one on that goes past `pos`; it starts there then. -/
def dropTo (pos : Nat) : List Piece → List Piece
  | [] => []
  | p :: ps => if p.stop ≤ pos then dropTo pos ps else { p with start := max p.start pos } :: ps

/-- The pieces with the text from one position up to another on top. -/
def addText (start stop : Nat) (pieces : List Piece) : List Piece :=
  if start < stop then ⟨.text, start, stop⟩ :: pieces else pieces

/-- Whether a run of marks opens emphasis, by the characters around it. Inside a word only `*` and
`~~` do. At the front of what is read, nothing is `before`. -/
def opensEmphasis (cell : Bool) (mark : Char) (count : Nat) (before after : Option Char) : Bool :=
  match after, before with
  | none, _ => false
  | some a, none => !Text.isBlank a
  | some a, some b =>
    !Text.isBlank a && !(cell && a == '|')
      && ((mark == '*' && !Text.isPunctuation a) || (mark == '~' && 1 < count)
        || (mark == '~' && b == '~' && !Text.isPunctuation a)
        || Text.isBlank b || Text.isPunctuation b)

/-- Whether a run of marks closes emphasis, by the characters around it. -/
def closesEmphasis (cell : Bool) (mark : Char) (count : Nat) (before after : Option Char) : Bool :=
  match before, after with
  | none, _ => false
  | some b, none => !Text.isBlank b
  | some b, some a =>
    !Text.isBlank b
      && ((cell && a == '|')
        || ((mark == '*' || (mark == '~' && 1 < count)) && !Text.isPunctuation b)
        || (mark == '~' && b == '~') || Text.isBlank a || Text.isPunctuation a)

end Piece

namespace Source

/-- What stands at a position: so many characters of text, or pieces behind which text starts at
`text` and reading goes on at `next`. -/
inductive Step where
  | plain (length : Nat)
  | pieces (new : List Piece) (text next : Nat)

/-- What stands at `i` in the part of a line that starts at `start`. -/
def step (s : Source) (cell : Bool) (start i : Nat) (c : Char) : Step :=
  let one (kind : PieceKind) (length : Nat) : Step :=
    .pieces [⟨kind, i, i + length⟩] (i + length) (i + length)
  match c with
  | '\\' =>
    if !s.isEscapeAt i then .plain 1
    else if s[i + 1]? = some '\x60' then
      let stop := s.skipWhile (· == '\x60') (i + 1)
      .pieces [⟨.ticks (stop - (i + 1)) true, i + 1, stop⟩] stop stop
    else if cell && s.isEscapedBarAt i then .pieces [] (i + 2) (i + 3)
    else .pieces [] (i + 1) (i + 2)
  | '\x60' =>
    let count := s.skipWhile (· == c) i - i
    one (.ticks count false) count
  | '<' => if s[i + 1]? = some '\\' then .plain 1 else one .angle 1
  | '!' => if s[i + 1]? = some '[' then one .openImage 2 else .plain 1
  | '[' => one .openLink 1
  | ']' => one (.close true) 1
  | '&' =>
    match s.reference? i with
    | some (text, stop) => one (.literal text) (stop - i)
    | none => .plain 1
  | '\x00' => one (.literal ['\uFFFD']) 1
  | _ =>
    if c == '*' || c == '_' || c == '~' then
      let stop := s.skipWhile (· == c) i
      let count := stop - i
      let before := if i = start then none else s[i - 1]?
      let opens := Piece.opensEmphasis cell c count before s[stop]?
      let closes := Piece.closesEmphasis cell c count before s[stop]?
      if (opens || closes) && !(c == '~' && 2 < count) then one (.marks c count opens closes) count
      else .plain count
    else .plain 1

/-- The pieces of the part of a line from `start` on, the latest first, and the position where it
ends: at the line's end, or in a cell of a table at the next bar. -/
def readPieces (s : Source) (cell : Bool) (start : Nat) :
    (fuel : Nat) → (pieces : List Piece) → (text i : Nat) → List Piece × Nat × Nat
  | 0, pieces, text, i => (pieces, text, i)
  | fuel + 1, pieces, text, i =>
    match s[i]? with
    | none => (pieces, text, i)
    | some c =>
      if isLineEnd c || (cell && c == '|' && !(i != 0 && s[i - 1]? == some '\\')) then
        (pieces, text, i)
      else
        match s.step cell start i c with
        | .plain length => readPieces s cell start fuel pieces text (i + length)
        | .pieces new after next =>
          readPieces s cell start fuel (new.reverse ++ Piece.addText text i pieces) after next

end Source

/-- The pieces of a line, the latest first, the piece for the line's end if the text goes on behind
it, and the position of the next line. -/
structure LineReading where
  pieces : List Piece
  lineBreak : Option Piece
  next : Nat

namespace Source

/-- Reads the line from `start` on. A backslash at its end, or two blanks, keep the line's end. -/
def readLine (s : Source) (start : Nat) : LineReading :=
  let (pieces, text, stop) := s.readPieces false start (s.size + 1 - start) [] start start
  let gaps := s.countBack isGap 0 stop
  match s[stop]? with
  | none => ⟨Piece.addText text (stop - s.countBack isGap text stop) pieces, none, stop⟩
  | some _ =>
    let next := (s.lineEnd? stop).getD stop
    if s.countBack (· == '\\') 0 stop % 2 == 1 && next < s.size then
      ⟨Piece.addText text (stop - 1) pieces, some ⟨.hardBreak true, stop - 1, next⟩, next⟩
    else if 2 ≤ gaps then
      ⟨Piece.addText text (stop - gaps) pieces, some ⟨.hardBreak false, stop - gaps, next⟩, next⟩
    else ⟨Piece.addText text (stop - gaps) pieces, some ⟨.softBreak, stop, next⟩, next⟩

/-- The pieces of the cell of a table from `start` on, the latest first, and where the cell ends. -/
def readCell (s : Source) (start : Nat) : List Piece × Nat :=
  let (pieces, text, stop) := s.readPieces true start (s.size + 1 - start) [] start start
  (Piece.addText text (stop - s.countBack isGap text stop) pieces, stop)

end Source

end Stencil.Markdown
