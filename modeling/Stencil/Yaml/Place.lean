/-!
# Places in a YAML text

A place is what is left of a text, with the line and the column where it starts. A line ends at a
line feed, a carriage return, the two together, or one of three characters of Unicode.
-/

namespace Stencil.Yaml

/-- A space or a tab. -/
def isGap (c : Char) : Bool := c == ' ' || c == '\t'

/-- A character that ends a line and is kept where the line is. -/
def isSeparator (c : Char) : Bool := c == '\u2028' || c == '\u2029'

/-- A character that ends a line. -/
def isBreak (c : Char) : Bool := c == '\n' || c == '\r' || c == '\x85' || isSeparator c

/-- A character of a name. -/
def isNameChar (c : Char) : Bool := c.isAlphanum || c == '_' || c == '-'

/-- Whether the character may occur in a YAML text at all. -/
def isAllowed (c : Char) : Bool :=
  let n := c.toNat
  n == 0x09 || n == 0x0A || n == 0x0D || (0x20 ≤ n && n ≤ 0x7E) || n == 0x85
    || (0xA0 ≤ n && n ≤ 0xD7FF) || (0xE000 ≤ n && n ≤ 0xFFFD) || 0x10000 ≤ n

/-- Whether a gap, the end of a line or the end of the text comes first. -/
def atGap : List Char → Bool
  | [] => true
  | c :: _ => isGap c || isBreak c

/-- What is left of a text, how many characters are before it, and the line and the column where it
starts. -/
structure Place where
  index : Nat
  line : Nat
  column : Nat
  rest : List Char

namespace Place

/-- The start of a text. -/
def ofText (cs : List Char) : Place := ⟨0, 0, 0, cs⟩

/-- Whether a character comes first. -/
def has (c : Char) (p : Place) : Bool := p.rest.head? == some c

/-- Whether the first character satisfies `test`. -/
def test (test : Char → Bool) (p : Place) : Bool := (p.rest.head?.map test).getD false

/-- Passes `n` characters of a line. -/
def skip (n : Nat) (p : Place) : Place := ⟨p.index + n, p.line, p.column + n, p.rest.drop n⟩

/-- Passes characters of a line as long as they satisfy `test`. -/
def skipWhile (test : Char → Bool) (p : Place) : Place := p.skip (p.rest.takeWhile test).length

/-- The end of a line that comes first, as it counts in a text. -/
def breakText (p : Place) : List Char :=
  match p.rest with
  | [] => []
  | c :: _ => if isSeparator c then [c] else ['\n']

/-- Passes the end of a line that comes first. -/
def skipBreak (p : Place) : Place :=
  match p.rest with
  | [] => p
  | '\r' :: '\n' :: cs => ⟨p.index + 2, p.line + 1, 0, cs⟩
  | _ :: cs => ⟨p.index + 1, p.line + 1, 0, cs⟩

/-- Passes the comment that comes first, if one does. -/
def skipComment (p : Place) : Place := if p.has '#' then p.skipWhile (!isBreak ·) else p

/-- Passes what may be at the end of a line, gaps and a comment, and the end itself. -/
def endLine? (p : Place) : Option Place :=
  let p := (p.skipWhile isGap).skipComment
  match p.rest with
  | [] => some p
  | c :: _ => if isBreak c then some p.skipBreak else none

/-- Whether three marks at the start of a line, which bound a document, come first. -/
def atBound (mark : Char) (p : Place) : Bool :=
  p.column == 0 && [mark, mark, mark].isPrefixOf p.rest && atGap (p.rest.drop 3)

/-- Whether a line that bounds a document comes first. -/
def atAnyBound (p : Place) : Bool := p.atBound '-' || p.atBound '.'

end Place

end Stencil.Yaml
