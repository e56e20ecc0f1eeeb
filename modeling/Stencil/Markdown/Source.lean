/-!
# Texts by position

A text is read by position, since the first reading of it (into blocks) notes where things stand and
the second one (of what is within a block) goes back there. A line ends at a line feed, a carriage
return, the two together, or the end of the text.
-/

namespace Stencil.Markdown

/-- A blank within a line. -/
def isGap (c : Char) : Bool := c == ' ' || c == '\t' || c == '\x0b' || c == '\x0c'

/-- A character that ends a line. -/
def isLineEnd (c : Char) : Bool := c == '\n' || c == '\r'

/-- A blank within a line or a line's end. -/
def isSpace (c : Char) : Bool := isGap c || isLineEnd c

/-- A character of one byte. -/
def isAscii (c : Char) : Bool := c.toNat < 128

/-- A text that is read by position. -/
abbrev Source := Array Char

namespace Source

/-- The text of a string. -/
def ofString (s : String) : Source := s.toList.toArray

/-- The text from one position up to another. -/
def slice (s : Source) (start stop : Nat) : List Char := (s.extract start stop).toList

/-- Whether the character at a position satisfies `p`. -/
def testAt (s : Source) (p : Char → Bool) (i : Nat) : Bool := (s[i]?.map p).getD false

/-- The first position from `i` on whose character does not satisfy `p`. -/
def skipWhile (s : Source) (p : Char → Bool) (i : Nat) : Nat :=
  if h : i < s.size then
    if p s[i] then skipWhile s p (i + 1) else i
  else i
termination_by s.size - i

/-- Whether a text stands at a position. -/
def hasAt (s : Source) : List Char → Nat → Bool
  | [], _ => true
  | c :: cs, i => s[i]? == some c && hasAt s cs (i + 1)

/-- The first position from `i` on where a text stands. -/
def find? (s : Source) (text : List Char) (i : Nat) : Option Nat :=
  if s.hasAt text i then some i
  else if i < s.size then find? s text (i + 1)
  else none
termination_by s.size - i

/-- The position behind the line's end that stands at `i`, if one does. -/
def lineEnd? (s : Source) (i : Nat) : Option Nat :=
  match s[i]? with
  | none => some i
  | some '\n' => some (i + 1)
  | some '\r' => some (if s[i + 1]? == some '\n' then i + 2 else i + 1)
  | some _ => none

/-- Whether a line ends at a position. -/
def atLineEnd (s : Source) (i : Nat) : Bool := (s.lineEnd? i).isSome

/-- The position behind the blanks at `i`. -/
def skipGaps (s : Source) (i : Nat) : Nat := s.skipWhile isGap i

/-- The position behind the line if nothing but blanks is left of it. -/
def blankEnd? (s : Source) (i : Nat) : Option Nat := s.lineEnd? (s.skipGaps i)

/-- Whether nothing but blanks is left of the line. -/
def isBlankAt (s : Source) (i : Nat) : Bool := (s.blankEnd? i).isSome

/-- The position behind the next line feed. Verbatim blocks are cut here, and not at a carriage
return. -/
def afterLineFeed (s : Source) (i : Nat) : Nat :=
  let j := s.skipWhile (· != '\n') i
  if j < s.size then j + 1 else j

/-- How many characters from `start` up to `stop` satisfy `p` at the back. -/
def countBack (s : Source) (p : Char → Bool) (start : Nat) : (stop : Nat) → Nat
  | 0 => 0
  | stop + 1 => if start ≤ stop && s.testAt p stop then 1 + countBack s p start stop else 0

end Source

end Stencil.Markdown
