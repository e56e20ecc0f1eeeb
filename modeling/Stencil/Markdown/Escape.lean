import Stencil.Markdown.CharacterReference
import Stencil.Text.Punctuation

/-!
# Escaped text

Destinations, titles and the words behind a fence are written with escapes: a backslash takes the
meaning from the punctuation behind it, and a character reference stands for other text.
-/

namespace Stencil.Markdown

namespace Source

/-- Whether a backslash at `i` is before punctuation. -/
def isEscapeAt (s : Source) (i : Nat) : Bool :=
  s[i]? == some '\\' && s.testAt Text.isAsciiPunctuation (i + 1)

/-- Whether two backslashes at `i` are before a bar. In a table both belong to the bar. -/
def isEscapedBarAt (s : Source) (i : Nat) : Bool := s.hasAt ['\\', '\\', '|'] i

/-- The text that the escaped text from `i` on stands for, at most `fuel` characters of it. -/
def unescapeFrom (s : Source) (cell : Bool) : (fuel : Nat) → (i : Nat) → List Char
  | 0, _ => []
  | fuel + 1, i =>
    match s[i]? with
    | none => []
    | some c =>
      if cell && s.isEscapedBarAt i then '|' :: unescapeFrom s cell fuel (i + 3)
      else if s.isEscapeAt i then
        s.slice (i + 1) (i + 2) ++ unescapeFrom s cell fuel (i + 2)
      else if c = '&' then
        match s.reference? i with
        | some (text, next) => text ++ unescapeFrom s cell fuel next
        | none => c :: unescapeFrom s cell fuel (i + 1)
      else if c = '\r' then unescapeFrom s cell fuel (i + 1)
      else c :: unescapeFrom s cell fuel (i + 1)

end Source

/-- The text that an escaped text stands for; `cell` tells whether it is in a table. -/
def unescape (cell : Bool) (cs : List Char) : List Char :=
  Source.unescapeFrom cs.toArray cell cs.length 0

end Stencil.Markdown
