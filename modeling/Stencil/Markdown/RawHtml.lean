import Stencil.Markdown.Label
import Stencil.Markdown.Source

/-!
# Raw markup

Tags, comments and the like in a text. A tag may go on in the next line; the marks of containers
that the line starts with are then no part of it.
-/

namespace Stencil.Markdown

/-- A character of a tag's name. -/
def isTagNameChar (c : Char) : Bool := c.isAlphanum || c == '-'

/-- A character that an attribute's name starts with. -/
def isAttributeStart (c : Char) : Bool := c.isAlpha || c == '_' || c == ':'

/-- A character of an attribute's name. -/
def isAttributeChar (c : Char) : Bool := isAttributeStart c || c.isDigit || c == '.' || c == '-'

/-- A character of an attribute's value without quotes. -/
def isBareValueChar (c : Char) : Bool := !"\"' =<>\x60\n\r".toList.contains c

/-- Markup that is being read: the position, and the stretches of it that are no part of it, the
latest first. -/
structure Reading where
  pos : Nat
  cuts : List (Nat × Nat)

namespace Reading

/-- Goes on at another position of the line. -/
def moveTo (r : Reading) (pos : Nat) : Reading := { r with pos := pos }

/-- Passes the line's end behind which the next line starts at `start`. -/
def passLine? (next : NextLine) (start : Nat) (r : Reading) : Option Reading :=
  (next start).map fun pos => ⟨pos, (start, pos) :: r.cuts⟩

/-- Passes blanks and lines' ends. -/
def passSpace? (s : Source) (next : NextLine) : (fuel : Nat) → Reading → Option Reading
  | 0, r => some r
  | fuel + 1, r =>
    if s.testAt isGap r.pos then passSpace? s next fuel (r.moveTo (r.pos + 1))
    else if s.testAt isLineEnd r.pos then
      (s.lineEnd? r.pos).bind fun start => (r.passLine? next start).bind (passSpace? s next fuel)
    else some r

/-- Passes a value up to its closing quote. -/
def passQuoted? (s : Source) (next : NextLine) (quote : Char) :
    (fuel : Nat) → Reading → Option Reading
  | 0, _ => none
  | fuel + 1, r =>
    match s[r.pos]? with
    | none => none
    | some c =>
      if c = quote then some (r.moveTo (r.pos + 1))
      else if isLineEnd c then
        (s.lineEnd? r.pos).bind fun start =>
          (r.passLine? next start).bind (passQuoted? s next quote fuel)
      else passQuoted? s next quote fuel (r.moveTo (r.pos + 1))

/-- Passes an attribute's value. -/
def passValue? (s : Source) (next : NextLine) (r : Reading) : Option Reading :=
  match s[r.pos]? with
  | some '"' => passQuoted? s next '"' s.size (r.moveTo (r.pos + 1))
  | some '\'' => passQuoted? s next '\'' s.size (r.moveTo (r.pos + 1))
  | _ => if s.testAt isBareValueChar r.pos then some (r.moveTo (s.skipWhile isBareValueChar r.pos))
    else none

/-- Passes an attribute: its name, and its value with the sign before it if there is one. -/
def passAttribute? (s : Source) (next : NextLine) (r : Reading) : Option Reading :=
  if s.testAt isAttributeStart r.pos then
    let named := r.moveTo (s.skipWhile isAttributeChar r.pos)
    (passSpace? s next s.size named).bind fun spaced =>
      if s[spaced.pos]? = some '=' then
        (passSpace? s next s.size (spaced.moveTo (spaced.pos + 1))).bind (passValue? s next)
      else some named
  else none

/-- Passes attributes, each behind a blank, and the end of the start tag. -/
def passAttributes? (s : Source) (next : NextLine) : (fuel : Nat) → Reading → Option Reading
  | 0, _ => none
  | fuel + 1, r =>
    (passSpace? s next s.size r).bind fun spaced =>
      if s[spaced.pos]? = some '>' then some (spaced.moveTo (spaced.pos + 1))
      else if s[spaced.pos]? = some '/' then
        if s[spaced.pos + 1]? = some '>' then some (spaced.moveTo (spaced.pos + 2)) else none
      else if spaced.pos = r.pos then none
      else (passAttribute? s next spaced).bind (passAttributes? s next fuel)

/-- The text from `start` up to `stop` without the cuts, the latest first. -/
def textWithout (s : Source) (start : Nat) : (cuts : List (Nat × Nat)) → (stop : Nat) → List Char
  | [], stop => s.slice start stop
  | (cut, resume) :: cuts, stop => textWithout s start cuts cut ++ s.slice resume stop

/-- The markup that has been read from `start` on. -/
def text (s : Source) (start : Nat) (r : Reading) : List Char := textWithout s start r.cuts r.pos

end Reading

namespace Source

/-- Reads the tag that starts at `i`. -/
def tag? (s : Source) (next : NextLine) (i : Nat) : Option Reading :=
  let closing := s[i + 1]? == some '/'
  let name := if closing then i + 2 else i + 1
  if !s.testAt Char.isAlpha name then none
  else
    let named := s.skipWhile isTagNameChar name
    if closing then
      let stop := s.skipGaps named
      if s[stop]? = some '>' then some ⟨stop + 1, []⟩ else none
    else Reading.passAttributes? s next s.size ⟨named, []⟩

/-- The position behind the next `text` from `i` on. -/
def past? (s : Source) (text : List Char) (i : Nat) : Option Nat :=
  (s.find? text i).map (· + text.length)

/-- The position behind the section of character data, whose text starts at `i`. It ends with the
first bracket that closes, so that an angle bracket has to follow there. -/
def dataEnd? (s : Source) (i : Nat) : Option Nat :=
  let first := s.skipWhile (· != ']') i
  let last := s.skipWhile (· == ']') first
  if first < last && s[last]? == some '>' then some (last + 1) else none

/-- The markup that starts at `i`: a comment, an instruction, a declaration, a section of character
data or a tag. The result is its text and the position behind it. -/
def markup? (s : Source) (next : NextLine) (i : Nat) : Option (List Char × Nat) :=
  let verbatim (stop : Option Nat) : Option (List Char × Nat) :=
    stop.map fun stop => (s.slice i stop, stop)
  if s.hasAt "<!--".toList i then verbatim (s.past? "-->".toList (i + 2))
  else if s.hasAt "<![CDATA[".toList i then verbatim (s.dataEnd? (i + 9))
  else if s.hasAt "<!".toList i then
    if s.testAt Char.isAlpha (i + 2) then verbatim (s.past? ['>'] (i + 3)) else none
  else if s.hasAt "<?".toList i then verbatim (s.past? "?>".toList (i + 2))
  else (s.tag? next i).map fun r => (r.text s i, r.pos)

end Source

end Stencil.Markdown
