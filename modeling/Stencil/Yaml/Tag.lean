import Stencil.Json.Reader
import Stencil.Yaml.Place
import Stencil.Yaml.Token

/-!
# Tags, names and directives

A tag is a handle and the rest of an address; a directive declares a handle or the version of the
text.
-/

namespace Stencil.Yaml

/-- A character of the rest of a tag. Between angle brackets there may be three more. -/
def isTagChar (verbatim : Bool) (c : Char) : Bool :=
  isNameChar c || ";/?:@&=+$.!~*'()%".toList.contains c || (verbatim && ",[]".toList.contains c)

/-- The byte that two hexadecimal digits behind a percent sign stand for, and the rest. -/
def percentByte? : List Char → Option (Nat × List Char)
  | '%' :: a :: b :: cs => do
    return (16 * (← Json.Reader.hexDigit? a) + (← Json.Reader.hexDigit? b), cs)
  | _ => none

/-- How many bytes of UTF-8 follow a first byte. -/
def followers? (first : Nat) : Option Nat :=
  if first < 0x80 then some 0
  else if 0xC0 ≤ first && first < 0xE0 then some 1
  else if 0xE0 ≤ first && first < 0xF0 then some 2
  else if 0xF0 ≤ first && first < 0xF8 then some 3
  else none

/-- Passes `n` bytes that do not come first in a character. -/
def skipFollowers? : (n : Nat) → List Char → Option (List Char)
  | 0, cs => some cs
  | n + 1, cs =>
    (percentByte? cs).bind fun (byte, cs) =>
      if 0x80 ≤ byte && byte < 0xC0 then skipFollowers? n cs else none

/-- Passes a character that is written by its bytes. -/
def skipPercents? (cs : List Char) : Option (List Char) :=
  (percentByte? cs).bind fun (first, cs) => (followers? first).bind fun n => skipFollowers? n cs

/-- Passes the rest of a tag, at most `fuel` characters of it. -/
def skipTagRest? (verbatim : Bool) : (fuel : Nat) → List Char → Option (List Char)
  | 0, cs => some cs
  | _, [] => some []
  | fuel + 1, c :: cs =>
    if !isTagChar verbatim c then some (c :: cs)
    else if c = '%' then (skipPercents? (c :: cs)).bind (skipTagRest? verbatim fuel)
    else skipTagRest? verbatim fuel cs

/-- The place behind the rest of a tag, which may be empty only if `mayBeEmpty` says so. -/
def tagRest? (verbatim mayBeEmpty : Bool) (p : Place) : Option Place :=
  (skipTagRest? verbatim p.rest.length p.rest).bind fun rest =>
    let next := p.skip (p.rest.length - rest.length)
    if next.index = p.index && !mayBeEmpty then none else some next

/-- The handle that comes first, an exclamation mark with a name and perhaps another mark, and the
place behind it. -/
def takeHandle (p : Place) : String × Place :=
  let name := p.rest.tail.takeWhile isNameChar
  let length := name.length + 1
  if (p.skip length).has '!' then (String.ofList (p.rest.take (length + 1)), p.skip (length + 1))
  else (String.ofList (p.rest.take length), p.skip length)

/-- Whether a text is a handle of its own and not the start of a tag's rest. -/
def isNamedHandle (handle : String) : Bool := handle != "!" && handle.endsWith "!"

/-- The tag that comes first, and the place behind it. A tag between angle brackets has no handle.
-/
def tag? (flow : Bool) (p : Place) : Option (Token × Place) := do
  let (handle, next) ←
    if (p.skip 1).has '<' then
      (tagRest? true false (p.skip 2)).bind fun next =>
        if next.has '>' then some ("", next.skip 1) else none
    else
      let (handle, next) := takeHandle p
      if isNamedHandle handle then (tagRest? false false next).map (handle, ·)
      else
        (tagRest? false true next).map fun behind =>
          (if behind.index = p.index + 1 then "" else "!", behind)
  if atGap next.rest || (flow && next.has ',') then some (.tag handle, next) else none

/-- The name behind the mark of an anchor or an alias, and the place behind it. -/
def name? (p : Place) : Option (String × Place) :=
  let name := (p.skip 1).rest.takeWhile isNameChar
  let next := p.skip (name.length + 1)
  if !name.isEmpty && (atGap next.rest || next.test ("?:,]\x7d%@\x60".toList.contains ·)) then
    some (String.ofList name, next)
  else none

/-- The number that comes first, of at most nine digits, and the place behind it. -/
def versionNumber? (p : Place) : Option (Nat × Place) :=
  let digits := p.rest.takeWhile Char.isDigit
  if 1 ≤ digits.length && digits.length ≤ 9 then
    some (digits.foldl (fun n d => 10 * n + (d.toNat - '0'.toNat)) 0, p.skip digits.length)
  else none

/-- The directive that comes first, and the next line. -/
def directive? (p : Place) : Option (Token × Place) := do
  let name := (p.skip 1).rest.takeWhile isNameChar
  let behind := p.skip (name.length + 1)
  if !atGap behind.rest then none
  let start := behind.skipWhile isGap
  if name = "YAML".toList then
    let (major, next) ← versionNumber? start
    if !next.has '.' then none
    let (minor, next) ← versionNumber? (next.skip 1)
    return (.version major minor, ← next.endLine?)
  else if name = "TAG".toList then
    if !start.has '!' then none
    let (handle, next) := takeHandle start
    if !handle.endsWith "!" || !next.test isGap then none
    let next ← tagRest? true false (next.skipWhile isGap)
    if !atGap next.rest then none
    return (.handle handle, ← next.endLine?)
  else none

end Stencil.Yaml
