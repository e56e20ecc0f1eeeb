import Stencil.Json.Number

/-!
# Reading JSON

A document takes up the whole text. Brackets nest to a fixed depth.
-/

namespace Stencil.Json

namespace Reader

/-- Blanks between the parts of a document. -/
def isBlank (c : Char) : Bool := c == ' ' || c == '\t' || c == '\n' || c == '\r'

/-- Drops the blanks at the front. -/
def skip (cs : List Char) : List Char := cs.dropWhile isBlank

/-- The value of a hexadecimal digit. -/
def hexDigit? (c : Char) : Option Nat :=
  if c.isDigit then some (c.toNat - '0'.toNat)
  else if 'a' ≤ c ∧ c ≤ 'f' then some (c.toNat - 'a'.toNat + 10)
  else if 'A' ≤ c ∧ c ≤ 'F' then some (c.toNat - 'A'.toNat + 10)
  else none

/-- The value of four hexadecimal digits. -/
def hex4? (a b c d : Char) : Option Nat := do
  return ((16 * (← hexDigit? a) + (← hexDigit? b)) * 16 + (← hexDigit? c)) * 16 + (← hexDigit? d)

/-- The character of a simple escape. -/
def unescape? : Char → Option Char
  | '"' => some '"'
  | '\\' => some '\\'
  | '/' => some '/'
  | 'b' => some '\x08'
  | 'f' => some '\x0c'
  | 'n' => some '\n'
  | 'r' => some '\r'
  | 't' => some '\t'
  | _ => none

/-- The characters of a string up to the closing quote, and the rest. -/
def string? : List Char → Option (List Char × List Char)
  | [] => none
  | '"' :: cs => some ([], cs)
  | '\\' :: 'u' :: a :: b :: c :: d :: cs => do
    let high ← hex4? a b c d
    if 0xD800 ≤ high ∧ high < 0xDC00 then
      match cs with
      | '\\' :: 'u' :: a :: b :: c :: d :: cs =>
        let low ← hex4? a b c d
        if 0xDC00 ≤ low ∧ low < 0xE000 then
          let (said, rest) ← string? cs
          return (Char.ofNat (0x10000 + (high - 0xD800) * 0x400 + (low - 0xDC00)) :: said, rest)
        else none
      | _ => none
    else if 0xDC00 ≤ high ∧ high < 0xE000 then none
    else
      let (said, rest) ← string? cs
      return (Char.ofNat high :: said, rest)
  | '\\' :: e :: cs => do
    let c ← unescape? e
    let (said, rest) ← string? cs
    return (c :: said, rest)
  | c :: cs => do
    if c.toNat < 32 ∨ c = '\\' then none
    let (said, rest) ← string? cs
    return (c :: said, rest)

/-- The items of an array after its bracket. -/
def items? (value : List Char → Option (Json × List Char)) (cs : List Char) :
    Option (List Json × List Char) := do
  let (item, r) ← value cs
  match skip r with
  | ',' :: r =>
    if r.length < cs.length then
      let (more, rest) ← items? value r
      return (item :: more, rest)
    else none
  | ']' :: r => return ([item], r)
  | _ => none
termination_by cs.length

/-- The members of an object after its brace. -/
def members? (value : List Char → Option (Json × List Char)) (cs : List Char) :
    Option (List (String × Json) × List Char) := do
  let '"' :: r := skip cs | none
  let (name, r) ← string? r
  let ':' :: r := skip r | none
  let (content, r) ← value r
  match skip r with
  | ',' :: r =>
    if r.length < cs.length then
      let (more, rest) ← members? value r
      return ((String.ofList name, content) :: more, rest)
    else none
  | '\x7d' :: r => return ([(String.ofList name, content)], r)
  | _ => none
termination_by cs.length

/-- A document off the front of a text, with brackets nested this deeply at most, and the rest. -/
def value? : (depth : Nat) → List Char → Option (Json × List Char)
  | depth, cs =>
    match skip cs with
    | 'n' :: 'u' :: 'l' :: 'l' :: r => some (.null, r)
    | 't' :: 'r' :: 'u' :: 'e' :: r => some (.bool true, r)
    | 'f' :: 'a' :: 'l' :: 's' :: 'e' :: r => some (.bool false, r)
    | '"' :: r => (string? r).map fun (s, r) => (.str (String.ofList s), r)
    | '[' :: r =>
      match depth with
      | 0 => none
      | depth + 1 =>
        match skip r with
        | ']' :: r => some (.array [], r)
        | r => (items? (value? depth) r).map fun (items, r) => (.array items, r)
    | '\x7b' :: r =>
      match depth with
      | 0 => none
      | depth + 1 =>
        match skip r with
        | '\x7d' :: r => some (.object [], r)
        | r =>
          (members? (value? depth) r).map fun (members, r) => (.object (ofMembers members), r)
    | r => do
      let (parts, r) ← Number.parts? r
      return (← parts.json?, r)

end Reader

/-- How deeply brackets may nest. -/
def maxDepth : Nat := 127

/-- The document that a text is. -/
def parse? (s : String) : Option Json := do
  let (j, r) ← Reader.value? maxDepth s.toList
  if (Reader.skip r).isEmpty then return j else none

end Stencil.Json
