import Stencil.Markdown.Escape
import Stencil.Markdown.Inline
import Stencil.Markdown.Label

/-!
# Links

The destination of a link, and the target in parentheses behind a link's text.
-/

namespace Stencil.Markdown

namespace Source

/-- The position of the bracket that ends the destination with an angle bracket in front, where `i`
is inside. -/
def angledEnd? (s : Source) : (fuel : Nat) → Nat → Option Nat
  | 0, _ => none
  | fuel + 1, i =>
    match s[i]? with
    | none => none
    | some '>' => some i
    | some c =>
      if isLineEnd c || c == '<' then none
      else angledEnd? s fuel (if s.isEscapeAt i then i + 2 else i + 1)

/-- The position behind a destination without angle brackets, where `i` is inside `depth`
parentheses. -/
def bareEnd? (s : Source) : (fuel depth : Nat) → Nat → Option Nat
  | 0, depth, i => if depth = 0 then some i else none
  | fuel + 1, depth, i =>
    let stop := if depth = 0 then some i else none
    match s[i]? with
    | none => stop
    | some c =>
      if c.toNat ≤ 0x20 then stop
      else if c = '(' then if 32 < depth then none else bareEnd? s fuel (depth + 1) (i + 1)
      else if c = ')' then if depth = 0 then some i else bareEnd? s fuel (depth - 1) (i + 1)
      else bareEnd? s fuel depth (if s.isEscapeAt i then i + 2 else i + 1)

/-- The destination at `i`, with its escapes, and the position behind it. -/
def destination? (s : Source) (i : Nat) : Option (List Char × Nat) :=
  if s[i]? = some '<' then
    (s.angledEnd? s.size (i + 1)).map fun stop => (s.slice (i + 1) stop, stop + 1)
  else (s.bareEnd? s.size 0 i).map fun stop => (s.slice i stop, stop)

/-- The mark that closes a title. -/
def titleEnd? : Char → Option Char
  | '"' => some '"'
  | '\'' => some '\''
  | '(' => some ')'
  | _ => none

/-- Reads the title of a link from `i` on. Where a line ends and the text goes on elsewhere
(`next`), the title holds a line feed. -/
def titleFrom? (s : Source) (next : NextLine) (cell : Bool) (start close : Char) :
    (fuel : Nat) → Nat → Option (List Char × Nat)
  | 0, _ => none
  | fuel + 1, i =>
    let more (text : List Char) (i : Nat) : Option (List Char × Nat) :=
      (titleFrom? s next cell start close fuel i).map fun (title, stop) => (text ++ title, stop)
    match s[i]? with
    | none => none
    | some c =>
      if c = close then some ([], i + 1)
      else if c = start then none
      else
        match if isLineEnd c then next i else none with
        | some j => more ['\n'] j
        | none =>
          match if c = '&' then s.reference? i else none with
          | some (text, j) => more text j
          | none =>
            if cell && s.isEscapedBarAt i then more ['|'] (i + 3)
            else if s.isEscapeAt i then more (s.slice (i + 1) (i + 2)) (i + 2)
            else more [c] (i + 1)

/-- The title of a link at `i`, and the position behind it. -/
def title? (s : Source) (next : NextLine) (cell : Bool) (i : Nat) : Option (List Char × Nat) :=
  match s[i]? with
  | none => none
  | some c =>
    (titleEnd? c).bind fun close => s.titleFrom? next cell c close (s.size - i) (i + 1)

/-- The position behind the blanks between the parts of a target. One line may end there; `line`
gives what the next one starts with. -/
def skipSeparator (s : Source) (line : Nat → Nat) (i : Nat) : Nat :=
  let i := s.skipGaps i
  s.skipGaps (((s.lineEnd? i).map line).getD i)

/-- The target in parentheses at `i`, and the position behind it. -/
def inlineTarget? (s : Source) (line : Nat → Nat) (next : NextLine) (cell : Bool) (i : Nat) :
    Option (Target × Nat) := do
  if s[i]? ≠ some '(' then none
  let (destination, i) ← s.destination? (s.skipSeparator line (i + 1))
  let i := s.skipSeparator line i
  let (title, i) :=
    match s.title? next cell i with
    | some (title, i) => (title, s.skipSeparator line i)
    | none => ([], i)
  if s[i]? = some ')' then some (⟨unescape cell destination, title⟩, i + 1) else none

end Source

end Stencil.Markdown
