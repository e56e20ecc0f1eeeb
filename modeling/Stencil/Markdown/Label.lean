import Stencil.Markdown.Inline
import Stencil.Markdown.Source
import Stencil.Text.CaseFold

/-!
# Labels

A label is the text between brackets that a link and the definition of its target share. Labels are
compared by their folded forms, with each run of blanks as one space.
-/

namespace Stencil.Markdown

/-- How a text goes on behind a line's end: the position of what the next line adds to it, if it
adds anything. -/
abbrev NextLine := Nat → Option Nat

namespace Source

/-- The position behind the blanks at `i`, with at most one line's end among them if `mayEnd`. -/
def labelGap? (s : Source) (next : NextLine) : (fuel : Nat) → (mayEnd : Bool) → Nat → Option Nat
  | 0, _, i => some i
  | fuel + 1, mayEnd, i =>
    if s.testAt isGap i then labelGap? s next fuel mayEnd (i + 1)
    else if s.testAt isLineEnd i then
      if mayEnd then (s.lineEnd? i).bind fun j => (next j).bind (labelGap? s next fuel false)
      else none
    else some i

/-- Reads a label from `i` on: `read` is what has been read of it, the latest character first,
`blank` tells whether only blanks and escapes were among it, and `weight` is what counts towards the
limit of a thousand: the bytes of blanks, escapes and characters that are not ASCII. -/
def labelFrom? (s : Source) (next : NextLine) (cell : Bool) :
    (fuel : Nat) → (weight : Nat) → (blank : Bool) → (read : List Char) → Nat →
      Option (List Char × Nat)
  | 0, _, _, _, _ => none
  | fuel + 1, weight, blank, read, i =>
    if 1000 ≤ weight then none
    else
      match s[i]? with
      | none => none
      | some '[' => none
      | some ']' =>
        let isSpace (c : Char) : Bool := c == ' '
        if blank then none
        else some ((read.dropWhile isSpace).reverse.dropWhile isSpace, i + 1)
      | some '\\' =>
        match s[i + 1]? with
        | none => none
        | some d =>
          if cell && d == '|' then
            labelFrom? s next cell fuel (weight + 1) blank (d :: read) (i + 2)
          else
            labelFrom? s next cell fuel (weight + 1 + d.utf8Size) (blank && isAscii d)
              (d :: '\\' :: read) (i + 2)
      | some c =>
        if isSpace c then
          (s.labelGap? next s.size true i).bind fun j =>
            labelFrom? s next cell fuel (weight + (j - i)) blank (' ' :: read) j
        else
          labelFrom? s next cell fuel (if isAscii c then weight else weight + c.utf8Size) false
            (c :: read) (i + 1)

/-- The label whose opening bracket stands at `i`, and the position behind it. -/
def label? (s : Source) (next : NextLine) (cell : Bool) (i : Nat) : Option (List Char × Nat) :=
  if s[i]? = some '[' then s.labelFrom? next cell (s.size - i) 0 true [] (i + 1) else none

end Source

/-- The targets of labels, which are kept in folded form. -/
abbrev References := List (List Char × Target)

/-- The target of a label; the first definition counts. -/
def References.target? (refs : References) (label : List Char) : Option Target :=
  refs.lookup (Text.fold label)

/-- The targets after one more definition. -/
def References.define (refs : References) (label : List Char) (target : Target) : References :=
  refs ++ [(Text.fold label, target)]

end Stencil.Markdown
