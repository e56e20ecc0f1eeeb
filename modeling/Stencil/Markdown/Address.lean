import Stencil.Markdown.Inline
import Stencil.Markdown.Source

/-!
# Addresses between angle brackets

An address with a scheme, or a mail address, makes a link of itself.
-/

namespace Stencil.Markdown

/-- A character of a scheme. -/
def isSchemeChar (c : Char) : Bool := c.isAlphanum || c == '+' || c == '.' || c == '-'

/-- A character of the part of a mail address before the `@`. -/
def isMailChar (c : Char) : Bool :=
  c.isAlphanum || ".!#$%&'*+/=?^_\x60\x7b|\x7d~-".toList.contains c

/-- A character of a label of a mail address. -/
def isMailLabelChar (c : Char) : Bool := c.isAlphanum || c == '-'

namespace Source

/-- The position of the bracket behind the address with a scheme that starts at `i`. A scheme has at
least two characters and at most 32, the first of them a letter. -/
def schemeAddressEnd? (s : Source) (i : Nat) : Option Nat :=
  let colon := s.skipWhile isSchemeChar i
  let stop := s.skipWhile (fun c => 0x20 < c.toNat && c != '<' && c != '>') (colon + 1)
  if s.testAt Char.isAlpha i && 2 ≤ colon - i && colon - i ≤ 32 && s[colon]? == some ':'
      && s[stop]? == some '>' then
    some stop
  else none

/-- The position of the bracket behind the labels that start at `i`: letters, digits and inner
hyphens, at most 63, with dots between the labels. -/
def mailLabelsEnd? (s : Source) : (fuel : Nat) → Nat → Option Nat
  | 0, _ => none
  | fuel + 1, i =>
    let stop := s.skipWhile isMailLabelChar i
    if stop = i || 63 < stop - i || s[i]? == some '-' || s[stop - 1]? == some '-' then none
    else if s[stop]? = some '.' then mailLabelsEnd? s fuel (stop + 1)
    else if s[stop]? = some '>' then some stop
    else none

/-- The position of the bracket behind the mail address that starts at `i`. -/
def mailAddressEnd? (s : Source) (i : Nat) : Option Nat :=
  let mark := s.skipWhile isMailChar i
  if i < mark && s[mark]? == some '@' then s.mailLabelsEnd? s.size (mark + 1) else none

/-- The link that the address at `i`, behind an angle bracket, makes, and the position behind it. -/
def address? (s : Source) (i : Nat) : Option (Inline × Nat) :=
  let link (scheme : List Char) (stop : Nat) : Inline × Nat :=
    let address := s.slice i stop
    (.link ⟨scheme ++ address, []⟩ [.text address], stop + 1)
  ((s.schemeAddressEnd? i).map (link [])).or
    ((s.mailAddressEnd? i).map (link "mailto:".toList))

end Source

end Stencil.Markdown
