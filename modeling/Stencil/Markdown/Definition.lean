import Stencil.Markdown.Continuation
import Stencil.Markdown.Link

/-!
# Definitions

A definition gives a label its target. It stands where a paragraph could, and its parts may be in
lines of their own.
-/

namespace Stencil.Markdown

namespace Source

/-- What the line at `start` adds to a label that goes on there. -/
def labelLine? (s : Source) (within : List Container) : NextLine := fun start =>
  let c := Continuation.ofLine s within start
  if c.interrupts s within || (c.inside && (c.underline? s).isSome) then none
  else some c.margin.pos

/-- The position behind the blanks between the parts of a definition, and whether a line ends among
them. At most one may, and the next one has to go on with the definition. -/
def definitionGap? (s : Source) (within : List Container) (i : Nat) : Option (Nat × Bool) :=
  let i := s.skipGaps i
  match s.lineEnd? i with
  | none => some (i, false)
  | some start =>
    let c := Continuation.ofLine s within start
    let i := s.skipGaps c.margin.pos
    if c.interrupts s within || (c.underline? s).isSome || s.atLineEnd i then none
    else some (i, true)

/-- Reads the title of a definition from `i` on; it may have several lines. -/
def definitionTitleFrom? (s : Source) (within : List Container) (close : Char) :
    (fuel : Nat) → (read : List Char) → Nat → Option (List Char × Nat)
  | 0, _, _ => none
  | fuel + 1, read, i =>
    match s[i]? with
    | none => none
    | some c =>
      if c = close then some (read.reverse, i + 1)
      else if c = '\\' then
        match s[i + 1]? with
        | none => none
        | some d => definitionTitleFrom? s within close fuel (d :: c :: read) (i + 2)
      else if isLineEnd c then
        let line := Continuation.ofLine s within ((s.lineEnd? i).getD (i + 1))
        let next := (line.margin.skipAll s).pos
        if line.interrupts s within || (line.underline? s).isSome || s.atLineEnd next then none
        else definitionTitleFrom? s within close fuel ('\n' :: read) next
      else definitionTitleFrom? s within close fuel (c :: read) (i + 1)

/-- The title of a definition at `i`, with its escapes, and the position behind it. -/
def definitionTitle? (s : Source) (within : List Container) (i : Nat) : Option (List Char × Nat) :=
  (s[i]?.bind titleEnd?).bind fun close =>
    s.definitionTitleFrom? within close (s.size - i) [] (i + 1)

/-- The target that a definition gives, from the colon on, and the position behind it. What follows
the destination is a title only if nothing else is in its line; it may be something else only in a
line of its own. -/
def definedTarget? (s : Source) (within : List Container) (i : Nat) : Option (Target × Nat) := do
  let (start, _) ← s.definitionGap? within i
  let (destination, stop) ← s.destination? start
  if stop = start then none
  let target (title : List Char) : Target := ⟨unescape false destination, unescape false title⟩
  match s.definitionGap? within stop with
  | none => some (target [], stop)
  | some (next, ended) =>
    if next = stop then none
    else
      let untitled := if ended then some (target [], stop) else none
      match s.definitionTitle? within next with
      | none => untitled
      | some (title, behind) => if s.isBlankAt behind then some (target title, behind) else untitled

/-- The definition at `i`: its label, its target, and the position behind it. -/
def definition? (s : Source) (within : List Container) (i : Nat) :
    Option (List Char × Target × Nat) := do
  let (label, stop) ← s.label? (s.labelLine? within) false i
  if s[stop]? ≠ some ':' then none
  let (target, stop) ← s.definedTarget? within (stop + 1)
  some (label, target, stop)

end Source

end Stencil.Markdown
