import Stencil.Markdown.Opening
import Stencil.Markdown.Table

/-!
# The line behind a paragraph

What a line means for the paragraph, or the definition, that the text is in: it may begin something
else, underline the paragraph, or go on with it. A line goes on with a paragraph even where the
marks of its containers are left out.
-/

namespace Stencil.Markdown

namespace Source

/-- Whether what stands at `i`, in the line behind a paragraph, begins another block. A table needs
a bar in front. -/
def interrupts (s : Source) (within : List Container) (inside : Bool) (i : Nat) : Bool :=
  s.beginsBlock inside i || (s[i]? == some '|' && (s.tableHead? within i).isSome)

end Source

/-- The line behind a paragraph: whether it belongs to all containers of the paragraph, whether it
is indented by four columns or more, and its margin, of which at most four columns are passed. -/
structure Continuation where
  inside : Bool
  indented : Bool
  margin : Margin

namespace Continuation

/-- The line that starts at a position. -/
def ofLine (s : Source) (within : List Container) (start : Nat) : Continuation :=
  let (depth, margin) := Container.enterAll s within (.ofLine start)
  let (passed, margin) := margin.pass s 4
  ⟨depth == within.length, passed == 4, margin⟩

/-- Whether the line begins another block. -/
def interrupts (s : Source) (within : List Container) (c : Continuation) : Bool :=
  !c.indented && s.interrupts within c.inside c.margin.pos

/-- The level of the heading that the line makes of the paragraph, and the position behind it. -/
def underline? (s : Source) (c : Continuation) : Option (Nat × Nat) :=
  if c.indented then none else s.underline? c.margin.pos

end Continuation

end Stencil.Markdown
