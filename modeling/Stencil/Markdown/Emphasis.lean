import Stencil.Markdown.Inline

/-!
# Emphasis

Runs of `*`, `_` and `~` open and close emphasis. A run closes the nearest run that it matches;
what is left of a run is text.
-/

namespace Stencil.Markdown

/-- A run of equal marks: how many are left, the text that they are, how many there were, and
whether the run can open or close emphasis. -/
structure Run where
  mark : Char
  left : Nat
  text : List Char
  length : Nat
  opens : Bool
  closes : Bool

namespace Run

/-- Whether `close` may end what `start` begins. Runs of `~` have to be equally long. Where one of
the two others could do both, their lengths may not add up to a multiple of three unless both are
multiples of three. -/
def matchesRun (start close : Run) : Bool :=
  start.mark == close.mark
    && (if close.mark == '~' then start.length == close.length
      else
        !(start.closes || close.opens) || (start.length + close.length) % 3 != 0
          || close.length % 3 == 0)

/-- The run without its last `marks` marks. -/
def dropBack (marks : Nat) (r : Run) : Run :=
  { r with left := r.left - marks, text := r.text.take (r.left - marks) }

/-- The run without its first `marks` marks. -/
def dropFront (marks : Nat) (r : Run) : Run :=
  { r with left := r.left - marks, text := r.text.drop marks }

/-- The marks that are left, as text. -/
def leftover (r : Run) : Inline := .text r.text

end Run

/-- `content` within `marks` emphasis marks: pairs of two inside, a single one outside. -/
def emphasise : (marks : Nat) → List Inline → List Inline
  | 0, content => content
  | 1, content => [.emphasis content]
  | marks + 2, content => emphasise marks [.strong content]

/-- `content` between two runs with `marks` marks each. -/
def wrap (mark : Char) (marks : Nat) (content : List Inline) : List Inline :=
  if mark = '~' then [.deleted content] else emphasise marks content

/-- Runs that are still open, the innermost first, each with the content after it, and the content
before all of them. Contents are kept with the latest piece first. The outermost `barred` runs were
there when a run of `~` found none to close, and no such run looks at them again. -/
structure Layers where
  frames : List (Run × List Inline)
  ground : List Inline
  barred : Nat

namespace Layers

/-- Before the first piece. -/
def empty : Layers := ⟨[], [], 0⟩

/-- Adds pieces, the latest first, to the innermost layer. -/
def add (pieces : List Inline) (l : Layers) : Layers :=
  match l.frames with
  | (r, content) :: frames => { l with frames := (r, pieces ++ content) :: frames }
  | [] => { l with ground := pieces ++ l.ground }

/-- The nearest of the innermost `reach` runs that `close` matches, the content since then, and the
layers outside. -/
def nearest? (close : Run) : (reach : Nat) → List (Run × List Inline) →
    Option (Run × List Inline × List (Run × List Inline))
  | reach + 1, (r, content) :: frames =>
    if r.matchesRun close then some (r, content, frames)
    else
      (nearest? close reach frames).map fun (start, before, outer) =>
        (start, content ++ r.leftover :: before, outer)
  | _, _ => none

/-- Lets a run close what it can, in at most `fuel` steps. What is left of it opens a layer or is
text. -/
def closeWithin : (fuel : Nat) → Run → Layers → Layers
  | 0, _, l => l
  | fuel + 1, r, l =>
    let opened (l : Layers) : Layers :=
      if r.opens then { l with frames := (r, []) :: l.frames } else l.add [r.leftover]
    if r.left = 0 then l
    else if !r.closes then opened l
    else
      match nearest? r (if r.mark = '~' then l.frames.length - l.barred else l.frames.length)
          l.frames with
      | some (start, content, outer) =>
        let marks := min start.left r.left
        let inner := (wrap r.mark marks content.reverse).reverse
        let l := { l with frames := outer, barred := min l.barred outer.length }
        closeWithin fuel (r.dropFront marks)
          (if marks < start.left then { l with frames := (start.dropBack marks, inner) :: outer }
            else l.add inner)
      | none => opened (if r.mark = '~' then { l with barred := l.frames.length } else l)

/-- Lets a run close what it can; what is left of it opens a layer or is text. -/
def meet (r : Run) (l : Layers) : Layers := closeWithin (r.left + 1) r l

/-- The content, where runs that are still open are text. -/
def content (l : Layers) : List Inline :=
  (l.frames.foldr (fun (r, inner) before => inner ++ r.leftover :: before) l.ground).reverse

end Layers

end Stencil.Markdown
