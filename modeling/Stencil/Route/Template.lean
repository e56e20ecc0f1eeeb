import Stencil.Segment

/-!
# Route templates

A path with captures, such as `/article/{slug}`: the segments of the path, where the expressions
are the captures.
-/

namespace Stencil.Route

/-- A path template: its text and the segments of the text. -/
structure Template where
  source : String
  segments : List Segment
deriving DecidableEq, Repr

namespace Template

/-- The template written as `source`. -/
def ofString (source : String) : Template := ⟨source, Segment.parse source⟩

/-- The names of the captures in order, repetitions included. -/
def names (t : Template) : List String := Segment.names t.segments

end Template

/-- The path without the slashes at its end; the bare root keeps one. -/
def strip (path : String) : String :=
  let cs := (path.toList.reverse.dropWhile (· = '/')).reverse
  if cs = [] then "/" else String.ofList cs

end Stencil.Route

namespace Stencil

/-- A named path. -/
structure Route where
  name : String
  path : String
deriving DecidableEq, Repr

end Stencil
