import Stencil.Binding
import Stencil.Route.Template
import Stencil.Text.Occurrence

/-!
# Matching paths

A path matches a template if it can be cut at the literals of the template. A capture goes up to
the first place where the literal after it occurs; a last capture takes all that is left. A
template without captures matches the very text it is written as.
-/

namespace Stencil.Route

/-- What the captures of the segments hold when the segments make up the whole path. -/
def capture? : List Segment → List Char → Option (List (List Char))
  | [], path => if path = [] then some [] else none
  | .literal text :: segments, path =>
    if text.toList.isPrefixOf path then capture? segments (path.drop text.toList.length)
    else none
  | [.expression _], path => some [path]
  | .expression _ :: .literal text :: segments, path =>
    match Text.splitAtFirst? text.toList path with
    | some (value, rest) => (capture? segments rest).map (value :: ·)
    | none => none
  | .expression _ :: .expression _ :: _, _ => none

namespace Template

/-- The captures of a path, each with its name, in the order of the template. -/
def match? (t : Template) (path : String) : Option (Bindings String) :=
  if t.names.isEmpty then if t.source = path then some [] else none
  else (capture? t.segments path.toList).map fun values => t.names.zip (values.map String.ofList)

end Template

/-- A path that matched a route: the name of the route and what was captured. -/
structure Hit where
  name : String
  params : Bindings String
deriving DecidableEq, Repr

/-- The captured value of a name; of several the last. -/
def Hit.param? (hit : Hit) (name : String) : Option String := Bindings.get? name hit.params

/-- The first route that the path matches. Slashes at the end, of the path and of the routes, do
not count. -/
def hit? (routes : List Route) (path : String) : Option Hit :=
  routes.findSome? fun r =>
    ((Template.ofString (strip r.path)).match? (strip path)).map fun params => ⟨r.name, params⟩

/-- The first route of a name. -/
def named? (routes : List Route) (name : String) : Option Route := routes.find? (·.name = name)

end Stencil.Route
