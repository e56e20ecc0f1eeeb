import Stencil.Form
import Stencil.Interpolation
import Stencil.Route.Match

/-!
# Addresses

The address of a route for given arguments. Arguments that name a capture fill it; the others
follow as a query string. Absent arguments count as not given.
-/

namespace Stencil.Route

namespace Template

/-- The arguments that name a capture. -/
def known (t : Template) (args : Bindings Value) : Bindings Value :=
  args.filter fun (name, v) => !v.isNull && t.names.contains name

/-- The arguments that name no capture. -/
def extra (t : Template) (args : Bindings Value) : Bindings Value :=
  args.filter fun (name, v) => !v.isNull && !t.names.contains name

/-- The path with its captures filled. -/
def fillWith (apply : Application) (site : Site) (t : Template) (args : Bindings Value) : String :=
  (Value.join (Segment.valuesWith apply (Context.ofBindings (t.known args)) site t.segments)).text

/-- The query string of the other arguments, with its question mark. -/
def query (t : Template) (args : Bindings Value) : String :=
  let extra := t.extra args
  if extra.isEmpty then "" else "?" ++ Form.encode (extra.map fun (name, v) => (name, v.text))

/-- The address for the given arguments. -/
def addressWith (apply : Application) (site : Site) (t : Template) (args : Bindings Value) :
    String :=
  t.fillWith apply site args ++ t.query args

end Template

/-- The address of the first route of a name. -/
def addressWith? (apply : Application) (site : Site) (routes : List Route) (name : String)
    (args : Bindings Value) : Option String :=
  (named? routes name).map fun r => (Template.ofString r.path).addressWith apply site args

end Stencil.Route
