import Stencil.Page.Expand

/-!
# Making pages

A page is made from a template of a directory, the state of the request and further bindings. The
standard functions are always there unless something hides them. What calls yield is a parameter
here, too.
-/

namespace Stencil

/-- What a page may depend on besides its bindings. -/
structure Request where
  /-- Who asks, absent if nobody knows. -/
  user : Value
  /-- The name of the route. -/
  route : Option String
  /-- What the path captured. -/
  params : Bindings Value
  /-- Further bindings, which hide the others. -/
  computed : Bindings Value
  /-- The zone of the client, in minutes behind the prime meridian. -/
  zone : Int

/-- The request for a path that a route matched. -/
def Request.ofHit (hit : Route.Hit) : Request :=
  ⟨.null, some hit.name, hit.params.map fun (name, v) => (name, .str v), [], 0⟩

/-- The request that matched no route and captured nothing. -/
def Request.none : Request := ⟨.null, Option.none, [], [], 0⟩

/-- What makes pages: a directory of templates, the routes, and the default pattern of dates. -/
structure Renderer where
  directory : String
  routes : List Route
  pattern : String

namespace Renderer

/-- The standard functions. -/
def functions (r : Renderer) (zone : Int) : List Function :=
  [.ceil, .len, .markdown, .url r.routes, .ftime zone r.pattern, .gravatar]

/-- The names that every page sees. -/
def rootContext (r : Renderer) (request : Request) : Context :=
  let standard := (r.functions request.zone).map fun f =>
    (f.name, Value.callable (.standard f.name) f)
  Context.ofBindings (standard
    ++ [("user", request.user), ("active_route", (request.route.map .str).getD .null)]
    ++ request.params ++ request.computed)

/-- The page of a template in a context. -/
def renderIn (apply : Application) (r : Renderer) (s : Store) (name : String)
    (context : Context) : Store × Except TemplateError String :=
  match s.resolveIn r.directory name with
  | (s, .error e) => (s, .error e)
  | (s, .ok (source, loaded)) =>
    match (Page.expandWith apply source Document.root loaded.document.trees context).run
        ⟨s, .empty⟩ with
    | (.ok (), draft) => (draft.store, .ok draft.document.html)
    | (.error e, draft) => (draft.store, .error e)

/-- The page of a template for a request, where `bindings` hide what the request binds. -/
def renderWith (apply : Application) (r : Renderer) (s : Store) (name : String)
    (request : Request) (bindings : Bindings Value) : Store × Except TemplateError String :=
  r.renderIn apply s name ((r.rootContext request).extend bindings)

/-- The same with the functions as they are. -/
def render (r : Renderer) (s : Store) (name : String) (request : Request)
    (bindings : Bindings Value) : Store × Except TemplateError String :=
  r.renderWith Function.apply s name request bindings

end Renderer

end Stencil
