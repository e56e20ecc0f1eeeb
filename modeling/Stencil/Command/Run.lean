import Stencil.Command.Invocation
import Stencil.Json.Printer
import Stencil.Json.Reader
import Stencil.Page.Render
import Stencil.Route.OfYaml
import Stencil.Settings
import Stencil.Value.OfJson

/-!
# Carrying out commands

A command depends on the files and on the variables of the environment, and writes a text or fails.
A failure names what was being done first and its causes after that. What calls inside routes yield
is a parameter.
-/

namespace Stencil.Command

/-- Why a command fails. -/
inductive Failure where
  | unreadableRoutes (path : String) (e : FileError)
  | badRoutes (path : String)
  | unreadableContext (path : String) (e : FileError)
  | badContext (path : String)
  /-- The context is a document, but no object. -/
  | noObject (path : String)
  /-- The directory of the templates cannot be watched. -/
  | unwatchable
  | noMatch (path : String)
  | unknownRoute (name : String)
  | noValue (parameter : String)
  | noKey (parameter : String)
  | template (name : String) (e : TemplateError)
deriving DecidableEq, Repr

/-- The failure in words, followed by its causes. -/
def Failure.chain : Failure → List String
  | unreadableRoutes path e =>
    ["Failed to load routes from " ++ path,
      "failed to read routes " ++ path ++ ": " ++ e.message, e.message]
  | badRoutes path => ["Failed to load routes from " ++ path, "invalid route table"]
  | unreadableContext path e => ["Failed to read context " ++ path, e.message]
  | badContext path => ["Invalid JSON in " ++ path]
  | noObject path => ["context " ++ path ++ " must be a JSON object"]
  | unwatchable => ["Failed to start template watcher"]
  | noMatch path => ["no route matches '" ++ path ++ "'"]
  | unknownRoute name => ["unknown route '" ++ name ++ "'"]
  | noValue parameter => ["parameter '" ++ parameter ++ "' must be key=value"]
  | noKey parameter => ["parameter '" ++ parameter ++ "' has an empty key"]
  | template name e =>
    ["Failed to render template '" ++ name ++ "'", e.message]
      ++ (e.cause?.map FileError.message).toList

/-- The routes in a file. -/
def loadRoutes (files : FileSystem) (path : String) : Except Failure (List Route) :=
  match files.read path with
  | .error e => .error (.unreadableRoutes path e)
  | .ok text =>
    match Route.parseFile? text with
    | some routes => .ok routes
    | none => .error (.badRoutes path)

/-- The members of the object in a file, as bindings. -/
def loadBindings (files : FileSystem) (path : String) : Except Failure (Bindings Value) :=
  match files.read path with
  | .error e => .error (.unreadableContext path e)
  | .ok text =>
    match Json.parse? text with
    | none => .error (.badContext path)
    | some (.object members) => .ok (Value.ofMembers [] members)
    | some _ => .error (.noObject path)

/-- The name and the value of a parameter, around its first sign of equality. -/
def readParameter (parameter : String) : Except Failure (String × Value) :=
  match Text.splitAtFirst? ['='] parameter.toList with
  | none => .error (.noValue parameter)
  | some ([], _) => .error (.noKey parameter)
  | some (key, value) => .ok (String.ofList key, .str (String.ofList value))

/-- The request for a path, or the one without a path. -/
def requestFor (routes : List Route) (zone : Int) (path : Option String) :
    Except Failure Request :=
  match path with
  | none => .ok { Request.none with zone := zone }
  | some path =>
    match Route.hit? routes path with
    | some hit => .ok { Request.ofHit hit with zone := zone }
    | none => .error (.noMatch path)

/-- Checks that the directory of the templates can be watched, if that is asked for. -/
def checkWatched (files : FileSystem) (settings : Settings) (directory : String) :
    Except Failure Unit :=
  match settings.watching, files.locate directory with
  | true, .error _ => .error .unwatchable
  | _, _ => .ok ()

/-- The route and the captures of a path, as a document. -/
def hitJson (hit : Route.Hit) : Json :=
  .object (Json.ofMembers
    [("route", .str hit.name),
      ("params",
        .object (Json.ofMembers (hit.params.map fun (name, value) => (name, .str value))))])

/-- What a command writes, when calls inside routes are `nested`. -/
def runWith (nested : Application) (files : FileSystem) (environment : Environment) :
    Invocation → Except Failure String
  | .render name templates context routesPath path zone => do
    let settings := Settings.ofEnvironment environment
    let routes ← (routesPath.map (loadRoutes files)).getD (.ok [])
    let bindings ← (context.map (loadBindings files)).getD (.ok [])
    let directory := templates.getD settings.directory
    checkWatched files settings directory
    let request ← requestFor routes zone path
    match ((Renderer.mk directory routes settings.pattern).renderWith (Function.applyWith nested)
        (.ofFiles files) name request bindings).2 with
    | .ok html => return html ++ "\n"
    | .error e => throw (.template name e)
  | .matchPath routesPath path => do
    let routes ← loadRoutes files routesPath
    match Route.hit? routes path with
    | some hit => return (hitJson hit).pretty 0 ++ "\n"
    | none => throw (.noMatch path)
  | .url routesPath name parameters => do
    let routes ← loadRoutes files routesPath
    let args ← parameters.mapM readParameter
    match Route.addressWith? nested [] routes name args with
    | some address => return address ++ "\n"
    | none => throw (.unknownRoute name)
  | .routes routesPath => do
    let routes ← loadRoutes files routesPath
    return String.join (routes.map fun r => r.name ++ "\t" ++ r.path ++ "\n")

/-- What a command writes. -/
def run (files : FileSystem) (environment : Environment) (invocation : Invocation) :
    Except Failure String :=
  runWith Function.applyNested files environment invocation

end Stencil.Command
