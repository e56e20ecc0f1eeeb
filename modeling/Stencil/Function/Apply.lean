import Stencil.Function.Timestamp
import Stencil.Gravatar
import Stencil.Markdown.Html
import Stencil.Route.Address

/-!
# What functions do

The standard functions on their arguments. An argument is taken by place or by name.

A route may call functions itself, when an argument that fills a capture is one. Nothing bounds how
calls nest in this way: for the route `r` with the path `/{f}/{f('r', f=f)}`, the call
`url('r', f=url)` asks for itself and never comes back. So what calls inside routes yield is a
parameter of what functions do (`applyWith`), as what calls yield is a parameter of evaluation. It
is filled in where a program runs (`applyNested`), and nothing that is said of expressions, pages
and routes depends on what it is filled with.
-/

namespace Stencil

namespace Arguments

/-- The last keyword argument of a name. -/
def keyword? (args : Arguments) (name : String) : Option Value :=
  Bindings.get? name args.keywords

/-- The positional argument at a place, or else the keyword argument of a name. -/
def get? (args : Arguments) (place : Nat) (name : String) : Option Value :=
  (args.positional[place]?).or (args.keyword? name)

/-- An argument that must be given. -/
def require (args : Arguments) (place : Nat) (name : String) : Except CallFault Value :=
  match args.get? place name with
  | some v => .ok v
  | none => .error (.missing name)

end Arguments

namespace Function

/-- Whether a float is neither infinite nor not a number. -/
def isFinite (x : Float) : Bool := !x.isNaN && !x.isInf

/-- The least integer that is not below a number. -/
def applyCeil (args : Arguments) : Except CallFault Value := do
  match ← args.require 0 "x" with
  | .int n => return .int n
  | .float x =>
    if isFinite x then return .int x.ceil.toInt64 else throw (.notNumber .float)
  | v => throw (.notNumber v.kind)

/-- The number of characters of a string, or of the parts of a collection. -/
def applyLen (args : Arguments) : Except CallFault Value := do
  let count (n : Nat) : Value := .int (Int64.ofNat n)
  match ← args.require 0 "x" with
  | .str s => return count s.length
  | .list _ items => return count items.length
  | .set _ items => return count items.length
  | .record _ fields => return count fields.length
  | v => throw (.noLength v.kind)

/-- The page text of a marked-up text; nothing for the absent value. -/
def applyMarkdown (args : Arguments) : Except CallFault Value :=
  match (args.get? 0 "text").getD .null with
  | .null => .ok (.str "")
  | .str s => .ok (.str (Markdown.toHtml s))
  | v => .error (.notString v.kind)

/-- The address of a picture. -/
def applyGravatar (args : Arguments) : Except CallFault Value := do
  let some email := (← args.require 0 "email").text? | throw .emailNotString
  match args.get? 1 "size" with
  | none => return .str (Gravatar.address email Gravatar.defaultSize)
  | some .null => return .str (Gravatar.address email Gravatar.defaultSize)
  | some v =>
    let some size := v.integer? | throw .sizeNotInteger
    return .str (Gravatar.address email size)

/-- A date. An empty pattern, or one that is no string, counts as not given. -/
def applyFtime (zone : Int) (pattern : String) (args : Arguments) : Except CallFault Value := do
  let seconds : Int ←
    match ← args.require 0 "time" with
    | .int n => pure n.toInt
    | .float x =>
      if isFinite x then pure x.floor.toInt64.toInt else throw (.notTimestamp .float)
    | v => throw (.notTimestamp v.kind)
  let pattern :=
    match args.get? 1 "format" with
    | some (.str s) => if s = "" then pattern else s
    | _ => pattern
  return .str (← Calendar.timestampText seconds zone pattern)

/-- The arguments of a call as a value. -/
def applyEcho (site : Site) (args : Arguments) : Value :=
  .list (.made (0 :: site))
    [.list (.made (1 :: site)) args.positional, .record (.made (2 :: site)) args.keywords]

/-- The address of a route, or the absent value if there is no such route. The keyword `route`
never fills a capture. -/
def applyUrl (routes : List Route) (apply : Application) (site : Site) (args : Arguments) :
    Except CallFault Value := do
  let some name := (← args.require 0 "route").text? | throw .routeNotString
  let keywords := args.keywords.filter fun (key, _) => key != "route"
  match Route.addressWith? apply site routes name keywords with
  | some address => return .str address
  | none => return .null

/-- What calling a function yields, when calls inside routes are `apply`. -/
def applyWith (apply : Application) : Application := fun f site args =>
  let outcome : Except CallFault Value :=
    match f with
    | ceil => applyCeil args
    | len => applyLen args
    | markdown => applyMarkdown args
    | gravatar => applyGravatar args
    | url routes => applyUrl routes apply site args
    | ftime zone pattern => applyFtime zone pattern args
    | echo => .ok (applyEcho site args)
    | failing _ message => .error (.refused message)
  match outcome with
  | .ok v => .ok v
  | .error fault => .error (.call f.name fault)

/-- What calls inside routes yield, when a program runs. A call that asks for itself has no end, and
then neither has this. -/
partial def applyNested (f : Function) (site : Site) (args : Arguments) : Except EvalError Value :=
  applyWith applyNested f site args

/-- What calling a function yields, when a program runs. -/
def apply : Application := applyWith applyNested

end Function

/-- The value of the expression that a text is written for. -/
def Expr.evaluate (ctx : Context) (site : Site) (text : String) : Except EvalError Value :=
  evaluateWith Function.apply ctx site text

/-- The value of an expression, absent on an error. -/
def Expr.softly (ctx : Context) (site : Site) (text : String) : Soft :=
  softlyWith Function.apply ctx site text

/-- The values of segments in a row. -/
def Segment.values (ctx : Context) (site : Site) (segments : List Segment) : List Value :=
  valuesWith Function.apply ctx site segments

/-- The value of a text with expressions in it. -/
def Segment.interpolate (ctx : Context) (site : Site) (text : String) : Value :=
  interpolateWith Function.apply ctx site text

/-- The address of a template for the given arguments, made at a site. -/
def Route.Template.address (site : Site) (t : Template) (args : Bindings Value) : String :=
  t.addressWith Function.applyNested site args

/-- The address of the first route of a name, made at a site. -/
def Route.address? (site : Site) (routes : List Route) (name : String) (args : Bindings Value) :
    Option String :=
  addressWith? Function.applyNested site routes name args

end Stencil
