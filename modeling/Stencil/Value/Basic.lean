import Stencil.Binding
import Stencil.Route.Template

/-!
# Values

What an expression can yield and a name can be bound to.

Lists, sets, records and callables are objects: two of them may hold the same and still be
different ones. Every object therefore carries an identity. An identity says where the object came
from, so that evaluation needs no store of objects: the place in the inputs that holds it, the name
of a function that is always there, or the place in the program that made it.
-/

namespace Stencil

/-- A place in the course of an evaluation, the innermost step first. -/
abbrev Site := List Nat

/-- Where an object came from. Two objects are the same one iff their identities are equal. -/
inductive Identity where
  /-- The inputs hold it, at this place. -/
  | given (place : List Nat)
  /-- It is the standard function of this name. -/
  | standard (name : String)
  /-- Evaluation made it, at this place. -/
  | made (site : Site)
deriving DecidableEq, Repr

/-- The functions that a template can be given: the standard ones, and two that stand for functions
which whoever asks for a page may give it. -/
inductive Function where
  | ceil
  | len
  | markdown
  | gravatar
  /-- Addresses of these routes. -/
  | url (routes : List Route)
  /-- Dates of a zone, given in minutes behind the prime meridian, with a default pattern. -/
  | ftime (zone : Int) (pattern : String)
  /-- Gives its arguments back. It stands for functions of others that succeed, and shows what was
  handed to them. -/
  | echo
  /-- Refuses every call. It stands for functions of others that fail, with a name and a message of
  their own. -/
  | failing (name message : String)
deriving Repr

/-- The name a function goes by. -/
def Function.name : Function → String
  | ceil => "ceil"
  | len => "len"
  | markdown => "markdown"
  | gravatar => "gravatar"
  | url _ => "url"
  | ftime _ _ => "ftime"
  | echo => "echo"
  | failing name _ => name

/-- Dynamic values. -/
inductive Value where
  | null
  | bool (b : Bool)
  | int (n : Int64)
  | float (x : Float)
  | str (s : String)
  | list (id : Identity) (items : List Value)
  /-- Items without repetitions, in order of insertion. -/
  | set (id : Identity) (items : List Value)
  | record (id : Identity) (fields : List (String × Value))
  | callable (id : Identity) (function : Function)
deriving Inhabited, Repr

/-- The kinds of values. -/
inductive Value.Kind where
  | null
  | bool
  | int
  | float
  | str
  | list
  | set
  | record
  | callable
deriving DecidableEq, Repr

/-- The name of a kind in messages. -/
def Value.Kind.name : Kind → String
  | null => "null"
  | bool => "bool"
  | int => "int"
  | float => "float"
  | str => "str"
  | list => "list"
  | set => "set"
  | record => "record"
  | callable => "callable"

namespace Value

/-- The kind of a value. -/
def kind : Value → Kind
  | null => .null
  | bool _ => .bool
  | int _ => .int
  | float _ => .float
  | str _ => .str
  | list _ _ => .list
  | set _ _ => .set
  | record _ _ => .record
  | callable _ _ => .callable

/-- Whether the value is the absent one. -/
def isNull : Value → Bool
  | null => true
  | _ => false

/-- Whether a condition on the value holds. Zeros and empty things are false. -/
def truthy : Value → Bool
  | null => false
  | bool b => b
  | int n => n != 0
  | float x => x != 0.0
  | str s => s != ""
  | list _ items => !items.isEmpty
  | set _ items => !items.isEmpty
  | record _ fields => !fields.isEmpty
  | callable _ _ => true

/-- The text of a string. -/
def text? : Value → Option String
  | str s => some s
  | _ => none

/-- The float nearest to an integer; of two equally near ones, the one whose last bit is zero. -/
def rounded (n : Int64) : Float := .ofModel (.ofInt64 n)

/-- The value as a float, where a truth value counts as zero or one. -/
def float? : Value → Option Float
  | int n => some (rounded n)
  | float x => some x
  | bool b => some (if b then 1.0 else 0.0)
  | _ => none

/-- The value as an integer, where a truth value counts as zero or one. -/
def integer? : Value → Option Int64
  | int n => some n
  | bool b => some (if b then 1 else 0)
  | _ => none

/-- The items of a list or a set. -/
def items? : Value → Option (List Value)
  | list _ items => some items
  | set _ items => some items
  | _ => none

/-- The fields of a record; other values have none. -/
def fields : Value → Bindings Value
  | record _ fields => fields
  | _ => []

/-- The last field of a name. -/
def field? (name : String) (v : Value) : Option Value := Bindings.get? name v.fields

end Value

end Stencil
