import Stencil.Value.Basic
import Stencil.Decimal.Layout
import Stencil.Text.Quoted

/-!
# The text of a value

How a value is written into a page. The absent value is written as nothing by itself and as
`None` inside a collection, where strings are quoted.
-/

namespace Stencil.Value

mutual

/-- The text of a value inside a collection. -/
def innerText : Value → String
  | null => "None"
  | bool b => if b then "True" else "False"
  | int n => Decimal.integer n.toInt
  | float x => Decimal.page x
  | str s => Text.Quoted.encode s
  | list _ items => "[" ++ ", ".intercalate (itemTexts items) ++ "]"
  | set _ items => "[" ++ ", ".intercalate (itemTexts items) ++ "]"
  | record _ fields => "\x7b" ++ ", ".intercalate (fieldTexts fields) ++ "\x7d"
  | callable _ f => "<callable " ++ f.name ++ ">"

/-- The texts of the items of a collection. -/
def itemTexts : List Value → List String
  | [] => []
  | v :: vs => innerText v :: itemTexts vs

/-- The texts of the fields of a record. -/
def fieldTexts : List (String × Value) → List String
  | [] => []
  | (n, v) :: fs => (n ++ ": " ++ innerText v) :: fieldTexts fs

end

/-- The text of a value by itself. -/
def text : Value → String
  | null => ""
  | str s => s
  | v => innerText v

/-- What several values in a row amount to. A single value stays as it is; more are written one
after the other. -/
def join : List Value → Value
  | [] => null
  | [v] => v
  | vs => str (String.join (vs.map text))

end Stencil.Value
