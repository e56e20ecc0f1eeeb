import Stencil.Json.Basic
import Stencil.Value.Basic

/-!
# Values from JSON

The value that a document stands for. The objects in it are named by their places.
-/

namespace Stencil.Value

mutual

/-- The value of a document at a place of the inputs. -/
def ofJson (place : List Nat) : Json → Value
  | .null => null
  | .bool b => bool b
  | .int n => int n
  | .float x => float x
  | .str s => str s
  | .array items => list (.given place) (ofItems (0 :: place) items)
  | .object members => record (.given place) (ofMembers (0 :: place) members)

/-- The values of items at a place. -/
def ofItems (place : List Nat) : List Json → List Value
  | [] => []
  | j :: js => ofJson (0 :: place) j :: ofItems (1 :: place) js

/-- The values of members at a place. -/
def ofMembers (place : List Nat) : List (String × Json) → List (String × Value)
  | [] => []
  | (name, j) :: ms => (name, ofJson (0 :: place) j) :: ofMembers (1 :: place) ms

end

end Stencil.Value
