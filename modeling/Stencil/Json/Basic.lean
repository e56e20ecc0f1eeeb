/-!
# JSON documents
-/

namespace Stencil

/-- JSON documents. Whole numbers that fit 64 bits with a sign are kept apart from the others. The
members of an object stand in the order of their names, each name once. -/
inductive Json where
  | null
  | bool (b : Bool)
  | int (n : Int64)
  | float (x : Float)
  | str (s : String)
  | array (items : List Json)
  | object (members : List (String × Json))
deriving Inhabited, Repr

namespace Json

/-- Puts a member in its place; a name that is there already gets the new content. -/
def insert {α : Type} (name : String) (content : α) : List (String × α) → List (String × α)
  | [] => [(name, content)]
  | (n, c) :: members =>
    if name < n then (name, content) :: (n, c) :: members
    else if name = n then (name, content) :: members
    else (n, c) :: insert name content members

/-- The members of the given names and contents; of equal names the last one counts. -/
def ofMembers {α : Type} (members : List (String × α)) : List (String × α) :=
  members.foldl (fun sorted (name, content) => insert name content sorted) []

end Json

end Stencil
