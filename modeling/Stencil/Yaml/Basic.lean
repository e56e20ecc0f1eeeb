/-!
# YAML documents

Sequences, mappings and scalars. A node that carries an anchor may stand for itself a second time
elsewhere; such an alias refers to a number that the document keeps for its anchored nodes.
-/

namespace Stencil

/-- The nodes of YAML documents. A scalar keeps its text and whether it stands without quotes; what
its tag says about the text is not kept. -/
inductive Yaml where
  | scalar (text : String) (plain : Bool)
  | sequence (items : List Yaml)
  | mapping (entries : List (Yaml × Yaml))
  | alias (number : Nat)
deriving Inhabited, Repr

namespace Yaml

/-- What stands where nothing is written. -/
def nothing : Yaml := scalar "" true

/-- A document: its root, and its anchored nodes by number. -/
structure Document where
  root : Yaml
  anchored : List (Nat × Yaml)

/-- The document of a text that holds none. -/
def Document.empty : Document := ⟨nothing, []⟩

/-- The node that a node stands for: an alias stands for an anchored one. -/
def Document.target (d : Document) : Yaml → Yaml
  | .alias number => (d.anchored.lookup number).getD nothing
  | node => node

/-- The text of a scalar. -/
def text? : Yaml → Option String
  | scalar text _ => some text
  | _ => none

end Yaml

end Stencil
