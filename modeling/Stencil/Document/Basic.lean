import Stencil.Document.Tree

/-!
# Documents

A page under construction. Nodes are numbered in order of creation, from the document itself, which
is number zero; a node may be attached somewhere or not. Each node knows its parent, its children
and its neighbours, and every operation keeps these in agreement.
-/

namespace Stencil

/-- What a node is. -/
inductive Node.Kind where
  | document
  | element (tag : String) (attributes : Attributes)
  | text (content : String)
deriving DecidableEq, Repr

/-- A node and its neighbourhood. -/
structure Node where
  kind : Node.Kind
  parent : Option Nat
  previous : Option Nat
  next : Option Nat
  children : List Nat
deriving DecidableEq, Repr

/-- A node that is not attached. -/
def Node.detached (kind : Kind) : Node := ⟨kind, none, none, none, []⟩

/-- Nodes by number. -/
structure Document where
  nodes : Array Node
deriving DecidableEq, Repr

namespace Document

/-- The number of the document itself. -/
def root : Nat := 0

/-- A document without content. -/
def empty : Document := ⟨#[.detached .document]⟩

/-- How many nodes there are, attached or not. -/
def size (d : Document) : Nat := d.nodes.size

/-- The node of a number; numbers that are not in use stand for an empty text. -/
def node (d : Document) (n : Nat) : Node := d.nodes.getD n (.detached (.text ""))

/-- Changes a node. -/
def modify (d : Document) (n : Nat) (f : Node → Node) : Document := ⟨d.nodes.modify n f⟩

/-- Adds a node, not attached, and gives its number. -/
def add (d : Document) (kind : Node.Kind) : Document × Nat :=
  (⟨d.nodes.push (.detached kind)⟩, d.nodes.size)

/-- Whether the node is a text. -/
def isText (d : Document) (n : Nat) : Bool :=
  match (d.node n).kind with
  | .text _ => true
  | _ => false

/-- The node, its parent, the parent of that and so on, at most `fuel` of them. -/
def chainUp (d : Document) : (fuel : Nat) → Nat → List Nat
  | 0, _ => []
  | fuel + 1, n =>
    match (d.node n).parent with
    | some p => n :: chainUp d fuel p
    | none => [n]

/-- The node and its ancestors, the nearest first. -/
def lineage (d : Document) (n : Nat) : List Nat := d.chainUp d.size n

/-- Takes the node out of the children of its parent. -/
def detach (d : Document) (n : Nat) : Document :=
  let node := d.node n
  match node.parent with
  | none => d
  | some p =>
    let d := d.modify n fun x => { x with parent := none, previous := none, next := none }
    let d :=
      match node.previous with
      | some b => d.modify b fun x => { x with next := node.next }
      | none => d
    let d :=
      match node.next with
      | some a => d.modify a fun x => { x with previous := node.previous }
      | none => d
    d.modify p fun x => { x with children := x.children.filter (· ≠ n) }

/-- Makes a node that is not attached the last child of another. -/
def attach (d : Document) (parent n : Nat) : Document :=
  let last := (d.node parent).children.getLast?
  let d :=
    match last with
    | some l => d.modify l fun x => { x with next := some n }
    | none => d
  let d := d.modify n fun x => { x with parent := some parent, previous := last, next := none }
  d.modify parent fun x => { x with children := x.children ++ [n] }

/-- Whether a node may become a child of another: not of a text, not the document, and nothing
that encloses the other. -/
def canAppend (d : Document) (parent n : Nat) : Bool :=
  !(d.isText parent || n == root || (d.lineage parent).contains n)

/-- Makes a node the last child of another, taking it away from where it was, if that may be. -/
def append? (d : Document) (parent n : Nat) : Option Document :=
  if d.canAppend parent n then some ((d.detach n).attach parent n) else none

/-- Makes a node the last child of another if that may be. -/
def append (d : Document) (parent n : Nat) : Document := (d.append? parent n).getD d

/-- The last child of a node, if it is a text. -/
def lastText? (d : Document) (n : Nat) : Option (Nat × String) :=
  match (d.node n).children.getLast? with
  | some l =>
    match (d.node l).kind with
    | .text content => some (l, content)
    | _ => none
  | none => none

/-- Writes text at the end of a node. It continues a text that is there. -/
def appendText (d : Document) (parent : Nat) (content : String) : Document :=
  if content = "" then d
  else
    match d.lastText? parent with
    | some (l, old) => d.modify l fun x => { x with kind := .text (old ++ content) }
    | none =>
      let (d, n) := d.add (.text content)
      d.append parent n

/-- The attributes with one set: in its place if it is there, at the end otherwise. -/
def put (name : String) (value : Option String) : Attributes → Attributes
  | [] => [(name, value)]
  | (n, v) :: rest => if n = name then (name, value) :: rest else (n, v) :: put name value rest

/-- Sets an attribute of an element; other nodes have none. -/
def setAttribute (d : Document) (n : Nat) (name : String) (value : Option String) : Document :=
  match (d.node n).kind with
  | .element tag attributes =>
    d.modify n fun x => { x with kind := .element tag (put name value attributes) }
  | _ => d

/-- The attribute of an element: whether it is there, and its value if it has one. -/
def attribute? (d : Document) (n : Nat) (name : String) : Option (Option String) :=
  match (d.node n).kind with
  | .element _ attributes => attributes.lookup name
  | _ => none

/-- The tag of an element. -/
def tag? (d : Document) (n : Nat) : Option String :=
  match (d.node n).kind with
  | .element tag _ => some tag
  | _ => none

/-- The content of a text. -/
def text? (d : Document) (n : Nat) : Option String :=
  match (d.node n).kind with
  | .text content => some content
  | _ => none

end Document

end Stencil
