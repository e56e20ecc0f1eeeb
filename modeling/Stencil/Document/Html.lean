import Stencil.Document.Basic

/-!
# Written documents

The trees that a document holds, and the written form of a node where it stands.
-/

namespace Stencil.Document

/-- The trees of nodes, down to a depth of `fuel`. The document itself counts as an element
without a name. -/
def treesWithin (d : Document) : (fuel : Nat) → List Nat → List Tree
  | 0, _ => []
  | fuel + 1, ns =>
    ns.map fun n =>
      let node := d.node n
      match node.kind with
      | .text content => .text content
      | .element tag attributes => .element tag attributes (d.treesWithin fuel node.children)
      | .document => .element "" [] (d.treesWithin fuel node.children)

/-- The trees below a node. -/
def below (d : Document) (n : Nat) : List Tree := d.treesWithin d.size (d.node n).children

/-- The trees of a page. -/
def trees (d : Document) : List Tree := d.below root

/-- Whether an element around the node is preformatted. -/
def inPreformatted (d : Document) (n : Nat) : Bool :=
  (d.lineage n).tail.any fun a => (d.tag? a).any isPreformatted

/-- Where a node stands. -/
def place (d : Document) (n : Nat) : Tree.Place :=
  let node := d.node n
  { preformatted := d.inPreformatted n
    top := node.parent.any fun p => (d.node p).kind == .document
    before := node.previous.isSome
    after := node.next.isSome }

/-- The written form of a text; nothing for other nodes. -/
def textContent (d : Document) (n : Nat) : String :=
  match (d.node n).kind with
  | .text content => String.ofList (Tree.settle (d.place n) content.toList)
  | _ => ""

/-- The written form of what is inside a node. -/
def innerHtml (d : Document) (n : Nat) : String :=
  match (d.node n).kind with
  | .text _ => d.textContent n
  | .document => Tree.pageHtml (d.below n)
  | .element tag _ =>
    Tree.forestHtml (d.inPreformatted n || isPreformatted tag) false false (d.below n)

/-- The written form of a node. -/
def outerHtml (d : Document) (n : Nat) : String :=
  match (d.node n).kind with
  | .text _ => d.textContent n
  | .document => d.innerHtml n
  | .element tag attributes =>
    let start := Tree.startTag (d.place n) tag attributes
    if isVoid tag then start else start ++ d.innerHtml n ++ "</" ++ tag ++ ">"

/-- The written form of the document. -/
def html (d : Document) : String := d.innerHtml root

end Stencil.Document
