import Stencil.Text.Blank

/-!
# Trees of a page

A page as a tree of elements and texts, and its written form.

How a text is written depends on where it stands. Runs of blanks become one space unless an
enclosing element is preformatted; a text with nothing before it loses its leading blanks, one
with nothing after it the trailing ones; a text that is blank by then is left out.
-/

namespace Stencil

/-- Attributes in order; some have no value. -/
abbrev Attributes := List (String × Option String)

/-- The node of a page with everything below it. -/
inductive Tree where
  | text (content : String)
  | element (tag : String) (attributes : Attributes) (children : List Tree)
deriving Inhabited, Repr

/-- Elements that never have anything inside. -/
def voidTags : List String :=
  ["area", "base", "br", "col", "command", "embed", "hr", "img", "input", "keygen", "link",
    "meta", "param", "source", "track", "wbr", "include"]

/-- Elements whose text keeps its blanks. -/
def preformattedTags : List String := ["pre", "textarea", "script", "style"]

/-- Whether elements of the tag never have anything inside. -/
def isVoid (tag : String) : Bool := voidTags.contains tag

/-- Whether elements of the tag keep the blanks of their text. -/
def isPreformatted (tag : String) : Bool := preformattedTags.contains tag

namespace Tree

/-- Every run of blanks becomes one space; `blank` tells whether the text before ended in one. -/
def collapse (blank : Bool) : List Char → List Char
  | [] => []
  | c :: cs =>
    if Text.isBlank c then if blank then collapse true cs else ' ' :: collapse true cs
    else c :: collapse false cs

/-- Where a node stands, as far as its written form depends on it. -/
structure Place where
  /-- An enclosing element is preformatted. -/
  preformatted : Bool
  /-- The node is directly below the document. -/
  top : Bool
  /-- A sibling goes before. -/
  before : Bool
  /-- A sibling comes after. -/
  after : Bool
deriving DecidableEq, Repr

/-- The written form of a text. -/
def settle (place : Place) (raw : List Char) : List Char :=
  let cs := if place.preformatted then raw else collapse false raw
  let cs := if place.before then cs else Text.trimStart cs
  let cs := if place.after then cs else Text.trimEnd cs
  if cs.all Text.isBlank then [] else cs

/-- The written form of an attribute. Outer blanks of a value are dropped, and a value that is
empty by then is left out. -/
def attributeText (name : String) (value : Option String) : String :=
  match value.map Text.trimmed with
  | some v => if v = "" then " " ++ name else " " ++ name ++ "=\"" ++ v ++ "\""
  | none => " " ++ name

/-- The start tag of an element. -/
def startTag (place : Place) (tag : String) (attributes : Attributes) : String :=
  (if tag = "html" ∧ place.top then "<!DOCTYPE html>" else "") ++ "<" ++ tag
    ++ String.join (attributes.map fun (name, value) => attributeText name value) ++ ">"

mutual

/-- The written form of a node. -/
def html (place : Place) : Tree → String
  | text content => String.ofList (settle place content.toList)
  | element tag attributes children =>
    if isVoid tag then startTag place tag attributes
    else
      startTag place tag attributes
        ++ forestHtml (place.preformatted || isPreformatted tag) false false children
        ++ "</" ++ tag ++ ">"

/-- The written form of siblings, where `before` tells whether there are more in front. -/
def forestHtml (preformatted top before : Bool) : List Tree → String
  | [] => ""
  | t :: ts =>
    t.html ⟨preformatted, top, before, !ts.isEmpty⟩ ++ forestHtml preformatted top true ts

end

/-- The written form of a page. -/
def pageHtml (page : List Tree) : String := forestHtml false true false page

mutual

/-- The number of nodes of a tree. -/
def size : Tree → Nat
  | text _ => 1
  | element _ _ children => forestSize children + 1

/-- The number of nodes of trees. -/
def forestSize : List Tree → Nat
  | [] => 0
  | t :: ts => t.size + forestSize ts

end

end Tree

end Stencil
