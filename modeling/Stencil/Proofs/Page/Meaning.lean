import Stencil.Page.Expand

/-!
# What templates stand for

The meaning of a template, without a page that is written to and without a store that changes: a
list of trees, or the first error from front to back. Texts are not joined here. What a text next to
another one becomes is a matter of where the trees are put.
-/

namespace Stencil.Page

/-- The trees that something stands for. -/
abbrev Meaning := Except TemplateError (List Tree)

/-- The trees of one thing after the other. -/
def Meaning.concat : List Meaning → Meaning
  | [] => .ok []
  | m :: ms => do
    let ts ← m
    return ts ++ (← concat ms)

/-- What a file finds under a name: another file and its trees. -/
abbrev Library := String → String → Except TemplateError (String × List Tree)

/-- Attributes that are set one after the other. Of several with one name the last one counts, in
the place of the first. -/
def merged (attributes : Attributes) : Attributes :=
  attributes.foldl (fun before (name, value) => Document.put name value before) []

mutual

/-- What a node of a template stands for, where `inside` tells what includes do. -/
def meaningOf (inside : Scope → Attributes → Meaning) (scope : Scope) : Tree → Meaning
  | .text content =>
    .ok [.text ((scope.sub 0).interpolate content).text]
  | .element tag attributes children =>
    if tag = "yes" then
      if (scope.sub 0).holds attributes then meaningOfAll inside (scope.sub 1) children else .ok []
    else if tag = "no" then
      if (scope.sub 0).holds attributes then .ok [] else meaningOfAll inside (scope.sub 1) children
    else if tag = "for" then
      match (scope.sub 0).controlValue? attributes with
      | none => .ok []
      | some collection =>
        .concat <| (collection.items?.getD []).mapIdx fun i item =>
          meaningOfAll inside ((scope.sub 1).ofItem collection i item) children
    else if tag = "include" then inside scope attributes
    else do
      let ts ← meaningOfAll inside (scope.sub 1) children
      return [.element tag (merged ((scope.sub 0).attributesOf attributes)) ts]

/-- What siblings of a template stand for. -/
def meaningOfAll (inside : Scope → Attributes → Meaning) (scope : Scope) : List Tree → Meaning
  | [] => .ok []
  | t :: ts => do
    let first ← meaningOf inside (scope.sub 0) t
    return first ++ (← meaningOfAll inside (scope.sub 1) ts)

end

/-- What an include stands for when this many may still nest. -/
def meaningOfInclude (library : Library) : (depth : Nat) → Scope → Attributes → Meaning
  | depth, scope, attributes =>
    match (scope.sub 0).includeName? attributes with
    | none => .ok []
    | some name =>
      match depth with
      | 0 => .error (.includeDepth scope.source)
      | depth + 1 => do
        let (source, ts) ← library scope.source name
        meaningOfAll (meaningOfInclude library depth) (scope.ofInclude source attributes) ts

/-- What the template of a file stands for in a context. -/
def meaning (apply : Application) (library : Library) (source : String) (context : Context)
    (template : List Tree) : Meaning :=
  meaningOfAll (meaningOfInclude library maxDepth) ⟨source, context, apply, []⟩ template

end Stencil.Page
