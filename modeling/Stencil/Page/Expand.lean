import Stencil.Function.Apply
import Stencil.Store.Cache

/-!
# Expanding templates

A template is walked from front to back, and what it stands for is written at the end of a node of
the page. Texts and attributes are interpolated. Four elements are not written themselves:

* `yes` stands for its inside if its value holds or it has none, `no` if its value does not hold;
* `for` stands for its inside once for each item of a list or a set;
* `include` stands for another template, which sees the other attributes as names.

A file that is missing, or includes that nest too deeply, end the page; the store keeps what was
read until then. What the calls in expressions yield is a parameter, which belongs to the scope.
-/

namespace Stencil.Page

/-- A page under construction and the store that its templates come from. -/
structure Draft where
  store : Store
  document : Document

/-- A step of making a page. What was done before an error stays done. -/
abbrev Expansion := ExceptT TemplateError (StateM Draft)

/-- Where in a template, and for whom, something is expanded. -/
structure Scope where
  /-- The file of the template. -/
  source : String
  /-- The names that expressions see. -/
  context : Context
  /-- What calls in expressions yield. -/
  apply : Application
  site : Site

/-- The scope of one part of what is expanded in a scope. -/
def Scope.sub (scope : Scope) (i : Nat) : Scope := { scope with site := i :: scope.site }

/-- Changes the page. -/
def write (f : Document → Document) : Expansion Unit :=
  modify fun draft => { draft with document := f draft.document }

/-- How the inside of an include is expanded: at the end of a node of the page, in a scope, with
the attributes of the element. -/
abbrev Inclusion := Nat → Scope → Attributes → Expansion Unit

/-- The attribute that holds the value of `yes`, `no`, `for` and `include`. -/
def valueName : String := "value"

namespace Scope

/-- The value of a text with expressions in it. -/
def interpolate (scope : Scope) (text : String) : Value :=
  Segment.interpolateWith scope.apply scope.context scope.site text

/-- The value of an element that is not written itself, if it is given. A string is the name of the
value. -/
def controlValue? (scope : Scope) (attributes : Attributes) : Option Value :=
  match attributes.lookup valueName with
  | some (some raw) =>
    if raw = "" then none
    else
      match scope.interpolate raw with
      | .str name => some ((scope.context.get? name).getD .null)
      | v => some v
  | _ => none

/-- Whether the value of an element holds; an element without a value counts as if it did. -/
def holds (scope : Scope) (attributes : Attributes) : Bool :=
  ((scope.controlValue? attributes).map Value.truthy).getD true

/-- An attribute of a written element, unless it is left out. Strings stay, a true value leaves
the name alone, other values that hold are written out. -/
def attributeOf (scope : Scope) (value : Option String) : Option (Option String) :=
  match value with
  | none => some none
  | some raw =>
    if raw = "" then some (some raw)
    else
      match scope.interpolate raw with
      | .str s => some (some s)
      | .bool true => some none
      | v => if v.truthy then some (some v.text) else none

/-- The attributes of a written element. -/
def attributesOf (scope : Scope) (attributes : Attributes) : Attributes :=
  (attributes.mapIdx fun i (name, value) => ((scope.sub i).attributeOf value).map ((name, ·)))
    |>.filterMap id

/-- What an item of a collection binds: its fields, its place, itself and the collection. -/
def itemBindings (collection : Value) (i : Nat) (item : Value) : Bindings Value :=
  item.fields
    ++ [("i", .int (Int64.ofNat i)), ("item", item), ("items", collection)]

/-- The scope of the inside of a `for` for one item. -/
def ofItem (scope : Scope) (collection : Value) (i : Nat) (item : Value) : Scope :=
  { scope.sub i with context := scope.context.extend (itemBindings collection i item) }

/-- The name of the template that an include asks for, if it is a string. -/
def includeName? (scope : Scope) (attributes : Attributes) : Option String :=
  match attributes.lookup valueName with
  | some (some raw) =>
    if raw = "" then none else (scope.interpolate raw).text?
  | _ => none

/-- What the other attributes of an include bind. -/
def overlay (scope : Scope) (attributes : Attributes) : Bindings Value :=
  (attributes.filter fun (name, _) => name ≠ valueName).mapIdx fun i (name, value) =>
    (name,
      match value with
      | none => .null
      | some raw =>
        if raw = "" then .str raw
        else (scope.sub i).interpolate raw)

/-- The scope of the inside of an include of a file. -/
def ofInclude (scope : Scope) (source : String) (attributes : Attributes) : Scope :=
  { scope.sub 2 with
    source
    context := scope.context.extend ((scope.sub 1).overlay attributes) }

end Scope

mutual

/-- Expands a node of a template at the end of a node of the page. -/
def expandTree (inclusion : Inclusion) (parent : Nat) (scope : Scope) : Tree → Expansion Unit
  | .text content =>
    let text := ((scope.sub 0).interpolate content).text
    write fun d => d.appendText parent text
  | .element tag attributes children =>
    if tag = "yes" then
      if (scope.sub 0).holds attributes then expandForest inclusion parent (scope.sub 1) children
      else pure ()
    else if tag = "no" then
      if (scope.sub 0).holds attributes then pure ()
      else expandForest inclusion parent (scope.sub 1) children
    else if tag = "for" then
      match (scope.sub 0).controlValue? attributes with
      | none => pure ()
      | some collection =>
        let items := (collection.items?.getD []).mapIdx fun i item => (i, item)
        items.forM fun (i, item) =>
          expandForest inclusion parent ((scope.sub 1).ofItem collection i item) children
    else if tag = "include" then inclusion parent scope attributes
    else do
      let (d, n) := (← get).document.add (.element tag [])
      let attributes := (scope.sub 0).attributesOf attributes
      write fun _ => attributes.foldl (fun d (name, value) => d.setAttribute n name value) d
      expandForest inclusion n (scope.sub 1) children
      write fun d => d.append parent n

/-- Expands siblings of a template at the end of a node of the page. -/
def expandForest (inclusion : Inclusion) (parent : Nat) (scope : Scope) :
    List Tree → Expansion Unit
  | [] => pure ()
  | t :: ts => do
    expandTree inclusion parent (scope.sub 0) t
    expandForest inclusion parent (scope.sub 1) ts

end

/-- Gets the template that a file asks for by name. -/
def fetch (source name : String) : Expansion (String × Loaded) := do
  let draft ← get
  let (store, result) := draft.store.resolve source name
  set { draft with store }
  result

/-- Expands an include when this many may still nest. -/
def includeWithin : (depth : Nat) → Inclusion
  | depth, parent, scope, attributes =>
    match (scope.sub 0).includeName? attributes with
    | none => pure ()
    | some name =>
      match depth with
      | 0 => throw (.includeDepth scope.source)
      | depth + 1 => do
        let (source, loaded) ← fetch scope.source name
        expandForest (includeWithin depth) parent (scope.ofInclude source attributes)
          loaded.document.trees

/-- How deeply includes may nest. -/
def maxDepth : Nat := 64

/-- Writes what a template stands for at the end of a node of the page. -/
def expandWith (apply : Application) (source : String) (parent : Nat) (template : List Tree)
    (context : Context) : Expansion Unit :=
  expandForest (includeWithin maxDepth) parent ⟨source, context, apply, []⟩ template

/-- The same with the functions as they are. -/
def expand (source : String) (parent : Nat) (template : List Tree) (context : Context) :
    Expansion Unit :=
  expandWith Function.apply source parent template context

end Stencil.Page
