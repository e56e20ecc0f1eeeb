import Stencil.Yaml.Basic
import Stencil.Yaml.Lexer

/-!
# Reading YAML

A document is read off the front of the tokens. Where a part of a sequence or of a mapping is left
out, an empty scalar stands for it. A text holds one document at most.
-/

namespace Stencil.Yaml

/-- Where a node stands: within brackets, in a block, or as a part of an entry in a block mapping,
where the items of a sequence need no further indentation. -/
inductive Position where
  | flow
  | block
  | entry
deriving DecidableEq

/-- What may stand in front of a node. -/
structure Properties where
  anchor : Option String
  handle : Option String

/-- The properties that come first, each at most once, and the tokens behind them. -/
def Properties.take : List Token → Properties × List Token
  | .anchor name :: .tag handle :: ts => (⟨some name, some handle⟩, ts)
  | .tag handle :: .anchor name :: ts => (⟨some name, some handle⟩, ts)
  | .anchor name :: ts => (⟨some name, none⟩, ts)
  | .tag handle :: ts => (⟨none, some handle⟩, ts)
  | ts => (⟨none, none⟩, ts)

/-- Whether there are none. -/
def Properties.isEmpty (p : Properties) : Bool := p.anchor.isNone && p.handle.isNone

/-- What is left of the tokens, and what is known of the document: the handles that are declared,
the number of each anchor's name, and the anchored nodes in the order in which they start. -/
structure Reader where
  tokens : List Token
  handles : List String
  names : List (String × Nat)
  anchored : List (Nat × Yaml)

namespace Reader

/-- The reader with other tokens left. -/
def withTokens (ts : List Token) (r : Reader) : Reader := { r with tokens := ts }

/-- Whether the token that comes first is one of these. -/
def startsWith (ts : List Token) (r : Reader) : Bool :=
  (r.tokens.head?.map ts.contains).getD false

/-- Whether the handle of a tag is declared. An empty one needs not be. -/
def knows (handle : String) (r : Reader) : Bool := handle.isEmpty || r.handles.contains handle

/-- Begins an anchored node. It has the number of names so far, and is filled in when it ends. -/
def beginAnchored (name : String) (r : Reader) : Reader :=
  let number := r.names.length
  { r with
    names := (name, number) :: r.names.filter (·.1 != name)
    anchored := r.anchored ++ [(number, nothing)] }

/-- Ends the anchored node that was the first one after `before` others. -/
def endAnchored (before : Nat) (node : Yaml) (r : Reader) : Reader :=
  { r with anchored := r.anchored.modify before fun (number, _) => (number, node) }

/-- The tokens of the next item within brackets, behind a comma unless it is the first one, or the
closing bracket with what is behind it. -/
def passComma? (close : Token) (first : Bool) : List Token → Option (List Token)
  | [] => none
  | t :: ts =>
    if first || t = close then some (t :: ts) else if t = .flowEntry then some ts else none

/-! ## Nodes -/

mutual

/-- Reads a node with what may stand in front of it. -/
def node? : (fuel : Nat) → Position → Reader → Option (Yaml × Reader)
  | 0, _, _ => none
  | fuel + 1, position, r =>
    match r.tokens with
    | .alias name :: ts =>
      (r.names.lookup name).map fun number => (.alias number, r.withTokens ts)
    | ts => do
      let (properties, ts) := Properties.take ts
      if !((properties.handle.map r.knows).getD true) then none
      let r := r.withTokens ts
      match properties.anchor with
      | none => content? fuel position properties.isEmpty r
      | some name =>
        let (node, next) ← content? fuel position false (r.beginAnchored name)
        return (node, next.endAnchored r.anchored.length node)

/-- Reads a node without what may stand in front of it. Only behind that it may be empty. -/
def content? : (fuel : Nat) → Position → (bare : Bool) → Reader → Option (Yaml × Reader)
  | 0, _, _, _ => none
  | fuel + 1, position, bare, r =>
    match r.tokens, position with
    | .scalar text plain :: ts, _ => some (.scalar text plain, r.withTokens ts)
    | .flowSequenceStart :: ts, _ => flowItems? fuel true [] (r.withTokens ts)
    | .flowMappingStart :: ts, _ => flowEntries? fuel true [] (r.withTokens ts)
    | .blockEntry :: _, .entry => indentlessItems? fuel [] r
    | .blockSequenceStart :: ts, .block | .blockSequenceStart :: ts, .entry =>
      items? fuel [] (r.withTokens ts)
    | .blockMappingStart :: ts, .block | .blockMappingStart :: ts, .entry =>
      entries? fuel [] (r.withTokens ts)
    | _, _ => if bare then none else some (nothing, r)

/-- Reads a node that is left out if one of the tokens `ends` comes first. -/
def part? : (fuel : Nat) → Position → (ends : List Token) → Reader → Option (Yaml × Reader)
  | 0, _, _, _ => none
  | fuel + 1, position, ends, r =>
    if r.startsWith ends then some (nothing, r) else node? fuel position r

/-- Reads the value of an entry, which is left out together with its colon or alone. -/
def value? : (fuel : Nat) → Position → (ends : List Token) → Reader → Option (Yaml × Reader)
  | 0, _, _, _ => none
  | fuel + 1, position, ends, r =>
    match r.tokens with
    | .value :: ts => part? fuel position ends (r.withTokens ts)
    | _ => some (nothing, r)

/-- Reads the further items of a block sequence, whose first ones are `items` in reverse. -/
def items? : (fuel : Nat) → (items : List Yaml) → Reader → Option (Yaml × Reader)
  | 0, _, _ => none
  | fuel + 1, items, r =>
    match r.tokens with
    | .blockEntry :: ts =>
      (part? fuel .block [.blockEntry, .blockEnd] (r.withTokens ts)).bind fun (item, r) =>
        items? fuel (item :: items) r
    | .blockEnd :: ts => some (.sequence items.reverse, r.withTokens ts)
    | _ => none

/-- Reads the further items of a sequence that is not indented in the mapping around it. -/
def indentlessItems? : (fuel : Nat) → (items : List Yaml) → Reader → Option (Yaml × Reader)
  | 0, _, _ => none
  | fuel + 1, items, r =>
    match r.tokens with
    | .blockEntry :: ts =>
      (part? fuel .block [.blockEntry, .key, .value, .blockEnd] (r.withTokens ts)).bind
        fun (item, r) => indentlessItems? fuel (item :: items) r
    | _ => some (.sequence items.reverse, r)

/-- Reads the further entries of a block mapping, whose first ones are `entries` in reverse. -/
def entries? : (fuel : Nat) → (entries : List (Yaml × Yaml)) → Reader → Option (Yaml × Reader)
  | 0, _, _ => none
  | fuel + 1, entries, r =>
    match r.tokens with
    | .key :: ts => do
      let ends := [.key, .value, .blockEnd]
      let (key, r) ← part? fuel .entry ends (r.withTokens ts)
      let (value, r) ← value? fuel .entry ends r
      entries? fuel ((key, value) :: entries) r
    | .blockEnd :: ts => some (.mapping entries.reverse, r.withTokens ts)
    | _ => none

/-- Reads the further items of a sequence within brackets. An entry stands for a mapping of its own;
where its key is left out behind a question mark, so is the token that follows. -/
def flowItems? : (fuel : Nat) → (first : Bool) → (items : List Yaml) → Reader →
    Option (Yaml × Reader)
  | 0, _, _, _ => none
  | fuel + 1, first, items, r =>
    (passComma? .flowSequenceEnd first r.tokens).bind fun
      | .flowSequenceEnd :: ts => some (.sequence items.reverse, r.withTokens ts)
      | .key :: ts => do
        let r := r.withTokens ts
        let (key, r) ←
          if r.startsWith [.value, .flowEntry, .flowSequenceEnd] then
            some (nothing, r.withTokens ts.tail)
          else node? fuel .flow r
        let (value, r) ← value? fuel .flow [.flowEntry, .flowSequenceEnd] r
        flowItems? fuel false (.mapping [(key, value)] :: items) r
      | ts => do
        let (item, r) ← node? fuel .flow (r.withTokens ts)
        flowItems? fuel false (item :: items) r

/-- Reads the further entries of a mapping within brackets. A node that is no key has no value. -/
def flowEntries? : (fuel : Nat) → (first : Bool) → (entries : List (Yaml × Yaml)) → Reader →
    Option (Yaml × Reader)
  | 0, _, _, _ => none
  | fuel + 1, first, entries, r =>
    (passComma? .flowMappingEnd first r.tokens).bind fun
      | .flowMappingEnd :: ts => some (.mapping entries.reverse, r.withTokens ts)
      | .key :: ts => do
        let (key, r) ← part? fuel .flow [.value, .flowEntry, .flowMappingEnd] (r.withTokens ts)
        let (value, r) ← value? fuel .flow [.flowEntry, .flowMappingEnd] r
        flowEntries? fuel false ((key, value) :: entries) r
      | ts => do
        let (key, r) ← node? fuel .flow (r.withTokens ts)
        flowEntries? fuel false ((key, nothing) :: entries) r

end

/-! ## Documents -/

/-- The handles that the directives at the front declare, and the tokens behind those. Of versions
only one may be given, 1.1 or 1.2, and each handle may be declared once. -/
def directives? : (versioned : Bool) → (handles : List String) → List Token →
    Option (List String × List Token)
  | versioned, handles, .version major minor :: ts =>
    if versioned || major != 1 || (minor != 1 && minor != 2) then none
    else directives? true handles ts
  | versioned, handles, .handle name :: ts =>
    if handles.contains name then none else directives? versioned (name :: handles) ts
  | _, handles, ts => some (handles, ts)

/-- The tokens that come before or behind a document. -/
def isOutside : Token → Bool
  | .version _ _ | .handle _ | .documentStart | .documentEnd => true
  | _ => false

/-- The handles that need not be declared. -/
def commonHandles : List String := ["!", "!!"]

/-- Reads the root of a document off the front of the tokens, behind the mark of its start if there
is one. -/
def root? (ts : List Token) : Option (Yaml × Reader) := do
  let (handles, behind) ← directives? false [] ts
  let r : Reader := ⟨behind, commonHandles ++ handles, [], []⟩
  match behind with
  | .documentStart :: content =>
    let r := r.withTokens content
    if (content.head?.map isOutside).getD true then return (nothing, r)
    else node? (5 * content.length + 5) .block r
  | _ => if behind.length < ts.length then none else node? (5 * ts.length + 5) .block r

/-- The document that the tokens make up. -/
def document? (ts : List Token) : Option Document :=
  if ts.isEmpty then some .empty
  else
    (root? ts).bind fun (root, r) =>
      if r.tokens.all (· == .documentEnd) then some ⟨root, r.anchored.reverse⟩ else none

end Reader

/-- The document that a text holds. -/
def parse? (s : String) : Option Document := (tokens? s).bind Reader.document?

end Stencil.Yaml
