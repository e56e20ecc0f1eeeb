import Stencil.Yaml.Scalar
import Stencil.Yaml.Tag

/-!
# The tokens of a YAML text

A text is read token by token. Whether something is a key shows only at the colon behind it, so the
places where a key may have started are kept, and the token for it is put there later. Such a key
has to be in one line and no longer than 1024 characters.
-/

namespace Stencil.Yaml

/-- A place where a key may have started: how many tokens were before it, whether it has to be a key
since it is at the indentation of its block, and where it is in the text. -/
structure KeyStart where
  before : Nat
  required : Bool
  index : Nat
  line : Nat
  column : Nat

/-- What has been read of a text. Tokens are kept with the latest first, and `count` is their
number. `least` is the least column of what belongs to an entry of the innermost block, and `outer`
holds the same for the blocks around it. `keys` holds a start, if there is one, for each level of
brackets, the innermost first. -/
structure Lexer where
  place : Place
  tokens : List Token
  count : Nat
  least : Nat
  outer : List Nat
  mayStartKey : Bool
  key : Option KeyStart
  keys : List (Option KeyStart)

namespace Lexer

/-- Before the first token. -/
def start (cs : List Char) : Lexer := ⟨.ofText cs, [], 0, 0, [], true, none, []⟩

/-- Whether brackets are open. -/
def inFlow (l : Lexer) : Bool := !l.keys.isEmpty

/-- Adds a token. -/
def add (t : Token) (l : Lexer) : Lexer :=
  { l with tokens := t :: l.tokens, count := l.count + 1 }

/-- Adds a token behind the first `before` ones. -/
def insert (before : Nat) (t : Token) (l : Lexer) : Lexer :=
  let behind := l.count - before
  { l with tokens := l.tokens.take behind ++ t :: l.tokens.drop behind, count := l.count + 1 }

/-- Adds a token of so many characters. -/
def addMark (t : Token) (length : Nat) (l : Lexer) : Lexer :=
  { l.add t with place := l.place.skip length }

/-! ## Indentation -/

/-- Begins a block at a column if it is further right than the innermost block. -/
def beginBlock (column before : Nat) (t : Token) (l : Lexer) : Lexer :=
  if !l.inFlow && l.least ≤ column then
    { l.insert before t with least := column + 1, outer := l.least :: l.outer }
  else l

/-- Ends the blocks whose entries start at the column `least` or later, the innermost first. -/
def endBlocksFrom (least : Nat) (current : Nat) : (outer : List Nat) → Lexer → Lexer
  | [], l => { l with least := current, outer := [] }
  | next :: outer, l =>
    if least ≤ current then endBlocksFrom least next outer (l.add .blockEnd)
    else { l with least := current, outer := next :: outer }

/-- Ends the blocks whose entries start at the column `least - 1` or later. -/
def endBlocks (least : Nat) (l : Lexer) : Lexer :=
  if l.inFlow then l else endBlocksFrom least l.least l.outer l

/-! ## Keys -/

/-- Gives up the start of a key on the innermost level, unless it has to be one. -/
def dropKey? (l : Lexer) : Option Lexer :=
  if (l.key.map KeyStart.required).getD false then none else some { l with key := none }

/-- Keeps the place as one where a key may start. -/
def saveKey? (l : Lexer) : Option Lexer :=
  if l.mayStartKey then
    let required := !l.inFlow && l.least == l.place.column + 1
    l.dropKey?.map fun l =>
      { l with
        key := some ⟨l.count, required, l.place.index, l.place.line, l.place.column⟩ }
  else some l

/-- The start of a key unless it is too far back. A key that has to be one may not be. -/
def recent? (p : Place) : Option KeyStart → Option (Option KeyStart)
  | none => some none
  | some k =>
    if k.line < p.line || k.index + 1024 < p.index then
      if k.required then none else some none
    else some (some k)

/-- Gives up the starts of keys that are too far back. -/
def dropOldKeys? (l : Lexer) : Option Lexer := do
  return { l with key := ← recent? l.place l.key, keys := ← l.keys.mapM (recent? l.place) }

/-! ## Tokens -/

/-- Passes gaps, comments and ends of lines, at most `fuel` of each. A tab is no gap where a key may
start in a block. A byte order mark may start a line. -/
def skipSpace : (fuel : Nat) → Lexer → Lexer
  | 0, l => l
  | fuel + 1, l =>
    let p := if l.place.column = 0 && l.place.has '\uFEFF' then l.place.skip 1 else l.place
    let isSpace (c : Char) : Bool := c == ' ' || ((l.inFlow || !l.mayStartKey) && c == '\t')
    let p := (p.skipWhile isSpace).skipComment
    if p.test isBreak then
      skipSpace fuel { l with place := p.skipBreak, mayStartKey := l.mayStartKey || !l.inFlow }
    else { l with place := p }

/-- Reads something that bounds a document, after which no key may start. -/
def bound? (l : Lexer) : Option Lexer :=
  ((l.endBlocks 0).dropKey?).map fun l => { l with mayStartKey := false }

/-- Reads an opening bracket. -/
def openFlow? (t : Token) (l : Lexer) : Option Lexer :=
  l.saveKey?.map fun l =>
    { l with key := none, keys := l.key :: l.keys, mayStartKey := true }.addMark t 1

/-- Reads a closing bracket. -/
def closeFlow? (t : Token) (l : Lexer) : Option Lexer :=
  l.dropKey?.map fun l =>
    let l :=
      match l.keys with
      | [] => l
      | key :: keys => { l with key := key, keys := keys }
    { l with mayStartKey := false }.addMark t 1

/-- Reads the dash of an item or the mark of a key, which begins a block of its kind in block style.
-/
def blockMark? (start t : Token) (keyBehind : Bool) (l : Lexer) : Option Lexer :=
  if !l.inFlow && !l.mayStartKey then none
  else
    (l.beginBlock l.place.column l.count start).dropKey?.map fun l =>
      { l with mayStartKey := keyBehind }.addMark t 1

/-- Reads the colon of an entry. What is behind the start of a key, if there is one, is its key. -/
def value? (l : Lexer) : Option Lexer :=
  match l.key with
  | some k =>
    let l := (l.insert k.before .key).beginBlock k.column k.before .blockMappingStart
    some ({ l with key := none, mayStartKey := false }.addMark .value 1)
  | none =>
    if !l.inFlow && !l.mayStartKey then none
    else
      let l := l.beginBlock l.place.column l.count .blockMappingStart
      some ({ l with mayStartKey := !l.inFlow }.addMark .value 1)

/-- Adds a scalar that has been read, behind which a key may start in a new line only. -/
def addScalar (plain : Bool) (s : ScalarReading) (l : Lexer) : Lexer :=
  { l.add (.scalar (String.ofList s.text) plain) with place := s.next, mayStartKey := s.fresh }

/-- Adds a token that may be the start of a key. -/
def addNamed (t : Token) (next : Place) (l : Lexer) : Lexer :=
  { l.add t with place := next, mayStartKey := false }

/-- Reads the token that comes first, behind gaps. -/
def token? (c : Char) (cs : List Char) (l : Lexer) : Option Lexer :=
  let p := l.place
  if p.column = 0 && c == '%' then do
    let l ← l.bound?
    let (t, next) ← directive? p
    return { l.add t with place := next }
  else if p.atBound '-' then l.bound?.map (addMark .documentStart 3)
  else if p.atBound '.' then l.bound?.map (addMark .documentEnd 3)
  else
    match c with
    | '[' => l.openFlow? .flowSequenceStart
    | '\x7b' => l.openFlow? .flowMappingStart
    | ']' => l.closeFlow? .flowSequenceEnd
    | '\x7d' => l.closeFlow? .flowMappingEnd
    | ',' => l.dropKey?.map fun l => { l with mayStartKey := true }.addMark .flowEntry 1
    | '*' => do
      let l ← l.saveKey?
      let (name, next) ← name? p
      return l.addNamed (.alias name) next
    | '&' => do
      let l ← l.saveKey?
      let (name, next) ← name? p
      return l.addNamed (.anchor name) next
    | '!' => do
      let l ← l.saveKey?
      let (t, next) ← tag? l.inFlow p
      return l.addNamed t next
    | _ =>
      if c == '-' && atGap cs then l.blockMark? .blockSequenceStart .blockEntry true
      else if c == '?' && (l.inFlow || atGap cs) then
        l.blockMark? .blockMappingStart .key (!l.inFlow)
      else if c == ':' && (l.inFlow || atGap cs) then l.value?
      else if (c == '|' || c == '>') && !l.inFlow then do
        let l ← l.dropKey?
        return l.addScalar false (← block? (c == '>') l.least p)
      else if c == '\'' || c == '"' then do
        let l ← l.saveKey?
        return l.addScalar false (← quoted? c p)
      else if startsPlain l.inFlow (c :: cs) then do
        let l ← l.saveKey?
        return l.addScalar true (← plain? l.inFlow l.least p)
      else none

/-- Reads tokens until the text ends, at most `fuel` of them. -/
def run? : (fuel : Nat) → Lexer → Option Lexer
  | 0, _ => none
  | fuel + 1, l =>
    (l.skipSpace l.place.rest.length.succ).dropOldKeys?.bind fun l =>
      let l := l.endBlocks (l.place.column + 2)
      match l.place.rest with
      | [] => l.bound?
      | c :: cs => (l.token? c cs).bind (run? fuel)

end Lexer

/-- The tokens of a text. -/
def tokens? (s : String) : Option (List Token) :=
  if s.toList.all isAllowed then
    (Lexer.run? (s.length + 1) (.start s.toList)).map fun l => l.tokens.reverse
  else none

end Stencil.Yaml
