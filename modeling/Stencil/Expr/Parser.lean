import Stencil.Expr.Basic
import Stencil.Expr.Lexer

/-!
# Reading expressions

The grammar in levels, from the loosest binding to the tightest: conditionals, `or`, `and`, `not`,
chains of comparisons, sums, products, signs, accesses and calls, atoms. A level reads an
expression off the front of the tokens and gives back what is left, which is always shorter.

Constructs that hold an expression of a looser level, and the operators in front of an operand, go
one nesting level down. A `Grammar` holds the readers of one nesting level; it is built from the
readers of the level below, if there is one.
-/

namespace Stencil.Expr.Parser

/-- What is left once at least one of the tokens is read. -/
abbrev Rest (ts : List Token) := { r : List Token // r.length < ts.length }

/-- What is left once some of the tokens, maybe none, are read. -/
abbrev Remainder (ts : List Token) := { r : List Token // r.length ≤ ts.length }

/-- Reads something off the front of the tokens. -/
abbrev Reader (α : Type) := (ts : List Token) → Except SyntaxError (α × Rest ts)

/-- The readers that go one nesting level down. -/
structure Grammar where
  conditional : Reader Expr
  disjunction : Reader Expr
  negation : Reader Expr
  signed : Reader Expr

/-- What comes next at one place of a chain: an operator and what it makes of the operands. -/
abbrev Joiner := Token.Kind → Option (Expr → Expr → Expr)

/-- The operator `or`. -/
def orJoiner : Joiner
  | .keyword .or => some .or
  | _ => none

/-- The operator `and`. -/
def andJoiner : Joiner
  | .keyword .and => some .and
  | _ => none

/-- The operators of sums. -/
def sumJoiner : Joiner
  | .mark .plus => some (.binary .add)
  | .mark .minus => some (.binary .sub)
  | _ => none

/-- The operators of products. -/
def productJoiner : Joiner
  | .mark .star => some (.binary .mul)
  | .mark .slash => some (.binary .div)
  | .mark .doubleSlash => some (.binary .floorDiv)
  | .mark .percent => some (.binary .mod)
  | _ => none

/-- A comparison operator off the front of the tokens; two of them take two words. -/
def compareOp? (ts : List Token) : Option (CompareOp × Rest ts) :=
  match ts with
  | ⟨.mark .eq, _⟩ :: ts => some (.eq, ⟨ts, by simp⟩)
  | ⟨.mark .ne, _⟩ :: ts => some (.ne, ⟨ts, by simp⟩)
  | ⟨.mark .lt, _⟩ :: ts => some (.lt, ⟨ts, by simp⟩)
  | ⟨.mark .le, _⟩ :: ts => some (.le, ⟨ts, by simp⟩)
  | ⟨.mark .gt, _⟩ :: ts => some (.gt, ⟨ts, by simp⟩)
  | ⟨.mark .ge, _⟩ :: ts => some (.ge, ⟨ts, by simp⟩)
  | ⟨.keyword .within, _⟩ :: ts => some (.within, ⟨ts, by simp⟩)
  | ⟨.keyword .same, _⟩ :: ⟨.keyword .not, _⟩ :: ts =>
    some (.notSame, ⟨ts, by simp only [List.length_cons]; omega⟩)
  | ⟨.keyword .same, _⟩ :: ts => some (.same, ⟨ts, by simp⟩)
  | ⟨.keyword .not, _⟩ :: ⟨.keyword .within, _⟩ :: ts =>
    some (.notWithin, ⟨ts, by simp only [List.length_cons]; omega⟩)
  | _ => none

/-- The rest of a left-associative chain, after its part so far. -/
def chain (operand : Reader Expr) (join : Joiner) (left : Expr) (ts : List Token) :
    Except SyntaxError (Expr × Remainder ts) :=
  match ts with
  | [] => .ok (left, ⟨[], Nat.le_refl _⟩)
  | t :: ts =>
    match join t.kind with
    | none => .ok (left, ⟨t :: ts, Nat.le_refl _⟩)
    | some f => do
      let (right, ⟨r, _⟩) ← operand ts
      let (e, ⟨r', _⟩) ← chain operand join (f left right) r
      return (e, ⟨r', by simp only [List.length_cons]; omega⟩)
termination_by ts.length
decreasing_by simp only [List.length_cons]; omega

/-- A left-associative chain of operands. -/
def chained (operand : Reader Expr) (join : Joiner) : Reader Expr := fun ts => do
  let (first, ⟨r, _⟩) ← operand ts
  let (e, ⟨r', _⟩) ← chain operand join first r
  return (e, ⟨r', by omega⟩)

/-- The comparisons after the first operand of a chain. -/
def comparisons (operand : Reader Expr) (ts : List Token) :
    Except SyntaxError (List (CompareOp × Expr) × Remainder ts) :=
  match compareOp? ts with
  | none => .ok ([], ⟨ts, Nat.le_refl _⟩)
  | some (op, ⟨r, _⟩) => do
    let (right, ⟨r', _⟩) ← operand r
    let (more, ⟨r'', _⟩) ← comparisons operand r'
    return ((op, right) :: more, ⟨r'', by omega⟩)
termination_by ts.length

/-- An operand, compared or not. -/
def compared (operand : Reader Expr) : Reader Expr := fun ts => do
  let (first, ⟨r, _⟩) ← operand ts
  let (more, ⟨r', _⟩) ← comparisons operand r
  return (if more.isEmpty then first else .compare first more, ⟨r', by omega⟩)

/-- The given mark at the front, which must be there. -/
def expectMark (stop : Nat) (mark : Mark) (ts : List Token) : Except SyntaxError (Rest ts) :=
  match ts with
  | ⟨.mark m, p⟩ :: ts =>
    if m = mark then .ok ⟨ts, by simp⟩ else .error ⟨p, .expectedToken (.mark mark)⟩
  | ts => .error ⟨here stop ts, .expectedToken (.mark mark)⟩

/-- The word `else` at the front, which must be there. -/
def expectElse (stop : Nat) (ts : List Token) : Except SyntaxError (Rest ts) :=
  match ts with
  | ⟨.keyword .otherwise, _⟩ :: ts => .ok ⟨ts, by simp⟩
  | ts => .error ⟨here stop ts, .expectedToken (.keyword .otherwise)⟩

/-- Goes one nesting level down, if there is one. -/
def enter (stop : Nat) (inner : Option Grammar) (ts : List Token) :
    Except SyntaxError Grammar :=
  match inner with
  | none => .error ⟨here stop ts, .tooDeep⟩
  | some g => .ok g

/-- What follows an item: a comma, and then more may come, or the closing mark. -/
def separator (stop : Nat) (close : Mark) (ts : List Token) :
    Except SyntaxError (Bool × Rest ts) :=
  match ts with
  | ⟨.mark .comma, _⟩ :: ts => .ok (true, ⟨ts, by simp⟩)
  | ts => do return (false, ← expectMark stop close ts)

/-- The items of a list up to the closing bracket. -/
def listItems (stop : Nat) (item : Reader Expr) (ts : List Token) :
    Except SyntaxError (List Expr × Rest ts) :=
  match ts with
  | ⟨.mark .rightBracket, _⟩ :: ts => .ok ([], ⟨ts, by simp⟩)
  | ts => do
    let (e, ⟨r₁, _⟩) ← item ts
    let (more, ⟨r₂, _⟩) ← separator stop .rightBracket r₁
    if more then
      let (items, ⟨r₃, _⟩) ← listItems stop item r₂
      return (e :: items, ⟨r₃, by omega⟩)
    else return ([e], ⟨r₂, by omega⟩)
termination_by ts.length

/-- The arguments of a call. -/
structure Arguments where
  positional : List Expr
  keywords : List (String × Expr)

/-- A keyword and its `=` off the front of the tokens. -/
def keyword? (ts : List Token) : Option (String × Rest ts) :=
  match ts with
  | ⟨.name n, _⟩ :: ⟨.mark .assign, _⟩ :: ts =>
    some (n, ⟨ts, by simp only [List.length_cons]; omega⟩)
  | _ => none

/-- The arguments of a call up to the closing parenthesis. Positional ones come first. -/
def callArguments (stop : Nat) (argument : Reader Expr) (keyworded : Bool) (ts : List Token) :
    Except SyntaxError (Arguments × Rest ts) :=
  match ts with
  | ⟨.mark .rightParen, _⟩ :: ts => .ok (⟨[], []⟩, ⟨ts, by simp⟩)
  | ts =>
    match keyword? ts with
    | some (n, ⟨r, _⟩) => do
      let (e, ⟨r₁, _⟩) ← argument r
      let (more, ⟨r₂, _⟩) ← separator stop .rightParen r₁
      if more then
        let (args, ⟨r₃, _⟩) ← callArguments stop argument true r₂
        return ({ args with keywords := (n, e) :: args.keywords }, ⟨r₃, by omega⟩)
      else return (⟨[], [(n, e)]⟩, ⟨r₂, by omega⟩)
    | none =>
      if keyworded then .error ⟨here stop ts, .positionalAfterKeyword⟩
      else do
        let (e, ⟨r₁, _⟩) ← argument ts
        let (more, ⟨r₂, _⟩) ← separator stop .rightParen r₁
        if more then
          let (args, ⟨r₃, _⟩) ← callArguments stop argument false r₂
          return ({ args with positional := e :: args.positional }, ⟨r₃, by omega⟩)
        else return (⟨[e], []⟩, ⟨r₂, by omega⟩)
termination_by ts.length

/-- The texts that directly follow a text and continue it. -/
def moreText (ts : List Token) : String × Remainder ts :=
  match ts with
  | ⟨.str s, _⟩ :: ts =>
    let (more, ⟨r, _⟩) := moreText ts
    (s ++ more, ⟨r, by simp only [List.length_cons]; omega⟩)
  | ts => ("", ⟨ts, Nat.le_refl _⟩)

/-- Literals, names, and what stands in parentheses or brackets. -/
def atom (stop : Nat) (inner : Option Grammar) : Reader Expr := fun ts =>
  match ts with
  | [] => .error ⟨stop, .endOfText⟩
  | ⟨.int n, _⟩ :: ts => .ok (.literal (.int n), ⟨ts, by simp⟩)
  | ⟨.float x, _⟩ :: ts => .ok (.literal (.float x), ⟨ts, by simp⟩)
  | ⟨.str s, _⟩ :: ts =>
    let (more, ⟨r, _⟩) := moreText ts
    .ok (.literal (.str (s ++ more)), ⟨r, by simp only [List.length_cons]; omega⟩)
  | ⟨.keyword .true, _⟩ :: ts => .ok (.literal (.bool true), ⟨ts, by simp⟩)
  | ⟨.keyword .false, _⟩ :: ts => .ok (.literal (.bool false), ⟨ts, by simp⟩)
  | ⟨.keyword .none, _⟩ :: ts => .ok (.literal .null, ⟨ts, by simp⟩)
  | ⟨.name n, _⟩ :: ts => .ok (.name n, ⟨ts, by simp⟩)
  | ⟨.mark .leftParen, _⟩ :: ts => do
    let g ← enter stop inner ts
    let (e, ⟨r, _⟩) ← g.conditional ts
    let ⟨r', _⟩ ← expectMark stop .rightParen r
    return (e, ⟨r', by simp only [List.length_cons]; omega⟩)
  | ⟨.mark .leftBracket, _⟩ :: ts => do
    let g ← enter stop inner ts
    let (items, ⟨r, _⟩) ← listItems stop g.conditional ts
    return (.list items, ⟨r, by simp only [List.length_cons]; omega⟩)
  | ⟨kind, position⟩ :: _ => .error ⟨position, .unexpectedToken kind⟩

/-- The accesses and calls that follow an expression. -/
def accesses (stop : Nat) (inner : Option Grammar) (target : Expr) (ts : List Token) :
    Except SyntaxError (Expr × Remainder ts) :=
  match ts with
  | ⟨.mark .dot, _⟩ :: ⟨.name field, _⟩ :: ts => do
    let (e, ⟨r, _⟩) ← accesses stop inner (.access target field) ts
    return (e, ⟨r, by simp only [List.length_cons]; omega⟩)
  | ⟨.mark .dot, _⟩ :: ts => .error ⟨here stop ts, .expectedAttribute⟩
  | ⟨.mark .leftBracket, _⟩ :: ts => do
    let g ← enter stop inner ts
    let (i, ⟨r, _⟩) ← g.conditional ts
    let ⟨r', _⟩ ← expectMark stop .rightBracket r
    let (e, ⟨r'', _⟩) ← accesses stop inner (.index target i) r'
    return (e, ⟨r'', by simp only [List.length_cons]; omega⟩)
  | ⟨.mark .leftParen, _⟩ :: ts => do
    let g ← enter stop inner ts
    let (args, ⟨r, _⟩) ← callArguments stop g.conditional false ts
    let (e, ⟨r', _⟩) ← accesses stop inner (.call target args.positional args.keywords) r
    return (e, ⟨r', by simp only [List.length_cons]; omega⟩)
  | ts => .ok (target, ⟨ts, Nat.le_refl _⟩)
termination_by ts.length
decreasing_by all_goals (simp only [List.length_cons] at *; omega)

/-- An atom with the accesses and calls that follow it. -/
def accessed (stop : Nat) (inner : Option Grammar) : Reader Expr := fun ts => do
  let (e, ⟨r, _⟩) ← atom stop inner ts
  let (e', ⟨r', _⟩) ← accesses stop inner e r
  return (e', ⟨r', by omega⟩)

/-- An operand with the signs in front of it. -/
def signed (stop : Nat) (inner : Option Grammar) : Reader Expr := fun ts =>
  match ts with
  | ⟨.mark .minus, _⟩ :: ts => do
    let g ← enter stop inner ts
    let (e, ⟨r, _⟩) ← g.signed ts
    return (.unary .neg e, ⟨r, by simp only [List.length_cons]; omega⟩)
  | ⟨.mark .plus, _⟩ :: ts => do
    let g ← enter stop inner ts
    let (e, ⟨r, _⟩) ← g.signed ts
    return (.unary .pos e, ⟨r, by simp only [List.length_cons]; omega⟩)
  | ts => accessed stop inner ts

/-- A comparison with the `not`s in front of it. -/
def negation (stop : Nat) (inner : Option Grammar) : Reader Expr := fun ts =>
  match ts with
  | ⟨.keyword .not, _⟩ :: ts => do
    let g ← enter stop inner ts
    let (e, ⟨r, _⟩) ← g.negation ts
    return (.unary .not e, ⟨r, by simp only [List.length_cons]; omega⟩)
  | ts => compared (chained (chained (signed stop inner) productJoiner) sumJoiner) ts

/-- Negations joined by `and`, and these joined by `or`. -/
def disjunction (stop : Nat) (inner : Option Grammar) : Reader Expr :=
  chained (chained (negation stop inner) andJoiner) orJoiner

/-- The word `if` off the front of the tokens. -/
def when? (ts : List Token) : Option (Rest ts) :=
  match ts with
  | ⟨.keyword .when, _⟩ :: ts => some ⟨ts, by simp⟩
  | _ => none

/-- An expression of the loosest level: `a if c else b`. -/
def conditional (stop : Nat) (inner : Option Grammar) : Reader Expr := fun ts => do
  let (consequent, ⟨r, _⟩) ← disjunction stop inner ts
  match when? r with
  | none => return (consequent, ⟨r, by assumption⟩)
  | some ⟨r₁, _⟩ =>
    let g ← enter stop inner r₁
    let (condition, ⟨r₂, _⟩) ← g.disjunction r₁
    let ⟨r₃, _⟩ ← expectElse stop r₂
    let (alternative, ⟨r₄, _⟩) ← g.conditional r₃
    return (.conditional condition consequent alternative, ⟨r₄, by omega⟩)

/-- The readers above the given nesting level. -/
def Grammar.above (stop : Nat) (inner : Option Grammar) : Grammar where
  conditional := Parser.conditional stop inner
  disjunction := Parser.disjunction stop inner
  negation := Parser.negation stop inner
  signed := Parser.signed stop inner

/-- The readers with this many nesting levels below them. -/
def Grammar.ofDepth (stop : Nat) : (depth : Nat) → Grammar
  | 0 => .above stop none
  | depth + 1 => .above stop (some (ofDepth stop depth))

/-- How many nested constructs may be open at once. -/
def maxDepth : Nat := 64

/-- The expression that the tokens of a text of the given length make up. -/
def ofTokens (stop : Nat) (ts : List Token) : Except SyntaxError Expr :=
  match ts with
  | [] => .error ⟨0, .empty⟩
  | ts => do
    let (e, ⟨r, _⟩) ← (Grammar.ofDepth stop maxDepth).conditional ts
    match r with
    | [] => return e
    | t :: _ => throw ⟨t.position, .unexpectedToken t.kind⟩

end Stencil.Expr.Parser

namespace Stencil.Expr

/-- The expression that a text is written for. -/
def parse (text : String) : Except SyntaxError Expr := do
  Parser.ofTokens text.utf8ByteSize (← tokens text)

end Stencil.Expr
