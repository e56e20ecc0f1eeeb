import Stencil.Expr.Basic
import Stencil.Expr.Token

/-!
# The grammar of expressions

Which words stand for which expression, level by level, from the tightest binding to the loosest.
A level is a `Phrase`: it relates words to what they stand for. What stands in brackets or behind an
operator in front is one nesting level down, in a `Language`; each nesting level is a language above
the one below it, and below the lowest there is none (`Language.ofDepth`).
-/

namespace Stencil.Expr

/-- What words stand for. -/
abbrev Phrase (α : Type) := List Token.Kind → α → Prop

/-- The phrases that go one nesting level down. -/
structure Language where
  conditional : Phrase Expr
  disjunction : Phrase Expr
  negation : Phrase Expr
  signed : Phrase Expr

/-! ## Operators -/

/-- Words between two operands, and what they make of them. -/
abbrev Operators := Token.Kind → (Expr → Expr → Expr) → Prop

inductive Operators.Or : Operators
  | or : Or (.keyword .or) .or

inductive Operators.And : Operators
  | and : And (.keyword .and) .and

inductive Operators.Sum : Operators
  | add : Sum (.mark .plus) (.binary .add)
  | sub : Sum (.mark .minus) (.binary .sub)

inductive Operators.Product : Operators
  | mul : Product (.mark .star) (.binary .mul)
  | div : Product (.mark .slash) (.binary .div)
  | floorDiv : Product (.mark .doubleSlash) (.binary .floorDiv)
  | mod : Product (.mark .percent) (.binary .mod)

/-- The words of a comparison. -/
inductive Compares : Phrase CompareOp
  | eq : Compares [.mark .eq] .eq
  | ne : Compares [.mark .ne] .ne
  | lt : Compares [.mark .lt] .lt
  | le : Compares [.mark .le] .le
  | gt : Compares [.mark .gt] .gt
  | ge : Compares [.mark .ge] .ge
  | within : Compares [.keyword .within] .within
  | notWithin : Compares [.keyword .not, .keyword .within] .notWithin
  | same : Compares [.keyword .same] .same
  | notSame : Compares [.keyword .same, .keyword .not] .notSame

/-! ## Phrases of operands -/

variable {α : Type}

/-- Operands joined by operators, from left to right. -/
inductive Chain (join : Operators) (operand : Phrase Expr) : Phrase Expr
  | one {ks : List Token.Kind} {e : Expr} (h : operand ks e) : Chain join operand ks e
  | more {ks us : List Token.Kind} {k : Token.Kind} {f : Expr → Expr → Expr} {left right : Expr}
      (hl : Chain join operand ks left) (hk : join k f) (hr : operand us right) :
      Chain join operand (ks ++ k :: us) (f left right)

/-- Operands, each behind the words of a comparison. -/
inductive Comparisons (operand : Phrase Expr) : Phrase (List (CompareOp × Expr))
  | nil : Comparisons operand [] []
  | cons {ks us vs : List Token.Kind} {op : CompareOp} {e : Expr} {rest : List (CompareOp × Expr)}
      (ho : Compares ks op) (he : operand us e) (hr : Comparisons operand vs rest) :
      Comparisons operand (ks ++ us ++ vs) ((op, e) :: rest)

/-- An operand that is compared with others, or stands alone. -/
inductive Compared (operand : Phrase Expr) : Phrase Expr
  | alone {ks : List Token.Kind} {e : Expr} (h : operand ks e) : Compared operand ks e
  | chain {ks us : List Token.Kind} {e : Expr} {rest : List (CompareOp × Expr)}
      (h : operand ks e) (hr : Comparisons operand us rest) (hne : rest ≠ []) :
      Compared operand (ks ++ us) (.compare e rest)

/-- Items between commas; one more comma may stand behind the last. -/
inductive Items (item : Phrase α) : Phrase (List α)
  | nil : Items item [] []
  | last {ks : List Token.Kind} {a : α} (h : item ks a) : Items item ks [a]
  | cons {ks us : List Token.Kind} {a : α} {rest : List α} (h : item ks a)
      (hr : Items item us rest) : Items item (ks ++ .mark .comma :: us) (a :: rest)

/-- An argument of a call, by place or by name. -/
inductive Argument (value : Phrase Expr) : Phrase (Expr ⊕ String × Expr)
  | positional {ks : List Token.Kind} {e : Expr} (h : value ks e) : Argument value ks (.inl e)
  | keyword {ks : List Token.Kind} {e : Expr} (n : String) (h : value ks e) :
      Argument value (.name n :: .mark .assign :: ks) (.inr (n, e))

/-! ## Nesting -/

/-- What stands by itself: literals, names, and what is in parentheses or brackets. -/
inductive Atom (below : Option Language) : Phrase Expr
  | int (n : Int64) : Atom below [.int n] (.literal (.int n))
  | float (x : Float) : Atom below [.float x] (.literal (.float x))
  /-- Texts that stand side by side are one text. -/
  | str (s : String) (more : List String) :
      Atom below (.str s :: more.map .str) (.literal (.str (String.join (s :: more))))
  | true : Atom below [.keyword .true] (.literal (.bool true))
  | false : Atom below [.keyword .false] (.literal (.bool false))
  | none : Atom below [.keyword .none] (.literal .null)
  | name (n : String) : Atom below [.name n] (.name n)
  | parentheses {L : Language} {ks : List Token.Kind} {e : Expr} (hL : below = some L)
      (h : L.conditional ks e) : Atom below (.mark .leftParen :: ks ++ [.mark .rightParen]) e
  | list {L : Language} {ks : List Token.Kind} {es : List Expr} (hL : below = some L)
      (h : Items L.conditional ks es) :
      Atom below (.mark .leftBracket :: ks ++ [.mark .rightBracket]) (.list es)

/-- An atom with accesses and calls behind it. -/
inductive Accessed (below : Option Language) : Phrase Expr
  | atom {ks : List Token.Kind} {e : Expr} (h : Atom below ks e) : Accessed below ks e
  | access {ks : List Token.Kind} {e : Expr} (h : Accessed below ks e) (field : String) :
      Accessed below (ks ++ [.mark .dot, .name field]) (.access e field)
  | index {L : Language} {ks us : List Token.Kind} {e i : Expr} (h : Accessed below ks e)
      (hL : below = some L) (hi : L.conditional us i) :
      Accessed below (ks ++ (.mark .leftBracket :: us ++ [.mark .rightBracket])) (.index e i)
  /-- Arguments by place stand before those by name. -/
  | call {L : Language} {ks us : List Token.Kind} {e : Expr} {positional : List Expr}
      {keywords : List (String × Expr)} (h : Accessed below ks e) (hL : below = some L)
      (ha : Items (Argument L.conditional) us (positional.map .inl ++ keywords.map .inr)) :
      Accessed below (ks ++ (.mark .leftParen :: us ++ [.mark .rightParen]))
        (.call e positional keywords)

/-- An operand with signs in front of it. -/
inductive Signed (below : Option Language) : Phrase Expr
  | plain {ks : List Token.Kind} {e : Expr} (h : Accessed below ks e) : Signed below ks e
  | neg {L : Language} {ks : List Token.Kind} {e : Expr} (hL : below = some L)
      (h : L.signed ks e) : Signed below (.mark .minus :: ks) (.unary .neg e)
  | pos {L : Language} {ks : List Token.Kind} {e : Expr} (hL : below = some L)
      (h : L.signed ks e) : Signed below (.mark .plus :: ks) (.unary .pos e)

/-- Products joined to sums. -/
def Additive (below : Option Language) : Phrase Expr :=
  Chain Operators.Sum (Chain Operators.Product (Signed below))

/-- A comparison with `not`s in front of it. -/
inductive Negation (below : Option Language) : Phrase Expr
  | plain {ks : List Token.Kind} {e : Expr} (h : Compared (Additive below) ks e) :
      Negation below ks e
  | not {L : Language} {ks : List Token.Kind} {e : Expr} (hL : below = some L)
      (h : L.negation ks e) : Negation below (.keyword .not :: ks) (.unary .not e)

/-- Negations joined by `and`, and these joined by `or`. -/
def Disjunction (below : Option Language) : Phrase Expr :=
  Chain Operators.Or (Chain Operators.And (Negation below))

/-- An expression: `a if c else b`, or `a` alone. -/
inductive Conditional (below : Option Language) : Phrase Expr
  | plain {ks : List Token.Kind} {e : Expr} (h : Disjunction below ks e) : Conditional below ks e
  | tail {L : Language} {ks us vs : List Token.Kind} {e c a : Expr} (h : Disjunction below ks e)
      (hL : below = some L) (hc : L.disjunction us c) (ha : L.conditional vs a) :
      Conditional below (ks ++ (.keyword .when :: us ++ .keyword .otherwise :: vs))
        (.conditional c e a)

/-- The phrases above a language, if there is one. -/
def Language.above (below : Option Language) : Language :=
  ⟨Conditional below, Disjunction below, Negation below, Signed below⟩

/-- The phrases in which at most this many constructs are open at once. -/
def Language.ofDepth : (depth : Nat) → Language
  | 0 => .above none
  | depth + 1 => .above (some (ofDepth depth))

/-- Words stand for an expression in which at most this many constructs are open at once. -/
def Derives (depth : Nat) : Phrase Expr := (Language.ofDepth depth).conditional

/-! ## How phrases begin -/

/-- Every phrase begins with a word of some kind. -/
def Begins (p : Token.Kind → Prop) (phrase : Phrase α) : Prop :=
  ∀ ks a, phrase ks a → ∃ k us, ks = k :: us ∧ p k

/-- The words that an atom may begin with. -/
def opensAtom : Token.Kind → Prop
  | .keyword k => k = .true ∨ k = .false ∨ k = .none
  | .mark m => m = .leftParen ∨ m = .leftBracket
  | _ => True

/-- The words that an operand may begin with. -/
def opensOperand (k : Token.Kind) : Prop := opensAtom k ∨ k = .mark .plus ∨ k = .mark .minus

/-- The words that an expression may begin with. -/
def opens (k : Token.Kind) : Prop := opensOperand k ∨ k = .keyword .not

variable {p q : Token.Kind → Prop} {operand : Phrase Expr} {join : Operators}
  {below : Option Language}

theorem Begins.mono {phrase : Phrase α} (h : Begins p phrase) (hpq : ∀ k, p k → q k) :
    Begins q phrase := by
  intro ks a ha
  obtain ⟨k, us, hks, hk⟩ := h ks a ha
  exact ⟨k, us, hks, hpq k hk⟩

/-- What a phrase begins with does not depend on what stands behind. -/
theorem Begins.append {phrase : Phrase α} (h : Begins p phrase) {ks : List Token.Kind} {a : α}
    (ha : phrase ks a) (vs : List Token.Kind) : ∃ k us, ks ++ vs = k :: us ∧ p k := by
  obtain ⟨k, us, rfl, hk⟩ := h ks a ha
  exact ⟨k, us ++ vs, rfl, hk⟩

/-- A chain begins like its first operand. -/
theorem Begins.chain (h : Begins p operand) : Begins p (Chain join operand) := by
  intro ks e he
  induction he with
  | one he => exact h _ _ he
  | more _ _ _ ih =>
    obtain ⟨k, us, rfl, hk⟩ := ih
    exact ⟨k, _, rfl, hk⟩

theorem Begins.compared (h : Begins p operand) : Begins p (Compared operand) := by
  rintro ks e (he | ⟨he, -, -⟩)
  · exact h _ _ he
  · exact h.append he _

theorem Begins.argument (h : Begins opens operand) : Begins opens (Argument operand) := by
  rintro ks a (he | ⟨n, -⟩)
  · exact h _ _ he
  · exact ⟨_, _, rfl, .inl (.inl trivial)⟩

/-- An operand begins with a word for a value, a name or an opening bracket. -/
theorem begins_atom : Begins opensAtom (Atom below) := by
  intro ks e he
  cases he with
  | parentheses | list => exact ⟨_, _, rfl, by simp [opensAtom]⟩
  | _ => exact ⟨_, _, rfl, by simp [opensAtom]⟩

theorem begins_accessed : Begins opensAtom (Accessed below) := by
  intro ks e he
  induction he with
  | atom he => exact begins_atom _ _ he
  | access _ _ ih | index _ _ _ ih | call _ _ _ ih =>
    obtain ⟨k, us, rfl, hk⟩ := ih
    exact ⟨k, _, rfl, hk⟩

/-- Before an operand there may be signs. -/
theorem begins_signed : Begins opensOperand (Signed below) := by
  rintro ks e (he | _ | _)
  · exact begins_accessed.mono (fun _ => Or.inl) _ _ he
  · exact ⟨_, _, rfl, .inr (.inr rfl)⟩
  · exact ⟨_, _, rfl, .inr (.inl rfl)⟩

theorem begins_additive : Begins opensOperand (Additive below) := begins_signed.chain.chain

theorem begins_disjunction : Begins opens (Disjunction below) := by
  have h : Begins opens (Negation below) := by
    rintro ks e (he | _)
    · exact begins_additive.compared.mono (fun _ => Or.inl) _ _ he
    · exact ⟨_, _, rfl, .inr rfl⟩
  exact h.chain.chain

/-- A whole expression begins with an operand or with `not`. -/
theorem begins_conditional : Begins opens (Conditional below) := by
  rintro ks e (he | ⟨he, -, -, -⟩)
  · exact begins_disjunction _ _ he
  · exact begins_disjunction.append he _

end Stencil.Expr
