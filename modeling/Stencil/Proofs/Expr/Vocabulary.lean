import Mathlib.Data.List.TakeWhile
import Stencil.Proofs.Expr.Name
import Stencil.Proofs.Expr.Scope

/-!
# Where the names of an expression come from

The names in an expression are among the words that stand for it (`Derives.name_mem`), and a word
that is a name is written as one (`isName_of_mem_tokensFrom`). So a text of any other form, such as
an operator between two names or a word with a meaning of its own, is never looked up as a whole
(`isName_of_mem_namesIn`).
-/

namespace Stencil.Expr

variable {α : Type} {p : Phrase α} {operand : Phrase Expr} {join : Operators}
  {below : Option Language} {n : String}

/-- The names in what words stand for are among the words. -/
def Phrase.Spells (names : α → List String) (p : Phrase α) : Prop :=
  ∀ ks a, p ks a → ∀ n ∈ names a, Token.Kind.name n ∈ ks

/-- A language in which the names of an expression are among its words. -/
structure Language.Spells (L : Language) : Prop where
  conditional : L.conditional.Spells names
  disjunction : L.disjunction.Spells names
  negation : L.negation.Spells names
  signed : L.signed.Spells names

/-! ## Operands -/

/-- What an operator makes of its operands has the names of both. -/
def Operators.Collect (join : Operators) : Prop :=
  ∀ k f, join k f → ∀ left right : Expr, (f left right).names = left.names ++ right.names

/-- The names of a row of operands are those of its operands. -/
theorem Chain.spells (hj : join.Collect) (h : operand.Spells names) :
    (Chain join operand).Spells names := by
  intro ks e he
  induction he with
  | one he => exact h _ _ he
  | more _ hk hr ih =>
    intro n hn
    rw [hj _ _ hk, List.mem_append] at hn
    rw [List.mem_append, List.mem_cons]
    exact hn.imp (ih n) fun hn => .inr (h _ _ hr n hn)

/-- The names of the operands behind a comparison are spelled among its tokens. -/
theorem Comparisons.spells (h : operand.Spells names) :
    (Comparisons operand).Spells namesOfChain := by
  intro ks cs hcs
  induction hcs with
  | nil => simp [namesOfChain]
  | cons _ he _ ih =>
    intro n hn
    rw [namesOfChain, List.mem_append] at hn
    rw [List.mem_append, List.mem_append]
    exact hn.imp (fun hn => .inr (h _ _ he n hn)) (ih n)

theorem Compared.spells (h : operand.Spells names) : (Compared operand).Spells names := by
  rintro ks e (he | ⟨he, hr, -⟩)
  · exact h _ _ he
  · intro n hn
    rw [names, List.mem_append] at hn
    rw [List.mem_append]
    exact hn.imp (h _ _ he n) (Comparisons.spells h _ _ hr n)

/-- The names of items in a row are those of each. -/
theorem Items.spells {namesOf : α → List String} (h : p.Spells namesOf) :
    (Items p).Spells (List.flatMap namesOf) := by
  intro ks as has
  induction has with
  | nil => simp
  | last ha =>
    intro n hn
    rw [List.flatMap_singleton] at hn
    exact h _ _ ha n hn
  | cons ha _ ih =>
    intro n hn
    rw [List.flatMap_cons, List.mem_append] at hn
    rw [List.mem_append, List.mem_cons]
    exact hn.imp (h _ _ ha n) fun hn => .inr (ih n hn)

/-- The names in an argument, by place or by name. -/
def namesOfArgument : Expr ⊕ String × Expr → List String
  | .inl e => names e
  | .inr (_, e) => names e

/-- The name of an argument is spelled too, but it is none of the names in the call. -/
theorem Argument.spells (h : operand.Spells names) :
    (Argument operand).Spells namesOfArgument := by
  rintro ks a (he | ⟨_, he⟩) n hn
  · exact h _ _ he n hn
  · exact List.mem_cons_of_mem _ (List.mem_cons_of_mem _ (h _ _ he n hn))

theorem namesOfAll_eq (es : List Expr) : namesOfAll es = es.flatMap names := by
  induction es with
  | nil => rfl
  | cons e es ih => rw [namesOfAll, ih, List.flatMap_cons]

theorem namesOfKeywords_eq (es : List (String × Expr)) :
    namesOfKeywords es = es.flatMap fun e => names e.2 := by
  induction es with
  | nil => rfl
  | cons e es ih => rw [namesOfKeywords, ih, List.flatMap_cons]

/-- The names of the arguments of a call, in the order in which the grammar has them. -/
theorem namesOfArgument_call (positional : List Expr) (keywords : List (String × Expr)) :
    (positional.map Sum.inl ++ keywords.map Sum.inr).flatMap namesOfArgument =
      namesOfAll positional ++ namesOfKeywords keywords := by
  rw [List.flatMap_append, List.flatMap_map, List.flatMap_map, namesOfAll_eq, namesOfKeywords_eq]
  rfl

/-! ## Levels -/

section Levels

variable (h : ∀ L, below = some L → L.Spells)

include h

theorem Atom.spells : (Atom below).Spells names := by
  intro ks e he n hn
  cases he with
  | name => simpa [names] using hn
  | parentheses hL he =>
    exact List.mem_append_left _ (List.mem_cons_of_mem _ ((h _ hL).conditional _ _ he n hn))
  | list hL hes =>
    rw [names, namesOfAll_eq] at hn
    exact List.mem_append_left _
      (List.mem_cons_of_mem _ (Items.spells (h _ hL).conditional _ _ hes n hn))
  | _ => simp [names] at hn

/-- A field is spelled behind its dot and is none of the names. -/
theorem Accessed.spells : (Accessed below).Spells names := by
  intro ks e he
  induction he with
  | atom he => exact Atom.spells h _ _ he
  | access _ _ ih =>
    intro n hn
    exact List.mem_append_left _ (ih n hn)
  | index _ hL hi ih =>
    intro n hn
    rw [names, List.mem_append] at hn
    rw [List.mem_append]
    exact hn.imp (ih n) fun hn =>
      List.mem_append_left _ (List.mem_cons_of_mem _ ((h _ hL).conditional _ _ hi n hn))
  | call _ hL ha ih =>
    intro n hn
    rw [names, List.mem_append, ← namesOfArgument_call] at hn
    rw [List.mem_append]
    exact hn.imp (ih n) fun hn => List.mem_append_left _ (List.mem_cons_of_mem _
      (Items.spells (Argument.spells (h _ hL).conditional) _ _ ha n hn))

theorem Signed.spells : (Signed below).Spells names := by
  rintro ks e (he | ⟨hL, he⟩ | ⟨hL, he⟩)
  · exact Accessed.spells h _ _ he
  · exact fun n hn => List.mem_cons_of_mem _ ((h _ hL).signed _ _ he n hn)
  · exact fun n hn => List.mem_cons_of_mem _ ((h _ hL).signed _ _ he n hn)

theorem Additive.spells : (Additive below).Spells names := by
  refine Chain.spells ?_ (Chain.spells ?_ (Signed.spells h))
  · rintro _ _ (_ | _) <;> exact fun _ _ => rfl
  · rintro _ _ (_ | _ | _ | _) <;> exact fun _ _ => rfl

theorem Negation.spells : (Negation below).Spells names := by
  rintro ks e (he | ⟨hL, he⟩)
  · exact Compared.spells (Additive.spells h) _ _ he
  · exact fun n hn => List.mem_cons_of_mem _ ((h _ hL).negation _ _ he n hn)

theorem Disjunction.spells : (Disjunction below).Spells names := by
  refine Chain.spells ?_ (Chain.spells ?_ (Negation.spells h))
  · rintro _ _ ⟨⟩
    exact fun _ _ => rfl
  · rintro _ _ ⟨⟩
    exact fun _ _ => rfl

theorem Conditional.spells : (Conditional below).Spells names := by
  rintro ks e (he | ⟨he, hL, hc, ha⟩)
  · exact Disjunction.spells h _ _ he
  · intro n hn
    rw [names, List.mem_append, List.mem_append] at hn
    rw [List.mem_append, List.cons_append, List.mem_cons, List.mem_append, List.mem_cons]
    rcases hn with hn | hn | hn
    · exact .inr (.inr (.inl ((h _ hL).disjunction _ _ hc n hn)))
    · exact .inl (Disjunction.spells h _ _ he n hn)
    · exact .inr (.inr (.inr (.inr ((h _ hL).conditional _ _ ha n hn))))

/-- A grammar spells its names if the one a level down does. -/
theorem Language.above_spells : (Language.above below).Spells where
  conditional := Conditional.spells h
  disjunction := Disjunction.spells h
  negation := Negation.spells h
  signed := Signed.spells h

end Levels

/-- On every nesting level the names in an expression are among its words. -/
theorem Language.ofDepth_spells (depth : Nat) : (Language.ofDepth depth).Spells := by
  induction depth with
  | zero => exact above_spells fun L hL => by simp at hL
  | succ depth ih =>
    refine above_spells fun L hL => ?_
    obtain rfl := Option.some.inj hL
    exact ih

/-- A name in an expression is one of the tokens that it is derived from. -/
theorem Derives.name_mem {depth : Nat} {ks : List Token.Kind} {e : Expr} (h : Derives depth ks e)
    (hn : n ∈ e.names) : .name n ∈ ks :=
  (Language.ofDepth_spells depth).conditional _ _ h n hn

/-! ## Words that are names -/

/-- No number is read as a name. -/
theorem ofNumber_ne_name {isFloat : Bool} {written : List Char} :
    Token.Kind.ofNumber isFloat written ≠ .ok (.name n) := by
  rw [Token.Kind.ofNumber]
  split
  · split <;> simp
  · split <;> simp

/-- A word that is no keyword is a name. -/
theorem isName_of_ofWord {c : Char} {cs : List Char} (hc : startsName c = true)
    (hcs : ∀ d ∈ cs, continuesName d = true)
    (h : Token.Kind.ofWord (String.ofList (c :: cs)) = .name n) : IsName n := by
  unfold Token.Kind.ofWord at h
  split at h
  · simp at h
  · next hnone =>
    obtain rfl := Token.Kind.name.inj h
    exact ⟨⟨c, cs, String.toList_ofList, hc, hcs⟩, hnone⟩

/-- A name is met in a text only as it is written. -/
theorem isName_of_takeToken {c : Char} {cs written rest : List Char}
    (h : takeToken c cs = .ok (.name n, written, rest)) : IsName n := by
  unfold takeToken at h
  split at h
  · split at h
    split at h
    · next hnumber =>
      obtain ⟨rfl, -⟩ := Prod.mk.inj (Except.ok.inj h)
      exact absurd hnumber ofNumber_ne_name
    · simp at h
  · split at h
    · next hc =>
      obtain ⟨hword, -⟩ := Prod.mk.inj (Except.ok.inj h)
      exact isName_of_ofWord hc (fun d hd => List.mem_takeWhile_imp hd) hword
    · split at h
      · split at h <;> simp at h
      · split at h <;> simp at h

/-- A name among the tokens of a text is a name by itself. -/
theorem isName_of_mem_tokensFrom {position : Nat} {cs : List Char} {ts : List Token}
    (h : tokensFrom position cs = .ok ts) (hn : .name n ∈ words ts) : IsName n := by
  fun_induction tokensFrom position cs generalizing ts with
  | case1 =>
    obtain rfl := Except.ok.inj h
    simp [words] at hn
  | case2 _ _ _ _ ih => exact ih h hn
  | case3 => simp at h
  | case4 => simp at h
  | case5 position c cs _ kind written rest htake tokens htokens ih =>
    obtain rfl := Except.ok.inj h
    rw [words_cons, List.mem_cons] at hn
    rcases hn with rfl | hn
    · exact isName_of_takeToken htake
    · exact ih htokens hn

/-- Whatever a text looks like, what is looked up for it are names. -/
theorem isName_of_mem_namesIn {text : String} (h : n ∈ namesIn text) : IsName n := by
  rw [namesIn] at h
  split at h
  · next e hp =>
    cases hts : tokens (Text.trimmed text) with
    | error err => simp [parse, hts, bind, Except.bind] at hp
    | ok ts =>
      have hderives := ((parse_eq_ok_iff_derives hts).1 e).1 hp
      exact isName_of_mem_tokensFrom hts (hderives.name_mem h)
  · simp at h

end Stencil.Expr

namespace Stencil.Segment

/-- What a segment reads from the context are names. -/
theorem isName_of_mem_namesRead {s : Segment} {n : String} (h : n ∈ s.namesRead) :
    Expr.IsName n := by
  cases s with
  | literal text => simp [namesRead] at h
  | expression text => exact Expr.isName_of_mem_namesIn h

end Stencil.Segment
