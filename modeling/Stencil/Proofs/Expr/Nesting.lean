import Stencil.Proofs.Expr.Grammar

/-!
# More nesting

What words stand for does not change when more may be nested (`Derives.mono`): every phrase of a
level grows with the language below it.
-/

namespace Stencil.Expr

variable {α : Type} {p q : Phrase α} {operand operand' : Phrase Expr} {join : Operators}
  {below below' : Option Language} {L L' : Language} {ks : List Token.Kind} {e : Expr}

/-- Everything that stands for something in one phrase does in another. -/
def Phrase.Within (p q : Phrase α) : Prop := ∀ ks a, p ks a → q ks a

/-- A language within another one. -/
structure Language.Within (L L' : Language) : Prop where
  conditional : Phrase.Within L.conditional L'.conditional
  disjunction : Phrase.Within L.disjunction L'.disjunction
  negation : Phrase.Within L.negation L'.negation
  signed : Phrase.Within L.signed L'.signed

/-! ## Operands -/

/-- A chain takes its operands from a larger language if they are there. -/
theorem Chain.within (h : Phrase.Within operand operand') :
    Phrase.Within (Chain join operand) (Chain join operand') := by
  intro ks e he
  induction he with
  | one he => exact .one (h _ _ he)
  | more _ hk hr ih => exact .more ih hk (h _ _ hr)

theorem Comparisons.within (h : Phrase.Within operand operand') :
    Phrase.Within (Comparisons operand) (Comparisons operand') := by
  intro ks cs hcs
  induction hcs with
  | nil => exact .nil
  | cons ho he _ ih => exact .cons ho (h _ _ he) ih

theorem Compared.within (h : Phrase.Within operand operand') :
    Phrase.Within (Compared operand) (Compared operand') := by
  rintro ks e (he | ⟨he, hr, hne⟩)
  · exact .alone (h _ _ he)
  · exact .chain (h _ _ he) (Comparisons.within h _ _ hr) hne

theorem Items.within (h : Phrase.Within p q) : Phrase.Within (Items p) (Items q) := by
  intro ks as has
  induction has with
  | nil => exact .nil
  | last ha => exact .last (h _ _ ha)
  | cons ha _ ih => exact .cons (h _ _ ha) ih

theorem Argument.within (h : Phrase.Within operand operand') :
    Phrase.Within (Argument operand) (Argument operand') := by
  rintro ks a (he | ⟨n, he⟩)
  · exact .positional (h _ _ he)
  · exact .keyword n (h _ _ he)

/-! ## Levels -/

section Levels

variable (h : ∀ L, below = some L → ∃ L', below' = some L' ∧ L.Within L')

include h

/-- An atom of a language is one of any larger language: only brackets look at the level below. -/
theorem Atom.within : Phrase.Within (Atom below) (Atom below') := by
  intro ks e he
  cases he with
  | parentheses hL he =>
    obtain ⟨L', hL', hw⟩ := h _ hL
    exact .parentheses hL' (hw.conditional _ _ he)
  | list hL hes =>
    obtain ⟨L', hL', hw⟩ := h _ hL
    exact .list hL' (Items.within hw.conditional _ _ hes)
  | _ => constructor

/-- Indices and arguments are the only parts of an operand that lie on the level below. -/
theorem Accessed.within : Phrase.Within (Accessed below) (Accessed below') := by
  intro ks e he
  induction he with
  | atom he => exact .atom (Atom.within h _ _ he)
  | access _ field ih => exact .access ih field
  | index _ hL hi ih =>
    obtain ⟨L', hL', hw⟩ := h _ hL
    exact .index ih hL' (hw.conditional _ _ hi)
  | call _ hL ha ih =>
    obtain ⟨L', hL', hw⟩ := h _ hL
    exact .call ih hL' (Items.within (Argument.within hw.conditional) _ _ ha)

theorem Signed.within : Phrase.Within (Signed below) (Signed below') := by
  rintro ks e (he | ⟨hL, he⟩ | ⟨hL, he⟩)
  · exact .plain (Accessed.within h _ _ he)
  · obtain ⟨L', hL', hw⟩ := h _ hL
    exact .neg hL' (hw.signed _ _ he)
  · obtain ⟨L', hL', hw⟩ := h _ hL
    exact .pos hL' (hw.signed _ _ he)

theorem Negation.within : Phrase.Within (Negation below) (Negation below') := by
  rintro ks e (he | ⟨hL, he⟩)
  · exact .plain (Compared.within (Chain.within (Chain.within (Signed.within h))) _ _ he)
  · obtain ⟨L', hL', hw⟩ := h _ hL
    exact .not hL' (hw.negation _ _ he)

theorem Disjunction.within : Phrase.Within (Disjunction below) (Disjunction below') :=
  Chain.within (Chain.within (Negation.within h))

/-- A whole expression is one in any larger language. -/
theorem Conditional.within : Phrase.Within (Conditional below) (Conditional below') := by
  rintro ks e (he | ⟨he, hL, hc, ha⟩)
  · exact .plain (Disjunction.within h _ _ he)
  · obtain ⟨L', hL', hw⟩ := h _ hL
    exact .tail (Disjunction.within h _ _ he) hL' (hw.disjunction _ _ hc) (hw.conditional _ _ ha)

/-- More below gives more above. -/
theorem Language.above_within : (Language.above below).Within (.above below') where
  conditional := Conditional.within h
  disjunction := Disjunction.within h
  negation := Negation.within h
  signed := Signed.within h

end Levels

/-- One level more allows no less. -/
theorem Language.ofDepth_within_succ (depth : Nat) :
    (Language.ofDepth depth).Within (.ofDepth (depth + 1)) := by
  induction depth with
  | zero => exact above_within fun L hL => by simp at hL
  | succ depth ih =>
    refine above_within fun L hL => ?_
    obtain rfl := Option.some.inj hL
    exact ⟨_, rfl, ih⟩

/-- Words keep what they stand for when more may be nested. -/
theorem Derives.mono {depth depth' : Nat} (h : Derives depth ks e) (hd : depth ≤ depth') :
    Derives depth' ks e := by
  induction hd with
  | refl => exact h
  | step _ ih => exact (Language.ofDepth_within_succ _).conditional _ _ ih

end Stencil.Expr
