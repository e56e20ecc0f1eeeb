import Stencil.Proofs.Expr.Reading

/-!
# Reading chains

Chains of operands are read by loops. What a loop makes of an operand and of what follows is what it
makes of a whole chain and of what follows that (`Chain.step`); so it cannot but read the chain.
-/

namespace Stencil.Expr

open Stencil.Expr.Parser

variable {level : Nat} {operand : Reader Expr} {phrase : Phrase Expr} {join : Joiner}
  {operators : Operators} {left e : Expr} {t : Token} {ts us r s : List Token}

/-! ## Operators -/

/-- A joiner knows the operators of a level. -/
structure Joins (level : Nat) (join : Joiner) (operators : Operators) : Prop where
  iff : ∀ {k f}, join k = some f ↔ operators k f
  rank_eq : ∀ {k f}, operators k f → k.rank = level

/-- The parser joins disjunctions by the operators that the grammar has for them. -/
theorem joins_or : Joins 6 orJoiner Operators.Or where
  iff {k f} := by
    constructor
    · intro h
      unfold orJoiner at h
      split at h
      all_goals cases h
      all_goals constructor
    · rintro ⟨⟩
      rfl
  rank_eq := by rintro _ _ ⟨⟩; rfl

theorem joins_and : Joins 5 andJoiner Operators.And where
  iff {k f} := by
    constructor
    · intro h
      unfold andJoiner at h
      split at h
      all_goals cases h
      all_goals constructor
    · rintro ⟨⟩
      rfl
  rank_eq := by rintro _ _ ⟨⟩; rfl

theorem joins_sum : Joins 3 sumJoiner Operators.Sum where
  iff {k f} := by
    constructor
    · intro h
      unfold sumJoiner at h
      split at h
      all_goals cases h
      all_goals constructor
    · rintro (_ | _) <;> rfl
  rank_eq := by rintro _ _ (_ | _) <;> rfl

theorem joins_product : Joins 2 productJoiner Operators.Product where
  iff {k f} := by
    constructor
    · intro h
      unfold productJoiner at h
      split at h
      all_goals cases h
      all_goals constructor
    · rintro (_ | _ | _ | _) <;> rfl
  rank_eq := by rintro _ _ (_ | _ | _ | _) <;> rfl

/-! ## Chains -/

/-- A chain ends where no operator follows. -/
theorem yields_chain_of_none (h : ∀ t ∈ ts.head?, join t.kind = none) :
    Yields (chain operand join left ts) e r ↔ left = e ∧ ts = r := by
  cases ts with
  | nil => rw [chain, yields_ok]
  | cons t ts =>
    rw [chain, h t rfl]
    exact yields_ok

/-- After an operator there is another operand, and the chain goes on from both. -/
theorem yields_chain_of_some {f : Expr → Expr → Expr} (h : join t.kind = some f) :
    Yields (chain operand join left (t :: ts)) e r ↔
      ∃ right r', Yields (operand ts) right r' ∧
        Yields (chain operand join (f left right) r') e r := by
  rw [chain, h]
  refine yields_bind_iff fun right r' _ => ?_
  exact yields_bind_self fun _ _ _ => ⟨_, rfl⟩

theorem yields_chained :
    Yields (chained operand join ts) e r ↔
      ∃ first r', Yields (operand ts) first r' ∧ Yields (chain operand join first r') e r := by
  refine yields_bind_iff fun first r' _ => ?_
  exact yields_bind_self fun _ _ _ => ⟨_, rfl⟩

/-- A loop that starts behind a chain ends behind a chain. -/
theorem Chain.of_yields (hj : Joins (level + 1) join operators) (ho : Reads level operand phrase)
    {ks : List Token.Kind} (hl : Chain operators phrase ks left)
    (h : Yields (chain operand join left ts) e r) :
    ∃ us, ts = us ++ r ∧ Chain operators phrase (ks ++ words us) e := by
  induction hn : ts.length using Nat.strongRecOn generalizing ks left ts with
  | ind n ih =>
    cases ts with
    | nil =>
      obtain ⟨rfl, rfl⟩ := (yields_chain_of_none (by simp)).1 h
      exact ⟨[], rfl, by simpa using hl⟩
    | cons t ts =>
      cases hk : join t.kind with
      | none =>
        obtain ⟨rfl, rfl⟩ := (yields_chain_of_none (by simpa using hk)).1 h
        exact ⟨[], rfl, by simpa using hl⟩
      | some f =>
        obtain ⟨right, r', hr, hrest⟩ := (yields_chain_of_some hk).1 h
        obtain ⟨us, rfl, hright⟩ := ho.sound hr
        have hlt : r'.length < n := by
          rw [← hn, List.length_cons, List.length_append]
          omega
        obtain ⟨vs, rfl, he⟩ := ih _ hlt (hl.more (hj.iff.1 hk) hright) hrest rfl
        exact ⟨t :: us ++ vs, by simp, by simpa using he⟩

/-- What a loop makes of a chain that was read, it makes of the first operand before. -/
theorem Chain.step (hj : Joins (level + 1) join operators) (ho : Reads level operand phrase)
    {ks : List Token.Kind} (h : Chain operators phrase ks e) (hw : words us = ks)
    (hr : Stops level r) :
    ∃ first r', Yields (operand (us ++ r)) first r' ∧
      ∀ {e' s}, Yields (chain operand join e r) e' s →
        Yields (chain operand join first r') e' s := by
  induction h generalizing us r with
  | one h => exact ⟨_, _, ho.complete (hw ▸ h) hr, id⟩
  | @more ks vs k f left right hl hk hright ih =>
    obtain ⟨us, us', rfl, hks, hw⟩ := List.map_eq_append_iff.1 hw
    obtain ⟨t, us', rfl, rfl, rfl⟩ := List.map_eq_cons_iff.1 hw
    have hstop : Stops level (t :: us' ++ r) := by
      simp [hj.rank_eq hk]
    obtain ⟨first, r', hfirst, hstep⟩ := ih hks hstop
    rw [List.append_assoc]
    refine ⟨first, r', hfirst, fun he => hstep ?_⟩
    exact (yields_chain_of_some (hj.iff.2 hk)).2 ⟨right, r, ho.complete hright hr, he⟩

/-- A chain of operands is read as such. -/
theorem Reads.chained (ho : Reads level operand phrase) (hj : Joins (level + 1) join operators) :
    Reads (level + 1) (chained operand join) (Chain operators phrase) where
  sound h := by
    obtain ⟨first, r', hfirst, hrest⟩ := yields_chained.1 h
    obtain ⟨us, rfl, he⟩ := ho.sound hfirst
    obtain ⟨vs, rfl, he⟩ := Chain.of_yields hj ho (.one he) hrest
    exact ⟨us ++ vs, by simp, by simpa using he⟩
  complete h hr := by
    obtain ⟨first, r', hfirst, hstep⟩ := h.step hj ho rfl (hr.mono (Nat.le_succ level))
    refine yields_chained.2 ⟨first, r', hfirst, hstep ((yields_chain_of_none ?_).2 ⟨rfl, rfl⟩)⟩
    intro t ht
    cases hk : join t.kind with
    | none => rfl
    | some f => exact absurd (hr t ht) (by simp [hj.rank_eq (hj.iff.1 hk)])

end Stencil.Expr
