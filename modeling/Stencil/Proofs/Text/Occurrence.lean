import Stencil.Text.Occurrence

/-!
# What stands before a first occurrence

A text may overlap the start of what follows it, so that it is not enough for a needle to be missing
in the text before it: in `x---y` the first `--` stands behind `x`, though `x-` does not hold it.
What the split at a first occurrence needs is that the needle behind a text is found there and no
earlier (`FirstBehind`).
-/

namespace Stencil.Text

variable {needle value cs before after : List Char} {c : Char} {n : Nat}

/-- In a text with the needle behind it, the needle first occurs right behind the text. -/
def FirstBehind (needle value : List Char) : Prop :=
  ∀ n < value.length, ¬ needle <+: (value ++ needle).drop n

instance : Decidable (FirstBehind needle value) :=
  inferInstanceAs (Decidable (∀ n < value.length, ¬ needle <+: (value ++ needle).drop n))

@[simp] theorem firstBehind_nil : FirstBehind needle [] := fun _ hn => absurd hn (Nat.not_lt_zero _)

theorem firstBehind_cons :
    FirstBehind needle (c :: value) ↔
      ¬ needle <+: c :: (value ++ needle) ∧ FirstBehind needle value := by
  constructor
  · intro h
    exact ⟨h 0 (Nat.succ_pos _), fun n hn => h (n + 1) (Nat.succ_lt_succ hn)⟩
  · rintro ⟨h₀, h⟩ (_ | n) hn
    · exact h₀
    · exact h n (Nat.lt_of_succ_lt_succ hn)

/-- One character cannot overlap what is before it. -/
theorem firstBehind_singleton : FirstBehind [c] value ↔ c ∉ value := by
  induction value with
  | nil => simp
  | cons d value ih => simp [firstBehind_cons, ih]

/-- Whether a needle is found at some place does not depend on what follows a later one. -/
theorem prefix_cons_append_iff :
    needle <+: c :: (value ++ needle ++ after) ↔ needle <+: c :: (value ++ needle) := by
  have hbefore : c :: (value ++ needle) <+: c :: (value ++ needle ++ after) :=
    List.prefix_append (c :: (value ++ needle)) after
  constructor
  · intro h
    refine List.prefix_of_prefix_length_le h hbefore ?_
    simp only [List.length_cons, List.length_append]
    omega
  · exact fun h => h.trans hbefore

/-- The split at the first occurrence of a needle is the one in which it is not found earlier. -/
theorem splitAtFirst?_eq_some_iff :
    splitAtFirst? needle cs = some (before, after) ↔
      cs = before ++ needle ++ after ∧ FirstBehind needle before := by
  induction cs generalizing before with
  | nil =>
    rw [splitAtFirst?]
    constructor
    · intro h
      split at h <;> simp_all
    · rintro ⟨h, -⟩
      simp_all
  | cons c cs ih =>
    rw [splitAtFirst?]
    split
    · next hfound =>
      obtain ⟨t, ht⟩ := List.isPrefixOf_iff_prefix.1 hfound
      rw [← ht, List.drop_left, Option.some.injEq, Prod.mk.injEq]
      constructor
      · rintro ⟨rfl, rfl⟩
        simp
      · rintro ⟨h, hfirst⟩
        cases before with
        | nil => exact ⟨rfl, by simpa using h⟩
        | cons b before =>
          have hfound : needle <+: b :: (before ++ needle ++ after) := ⟨t, by simpa using h⟩
          exact absurd (prefix_cons_append_iff.1 hfound) (firstBehind_cons.1 hfirst).1
    · next hnot =>
      rw [List.isPrefixOf_iff_prefix] at hnot
      rw [Option.map_eq_some_iff]
      constructor
      · rintro ⟨⟨b, a⟩, hba, heq⟩
        obtain ⟨rfl, rfl⟩ := Prod.mk.inj heq
        obtain ⟨rfl, hfirst⟩ := ih.1 hba
        exact ⟨rfl, firstBehind_cons.2 ⟨fun h => hnot (prefix_cons_append_iff.2 h), hfirst⟩⟩
      · rintro ⟨h, hfirst⟩
        cases before with
        | nil => exact absurd ⟨after, by simpa using h.symm⟩ hnot
        | cons b before =>
          obtain ⟨rfl, rfl⟩ := List.cons.inj h
          exact ⟨(before, after), ih.2 ⟨rfl, (firstBehind_cons.1 hfirst).2⟩, rfl⟩

/-- A needle may overlap the end of a text that does not hold it. -/
example : ¬ FirstBehind "--".toList "x-".toList := by decide

end Stencil.Text
