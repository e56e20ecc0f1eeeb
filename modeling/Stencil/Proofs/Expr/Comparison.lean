import Stencil.Proofs.Expr.Reading

/-!
# Reading comparisons

Two comparison operators take two words. The first of them alone is an operator too, or `not`; but
no operand begins with `not`, so that taking two words where one can is never wrong.
-/

namespace Stencil.Expr

open Stencil.Expr.Parser

variable {operand : Reader Expr} {phrase : Phrase Expr} {op : CompareOp} {e : Expr}
  {ks : List Token.Kind} {cs : List (CompareOp × Expr)} {ts us r : List Token}

/-! ## Operators -/

theorem begins_compares : Begins (fun k => k.rank = 4) Compares := by
  rintro ks op (_ | _ | _ | _ | _ | _ | _ | _ | _ | _)
  all_goals exact ⟨_, _, rfl, rfl⟩

/-- An operator that is found at the front stands there. -/
theorem Compares.of_eq_some {hr : r.length < ts.length} (h : compareOp? ts = some (op, ⟨r, hr⟩)) :
    ∃ us, ts = us ++ r ∧ Compares (words us) op := by
  unfold compareOp? at h
  split at h
  · cases h; exact ⟨[_], rfl, .eq⟩
  · cases h; exact ⟨[_], rfl, .ne⟩
  · cases h; exact ⟨[_], rfl, .lt⟩
  · cases h; exact ⟨[_], rfl, .le⟩
  · cases h; exact ⟨[_], rfl, .gt⟩
  · cases h; exact ⟨[_], rfl, .ge⟩
  · cases h; exact ⟨[_], rfl, .within⟩
  · cases h; exact ⟨[_, _], rfl, .notSame⟩
  · cases h; exact ⟨[_], rfl, .same⟩
  · cases h; exact ⟨[_, _], rfl, .notWithin⟩
  · cases h

/-- The words of an operator are taken whole if no `not` follows. -/
theorem Compares.eq_some (h : Compares (words us) op)
    (hr : ∀ t ∈ r.head?, t.kind ≠ .keyword .not) :
    ∃ h, compareOp? (us ++ r) = some (op, ⟨r, h⟩) := by
  generalize hw : words us = ks at h
  cases h with
  | notWithin | notSame =>
    obtain ⟨_, vs, rfl, hv⟩ := exists_of_words_eq_cons hw
    obtain ⟨_, ws, rfl, hw'⟩ := exists_of_words_eq_cons hv
    obtain rfl := List.map_eq_nil_iff.1 hw'
    exact ⟨_, rfl⟩
  | same =>
    obtain ⟨_, vs, rfl, hv⟩ := exists_of_words_eq_cons hw
    obtain rfl := List.map_eq_nil_iff.1 hv
    refine ⟨by simp, ?_⟩
    -- Which operator it is depends on the second word.
    rcases r with _ | ⟨⟨k, _⟩, r⟩
    · rfl
    · cases k with
      | keyword w =>
        cases w with
        | not => exact absurd rfl (hr _ rfl)
        | _ => rfl
      | _ => rfl
  | _ =>
    obtain ⟨_, vs, rfl, hv⟩ := exists_of_words_eq_cons hw
    obtain rfl := List.map_eq_nil_iff.1 hv
    exact ⟨_, rfl⟩

/-- Where comparisons stop, there is no operator. -/
theorem compareOp?_eq_none (hr : Stops 4 r) : compareOp? r = none := by
  cases h : compareOp? r with
  | none => rfl
  | some y =>
    obtain ⟨op, s, hs⟩ := y
    obtain ⟨us, rfl, hop⟩ := Compares.of_eq_some h
    obtain ⟨k, vs, hk, hrank⟩ := begins_compares _ _ hop
    obtain ⟨position, us', rfl, -⟩ := exists_of_words_eq_cons hk
    simp [hrank] at hr

/-! ## Chains of comparisons -/

theorem yields_comparisons_of_none (h : compareOp? ts = none) :
    Yields (comparisons operand ts) cs r ↔ [] = cs ∧ ts = r := by
  rw [comparisons, h, yields_ok]

theorem yields_comparisons_of_some {s : List Token} {hs : s.length < ts.length}
    (h : compareOp? ts = some (op, ⟨s, hs⟩)) :
    Yields (comparisons operand ts) cs r ↔
      ∃ e r', Yields (operand s) e r' ∧
        ∃ more, Yields (comparisons operand r') more r ∧ (op, e) :: more = cs := by
  rw [comparisons, h]
  exact yields_bind_iff fun e _ _ => yields_bind_map ((op, e) :: ·) fun _ _ _ => ⟨_, rfl⟩

theorem yields_compared :
    Yields (compared operand ts) e r ↔
      ∃ first r', Yields (operand ts) first r' ∧
        ∃ more, Yields (comparisons operand r') more r ∧
          (if more.isEmpty then first else .compare first more) = e :=
  yields_bind_iff fun first _ _ =>
    yields_bind_map (fun more => if more.isEmpty then first else .compare first more)
      fun _ _ _ => ⟨_, rfl⟩

/-- Comparisons that are read are there. -/
theorem Comparisons.of_yields (ho : Reads 3 operand phrase)
    (h : Yields (comparisons operand ts) cs r) :
    ∃ us, ts = us ++ r ∧ Comparisons phrase (words us) cs := by
  induction hn : ts.length using Nat.strongRecOn generalizing ts cs with
  | ind n ih =>
    cases hop : compareOp? ts with
    | none =>
      obtain ⟨rfl, rfl⟩ := (yields_comparisons_of_none hop).1 h
      exact ⟨[], rfl, .nil⟩
    | some y =>
      obtain ⟨op, s, hs⟩ := y
      obtain ⟨e, r', he, more, hmore, rfl⟩ := (yields_comparisons_of_some hop).1 h
      obtain ⟨us, rfl, hop'⟩ := Compares.of_eq_some hop
      obtain ⟨vs, rfl, he'⟩ := ho.sound he
      have hlt : r'.length < n := by
        simp only [List.length_append] at hs hn
        omega
      obtain ⟨ws, rfl, hmore'⟩ := ih _ hlt hmore rfl
      exact ⟨us ++ vs ++ ws, by simp, by simpa using Comparisons.cons hop' he' hmore'⟩

/-- What follows an operand in a chain of comparisons does not go on with it. -/
theorem Comparisons.stops (h : Comparisons phrase (words us) cs) (hr : Stops 4 r) :
    Stops 3 (us ++ r) := by
  generalize hw : words us = ks at h
  cases h with
  | nil =>
    obtain rfl := List.map_eq_nil_iff.1 hw
    exact hr.mono (by omega)
  | cons hop _ _ =>
    rw [List.append_assoc] at hw
    obtain ⟨k, vs, hk, hrank⟩ := begins_compares.append hop _
    obtain ⟨position, us', rfl, -⟩ := exists_of_words_eq_cons (hw.trans hk)
    simp [hrank]

/-- Comparisons that are there are read, up to where they stop. -/
theorem Comparisons.yields (ho : Reads 3 operand phrase) (hb : Begins opensOperand phrase)
    (h : Comparisons phrase ks cs) (hw : words us = ks) (hr : Stops 4 r) :
    Yields (comparisons operand (us ++ r)) cs r := by
  induction h generalizing us with
  | nil =>
    obtain rfl := List.map_eq_nil_iff.1 hw
    exact (yields_comparisons_of_none (compareOp?_eq_none hr)).2 ⟨rfl, rfl⟩
  | @cons ks vs ws op e cs hop he hcs ih =>
    obtain ⟨us', us₃, rfl, hw', rfl⟩ := List.map_eq_append_iff.1 hw
    obtain ⟨us₁, us₂, rfl, rfl, rfl⟩ := List.map_eq_append_iff.1 hw'
    have hnot : ∀ t ∈ (us₂ ++ (us₃ ++ r)).head?, t.kind ≠ .keyword .not :=
      hb.ne he (by simp [opensOperand, opensAtom])
    obtain ⟨hlt, hsome⟩ := hop.eq_some hnot
    rw [List.append_assoc, List.append_assoc]
    exact (yields_comparisons_of_some hsome).2
      ⟨e, _, ho.complete he (hcs.stops hr), cs, ih rfl, rfl⟩

/-- Compared operands are read as such. -/
theorem Reads.compared (ho : Reads 3 operand phrase) (hb : Begins opensOperand phrase) :
    Reads 4 (compared operand) (Compared phrase) where
  sound h := by
    obtain ⟨first, r', hfirst, more, hmore, rfl⟩ := yields_compared.1 h
    obtain ⟨us, rfl, hfirst'⟩ := ho.sound hfirst
    obtain ⟨vs, rfl, hmore'⟩ := Comparisons.of_yields ho hmore
    refine ⟨us ++ vs, by simp, ?_⟩
    generalize hw : words vs = ks at hmore'
    cases hmore' with
    | nil =>
      obtain rfl := List.map_eq_nil_iff.1 hw
      simpa using Compared.alone hfirst'
    | cons hop he hcs =>
      rw [words_append, hw]
      exact .chain hfirst' (.cons hop he hcs) (List.cons_ne_nil _ _)
  complete {us e r} h hr := by
    generalize hw : words us = ks at h
    refine yields_compared.2 ?_
    cases h with
    | alone h =>
      subst hw
      refine ⟨e, r, ho.complete h (hr.mono (by omega)), [], ?_, rfl⟩
      exact (yields_comparisons_of_none (compareOp?_eq_none hr)).2 ⟨rfl, rfl⟩
    | @chain ks vs first more h hmore hne =>
      obtain ⟨us, vs, rfl, rfl, rfl⟩ := List.map_eq_append_iff.1 hw
      rw [List.append_assoc]
      refine ⟨first, _, ho.complete h (hmore.stops hr), more, hmore.yields ho hb rfl hr, ?_⟩
      simp [hne]

end Stencil.Expr
