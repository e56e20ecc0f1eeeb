import Stencil.Proofs.Document.Links

/-!
# Moving nodes keeps links in agreement

Taking a node away from its parent and putting a lone node at the end of another each keep a
document well formed. A move is the one after the other.
-/

namespace Stencil.Document

variable {d d' : Document} {c m n p : Nat}

/-- What is left of the children around a node that is taken away. -/
theorem filter_ne_around {before after : List Nat} (h : (before ++ n :: after).Nodup) :
    (before ++ n :: after).filter (· ≠ n) = before ++ after := by
  have hn := List.nodup_middle.1 h
  rw [List.nodup_cons, List.mem_append, not_or] at hn
  simp only [List.filter_append, List.filter_cons, ne_eq, not_true_eq_false, decide_false,
    Bool.false_eq_true, if_false]
  rw [List.filter_eq_self.2, List.filter_eq_self.2]
  · intro x hx
    simpa using fun he : x = n => hn.1.2 (he ▸ hx)
  · intro x hx
    simpa using fun he : x = n => hn.1.1 (he ▸ hx)

/-- A list without repetition is cut in one way only at a member. -/
theorem append_cons_inj_of_nodup {a b a' b' : List Nat} (h : (a ++ c :: b).Nodup)
    (he : a ++ c :: b = a' ++ c :: b') : a = a' ∧ b = b' := by
  have hc := (List.nodup_cons.1 (List.nodup_middle.1 h)).1
  rw [List.mem_append, not_or] at hc
  obtain ⟨ha, -, hb⟩ := (List.append_cons_inj_of_notMem hc.1 hc.2).1 he
  exact ⟨ha, hb⟩

theorem getLast?_append_cons_eq_some {a b : List Nat} (h : c ∉ b) :
    (a ++ c :: b).getLast? = some c ↔ b = [] := by
  cases b with
  | nil => simp
  | cons x b =>
    rw [List.getLast?_append_of_ne_nil _ (List.cons_ne_nil _ _), List.getLast?_cons_cons]
    exact ⟨fun he => absurd (List.mem_of_getLast? he) h, fun he => absurd he (List.cons_ne_nil _ _)⟩

theorem head?_append_cons_eq_some {a b : List Nat} (h : c ∉ a) :
    (a ++ c :: b).head? = some c ↔ a = [] := by
  cases a with
  | nil => simp
  | cons x a => simpa using fun he : x = c => h (by simp [he])

namespace WellFormed

/-! ## Taking a node away -/

/-- Taking a node away joins the neighbours on both of its sides. -/
theorem neighbours_detach (h : d.WellFormed) (hp : (d.node n).parent = some p) {q : Nat}
    {before after : List Nat} (hq : ((d.detach n).node q).children = before ++ c :: after) :
    ((d.detach n).node c).previous = before.getLast? ∧
      ((d.detach n).node c).next = after.head? := by
  obtain ⟨l, r, hs⟩ := List.append_of_mem (h.mem_children.2 hp)
  have hnd := h.nodup_children (p := p)
  obtain ⟨hprev, hnext⟩ := h.neighbours p l n r hs
  have hc : c ∈ ((d.detach n).node q).children := by simp [hq]
  rw [children_detach hp] at hq hc
  have hcq : (d.node c).parent = some q := by
    refine h.mem_children.1 ?_
    split at hc
    · exact List.mem_of_mem_filter hc
    · exact hc
  have hsize := (h.lt_size_of_parent hcq).1
  rw [previous_detach hp, next_detach hp, hprev, hnext]
  by_cases hqp : q = p
  · subst hqp
    rw [hs] at hnd
    rw [if_pos rfl, hs, filter_ne_around hnd] at hq
    obtain ⟨hn, hnd'⟩ := List.nodup_cons.1 (List.nodup_middle.1 hnd)
    have hcn : c ≠ n := by
      rintro rfl
      exact hn (by simp [hq])
    rw [if_neg hcn, if_neg hcn]
    rcases List.mem_append.1 (show c ∈ l ++ r by simp [hq]) with hl | hr
    · obtain ⟨l₁, l₂, rfl⟩ := List.append_of_mem hl
      rw [List.append_assoc, List.cons_append] at hq hnd'
      obtain ⟨rfl, rfl⟩ := append_cons_inj_of_nodup hnd' hq
      obtain ⟨hc₁, hc₂⟩ := h.neighbours q l₁ c (l₂ ++ n :: r) (by simp [hs])
      have hmem := (List.nodup_cons.1 (List.nodup_middle.1 hnd')).1
      simp only [List.mem_append, not_or] at hmem
      rw [if_neg (fun he => hmem.2.2 (List.mem_of_head? he))]
      refine ⟨hc₁, ?_⟩
      simp only [getLast?_append_cons_eq_some hmem.2.1, hc₂]
      cases l₂ <;> simp [hsize]
    · obtain ⟨r₁, r₂, rfl⟩ := List.append_of_mem hr
      rw [← List.append_assoc] at hq hnd'
      obtain ⟨rfl, rfl⟩ := append_cons_inj_of_nodup hnd' hq
      obtain ⟨hc₁, hc₂⟩ := h.neighbours q (l ++ n :: r₁) c r₂ (by simp [hs])
      have hmem := (List.nodup_cons.1 (List.nodup_middle.1 hnd')).1
      simp only [List.mem_append, not_or] at hmem
      rw [if_neg (fun he => hmem.1.1 (List.mem_of_getLast? he))]
      refine ⟨?_, hc₂⟩
      simp only [head?_append_cons_eq_some hmem.1.2, hc₁]
      cases r₁ <;> simp [hsize, List.getLast?_append, List.getLast?_cons]
  · rw [if_neg hqp] at hq
    have hne : ∀ x ∈ (d.node p).children, x ≠ c := by
      rintro x hx rfl
      exact hqp (Option.some.inj (hcq.symm.trans (h.mem_children.1 hx)))
    have hr : r.head? ≠ some c := fun he =>
      hne c (by simp [hs, List.mem_of_head? he]) rfl
    have hl : l.getLast? ≠ some c := fun he =>
      hne c (by simp [hs, List.mem_of_getLast? he]) rfl
    have hcn : c ≠ n := fun he => hne n (by simp [hs]) he.symm
    rw [if_neg hr, if_neg hl, if_neg hcn, if_neg hcn]
    exact h.neighbours q before c after hq

theorem detach (h : d.WellFormed) (n : Nat) : (d.detach n).WellFormed := by
  cases hp : (d.node n).parent with
  | none => rwa [detach_of_parent_eq_none hp]
  | some p =>
    refine ⟨?_, ?_, ?_, ?_, ?_, ?_, ?_⟩
    · intro m
      rw [kind_detach, h.kind_eq_document]
    · intro q c
      rw [children_detach hp, parent_detach]
      by_cases hcn : c = n
      · subst hcn
        have hc : c ∉ (if q = p then (d.node q).children.filter (· ≠ c)
            else (d.node q).children) := by
          split
          · simp
          · rename_i hq
            rw [h.mem_children, hp]
            exact fun he => hq (Option.some.inj he).symm
        rw [List.count_eq_zero.2 hc]
        simp
      · rw [if_neg hcn, ← h.count_children]
        split
        · exact List.count_filter (by simpa using hcn)
        · rfl
    · intro q before c after hq
      exact h.neighbours_detach hp hq
    · intro m hm
      rw [parent_detach] at hm
      have hr : (d.node n).next ≠ some m := fun he => by
        obtain ⟨hm', hne⟩ := h.parent_of_neighbour hp (.inr he)
        simp [hne, hm'] at hm
      have hl : (d.node n).previous ≠ some m := fun he => by
        obtain ⟨hm', hne⟩ := h.parent_of_neighbour hp (.inl he)
        simp [hne, hm'] at hm
      rw [previous_detach hp, next_detach hp, if_neg hr, if_neg hl]
      split
      · exact ⟨rfl, rfl⟩
      · rename_i hmn
        exact h.apart m (by simpa [hmn] using hm)
    · rw [parent_detach, h.root_parent, ite_self]
    · intro m hm
      have ht : d.isText m := by simpa [isText] using hm
      rw [children_detach hp, h.children_of_isText m ht]
      simp
    · intro m
      obtain ⟨l, hl⟩ := h.ascent m
      induction hl with
      | last hm => exact ⟨_, .last (by rw [parent_detach, hm, ite_self])⟩
      | @step m q l hm _ ih =>
        by_cases hmn : m = n
        · exact ⟨_, .last (by rw [parent_detach, if_pos hmn])⟩
        · obtain ⟨l', hl'⟩ := ih
          exact ⟨_, .step (by rw [parent_detach, if_neg hmn, hm]) hl'⟩

/-! ## Putting a node at the end of another -/

/-- A node that is put at the end stands behind the last child, and nothing stands behind it. -/
theorem neighbours_attach (h : d.WellFormed) (hp : p < d.size) (hn : n < d.size)
    (hnp : (d.node n).parent = none) {q : Nat} {before after : List Nat}
    (hq : ((d.attach p n).node q).children = before ++ c :: after) :
    ((d.attach p n).node c).previous = before.getLast? ∧
      ((d.attach p n).node c).next = after.head? := by
  have hchild : ∀ q' x, x ∈ (d.node q').children → x ≠ n := by
    rintro q' x hx rfl
    simp [h.mem_children.1 hx] at hnp
  rw [previous_attach hn, next_attach hn]
  rw [children_attach hp] at hq
  by_cases hqp : q = p
  · subst hqp
    rw [if_pos rfl] at hq
    rcases List.eq_nil_or_concat after with rfl | ⟨after, x, rfl⟩
    · obtain ⟨rfl, hc⟩ := List.append_inj' hq rfl
      obtain rfl : n = c := by simpa using hc
      simp
    · rw [List.concat_eq_append, ← List.cons_append, ← List.append_assoc] at hq
      obtain ⟨hs, hx⟩ := List.append_inj' hq rfl
      obtain rfl : n = x := by simpa using hx
      obtain ⟨hc₁, hc₂⟩ := h.neighbours q before c after hs
      have hcq : c ∈ (d.node q).children := by simp [hs]
      have hcn : c ≠ n := hchild q c hcq
      have hcs : c < d.size := (h.lt_size_of_parent (h.mem_children.1 hcq)).1
      have hnd := h.nodup_children (p := q)
      rw [hs] at hnd
      have hca : c ∉ after := fun hm =>
        (List.nodup_cons.1 (List.nodup_middle.1 hnd)).1 (List.mem_append_right _ hm)
      simp only [if_neg hcn, hc₁, hc₂, hs, getLast?_append_cons_eq_some hca, hcs, and_true,
        List.concat_eq_append, true_and]
      cases after <;> simp
  · rw [if_neg hqp] at hq
    have hcq := h.mem_children.1 (show c ∈ (d.node q).children by simp [hq])
    have hcn : c ≠ n := hchild q c (by simp [hq])
    have hl : (d.node p).children.getLast? ≠ some c := fun he => by
      have := h.mem_children.1 (List.mem_of_getLast? he)
      exact hqp (Option.some.inj (hcq.symm.trans this))
    simpa [hcn, hl] using h.neighbours q before c after hq

theorem attach (h : d.WellFormed) (hp : p < d.size) (ht : d.isText p = false) (hn : n < d.size)
    (hr : n ≠ root) (hnp : (d.node n).parent = none) (hl : n ∉ d.lineage p) :
    (d.attach p n).WellFormed := by
  refine ⟨?_, ?_, ?_, ?_, ?_, ?_, ?_⟩
  · intro m
    rw [kind_attach, h.kind_eq_document]
  · intro q c
    rw [children_attach hp, parent_attach hn]
    by_cases hcn : c = n
    · subst hcn
      have hc : (d.node q).children.count c = 0 := by rw [h.count_children, hnp, if_neg (by simp)]
      by_cases hqp : q = p
      · simp [hqp, hqp ▸ hc, List.count_append]
      · simp [hqp, Ne.symm hqp, hc]
    · rw [if_neg hcn, ← h.count_children]
      split
      · simp [List.count_append, Ne.symm hcn]
      · rfl
  · intro q before c after hq
    exact h.neighbours_attach hp hn hnp hq
  · intro m hm
    rw [parent_attach hn] at hm
    have hmn : m ≠ n := by
      rintro rfl
      simp at hm
    rw [if_neg hmn] at hm
    have hlast : (d.node p).children.getLast? ≠ some m := fun he => by
      simp [h.mem_children.1 (List.mem_of_getLast? he)] at hm
    rw [previous_attach hn, next_attach hn]
    simpa [hmn, hlast] using h.apart m hm
  · rw [parent_attach hn, if_neg (Ne.symm hr), h.root_parent]
  · intro m hm
    have hm' : d.isText m := by simpa [isText] using hm
    have hmp : m ≠ p := by
      rintro rfl
      simp [hm'] at ht
    rw [children_attach hp, if_neg hmp, h.children_of_isText m hm']
  · intro m
    obtain ⟨l, hlm⟩ := h.ascent m
    have hpl : (d.attach p n).Ascent p (d.lineage p) := (h.ascent_lineage p).congr fun x hx => by
      rw [parent_attach hn, if_neg (ne_of_mem_of_not_mem hx hl)]
    induction hlm with
    | @last m hm =>
      by_cases hmn : m = n
      · exact ⟨_, .step (by rw [parent_attach hn, if_pos hmn]) hpl⟩
      · exact ⟨_, .last (by rw [parent_attach hn, if_neg hmn, hm])⟩
    | @step m q l hm _ ih =>
      by_cases hmn : m = n
      · exact ⟨_, .step (by rw [parent_attach hn, if_pos hmn]) hpl⟩
      · obtain ⟨l', hl'⟩ := ih
        exact ⟨_, .step (by rw [parent_attach hn, if_neg hmn, hm]) hl'⟩

end WellFormed

end Stencil.Document
