import Mathlib.Data.List.Induction
import Stencil.Value.Equality

/-!
# Distinct items

A set is built by going through the items and dropping each that equals one kept so far. What is
kept is a sublist in which no item equals a later one (`pairwise_distinct`), and of such a list all
items are kept (`distinct_eq_self`). Nothing here depends on equality being symmetric or transitive.

Sets are compared by length and in one direction. What this says about the other direction is a
matter of counting: if each item of a list is matched by one of another list, and no two items by
the same one, then the other list is at least as long (`length_le_of_matched`), and if it is not
longer, all of its items match one (`exists_of_matched`).
-/

namespace Stencil.Value

variable {v w : Value} {xs ys : List Value}

theorem within_iff : v.within xs = true ↔ ∃ w ∈ xs, equal w v = true := by
  rw [within_eq_any, List.any_eq_true]

theorem coveredBy_iff : coveredBy xs ys = true ↔ ∀ v ∈ xs, ∃ w ∈ ys, equal w v = true := by
  rw [coveredBy_eq_all, List.all_eq_true]
  simp only [within_iff]

/-! ## Items kept by a set -/

theorem distinct_append_singleton (xs : List Value) (v : Value) :
    distinct (xs ++ [v]) = if v.within (distinct xs) then distinct xs else distinct xs ++ [v] :=
  List.foldl_append

theorem distinct_sublist (xs : List Value) : (distinct xs).Sublist xs := by
  induction xs using List.reverseRecOn with
  | nil => exact .slnil
  | append_singleton xs v ih =>
    rw [distinct_append_singleton]
    split
    · exact ih.trans (List.sublist_append_left xs [v])
    · exact ih.append (.refl [v])

/-- No item of a set equals a later one. -/
theorem pairwise_distinct (xs : List Value) :
    (distinct xs).Pairwise fun v w => ¬equal v w = true := by
  induction xs using List.reverseRecOn with
  | nil => exact .nil
  | append_singleton xs v ih =>
    rw [distinct_append_singleton]
    split
    next => exact ih
    next hnew =>
      rw [within_iff] at hnew
      rw [List.pairwise_append]
      refine ⟨ih, List.pairwise_singleton _ v, ?_⟩
      intro w hw u hu
      rw [List.mem_singleton.1 hu]
      exact fun heq => hnew ⟨w, hw, heq⟩

/-- What is kept stays kept. -/
theorem distinct_subset_append (xs : List Value) (v : Value) :
    distinct xs ⊆ distinct (xs ++ [v]) := by
  rw [distinct_append_singleton]
  split
  · exact List.Subset.refl _
  · exact List.subset_append_left _ [v]

/-- An item is kept, or equals one that was kept before. -/
theorem mem_distinct_or (hv : v ∈ xs) :
    v ∈ distinct xs ∨ ∃ w ∈ distinct xs, equal w v = true := by
  induction xs using List.reverseRecOn with
  | nil => cases hv
  | append_singleton xs u ih =>
    have hkept := distinct_subset_append xs u
    rcases List.mem_append.1 hv with hv | hv
    · rcases ih hv with hv | ⟨w, hw, heq⟩
      · exact .inl (hkept hv)
      · exact .inr ⟨w, hkept hw, heq⟩
    · obtain rfl := List.mem_singleton.1 hv
      rw [distinct_append_singleton]
      split
      next hold => exact .inr (within_iff.1 hold)
      next => exact .inl (List.mem_append_right _ (List.mem_singleton_self v))

/-- Items of which none equals a later one are all kept. -/
theorem distinct_eq_self (h : xs.Pairwise fun v w => ¬equal v w = true) : distinct xs = xs := by
  induction xs using List.reverseRecOn with
  | nil => rfl
  | append_singleton xs v ih =>
    obtain ⟨hxs, -, hv⟩ := List.pairwise_append.1 h
    have hnew : ¬v.within xs = true := by
      rw [within_iff]
      rintro ⟨w, hw, heq⟩
      exact hv w hw v (List.mem_singleton_self v) heq
    rw [distinct_append_singleton, ih hxs, if_neg hnew]

/-! ## Counting matched items -/

section Matched

variable {α β : Type} {R : β → α → Prop} {as : List α} {b : β} {bs front back : List β}

theorem subset_without : front ++ back ⊆ front ++ b :: back :=
  ((List.sublist_cons_self b back).append_left front).subset

/-- One that matches nothing can be left out. -/
theorem matched_without (hmatched : ∀ a ∈ as, ∃ b' ∈ front ++ b :: back, R b' a)
    (hb : ∀ a ∈ as, ¬R b a) : ∀ a ∈ as, ∃ b' ∈ front ++ back, R b' a := by
  intro a ha
  obtain ⟨b', hb', hba⟩ := hmatched a ha
  refine ⟨b', ?_, hba⟩
  rcases List.mem_append.1 hb' with h | h
  · exact List.mem_append_left back h
  · rcases List.mem_cons.1 h with rfl | h
    · exact absurd hba (hb a ha)
    · exact List.mem_append_right front h

/-- Where no two items are matched by the same one, there are at least as many of these. -/
theorem length_le_of_matched (hmatched : ∀ a ∈ as, ∃ b ∈ bs, R b a)
    (hapart : as.Pairwise fun a a' => ∀ b ∈ bs, R b a → ¬R b a') : as.length ≤ bs.length := by
  induction as generalizing bs with
  | nil => exact Nat.zero_le _
  | cons a as ih =>
    obtain ⟨hfirst, hrest⟩ := List.pairwise_cons.1 hapart
    obtain ⟨⟨b, hb, hba⟩, hmatched⟩ := List.forall_mem_cons.1 hmatched
    obtain ⟨front, back, rfl⟩ := List.append_of_mem hb
    -- What matches the first item matches no other.
    have hle := ih (matched_without hmatched fun a' ha' => hfirst a' ha' b hb hba)
      (hrest.imp fun h b' hb' => h b' (subset_without hb'))
    simp only [List.length_append, List.length_cons] at hle ⊢
    omega

/-- If there are not more of them, each of them matches an item. -/
theorem exists_of_matched (hlength : bs.length ≤ as.length)
    (hmatched : ∀ a ∈ as, ∃ b ∈ bs, R b a)
    (hapart : as.Pairwise fun a a' => ∀ b ∈ bs, R b a → ¬R b a') :
    ∀ b ∈ bs, ∃ a ∈ as, R b a := by
  intro b hb
  by_contra hnone
  obtain ⟨front, back, rfl⟩ := List.append_of_mem hb
  have hle := length_le_of_matched (matched_without hmatched fun a ha hba => hnone ⟨a, ha, hba⟩)
    (hapart.imp fun h b' hb' => h b' (subset_without hb'))
  simp only [List.length_append, List.length_cons] at hle hlength
  omega

end Matched

end Stencil.Value
