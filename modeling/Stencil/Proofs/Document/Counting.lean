import Mathlib
import Stencil.Proofs.Document.Operation
import Stencil.Proofs.Document.Trees

/-!
# Counting the nodes of a tree

The nodes whose way up leads through a node are the node itself and, for each of its children,
those whose way up leads through the child (`under_eq`); no node is met twice. So a tree has as many
nodes as the document has nodes under the one at its top (`card_under`), and every node that was
ever made is somewhere in the page exactly if the trees of the page have all of them but the
document itself (`size_eq_iff`).
-/

namespace Stencil

theorem Tree.forestSize_eq_sum (ts : List Tree) : forestSize ts = (ts.map size).sum := by
  induction ts with
  | nil => rfl
  | cons t ts ih => rw [forestSize, ih, List.map_cons, List.sum_cons]

namespace Document

variable {d : Document} {c c' m n p : Nat}

/-- The nodes whose way up leads through a node. -/
def under (d : Document) (n : Nat) : Finset Nat :=
  (Finset.range d.size).filter fun m => n ∈ d.lineage m

theorem mem_under : m ∈ d.under n ↔ m < d.size ∧ n ∈ d.lineage m := by
  rw [under, Finset.mem_filter, Finset.mem_range]

/-- A way up that leads through a node and begins elsewhere comes to it from one of its children. -/
theorem Ascent.exists_child {l : List Nat} (h : d.Ascent m l) (hn : n ∈ l) (hm : n ≠ m) :
    ∃ c ∈ l, (d.node c).parent = some n := by
  induction h with
  | last _ => exact absurd (List.mem_singleton.1 hn) hm
  | @step m p l hp _ ih =>
    have hn : n ∈ l := (List.mem_cons.1 hn).resolve_left hm
    by_cases hnp : n = p
    · exact ⟨m, List.mem_cons_self, hnp ▸ hp⟩
    · obtain ⟨c, hc, hcn⟩ := ih hn hnp
      exact ⟨c, List.mem_cons_of_mem _ hc, hcn⟩

namespace WellFormed

theorem under_eq (h : d.WellFormed) (hn : n < d.size) :
    d.under n = insert n ((d.node n).children.toFinset.biUnion d.under) := by
  ext m
  simp only [Finset.mem_insert, Finset.mem_biUnion, List.mem_toFinset, mem_under, h.mem_children]
  constructor
  · rintro ⟨hm, hnm⟩
    by_cases he : m = n
    · exact .inl he
    · obtain ⟨c, hc, hp⟩ := (h.ascent_lineage m).exists_child hnm (Ne.symm he)
      exact .inr ⟨c, hp, hm, hc⟩
  · rintro (rfl | ⟨c, hp, hm, hc⟩)
    · exact ⟨hn, h.mem_lineage_self m⟩
    · refine ⟨hm, h.mem_lineage_trans ?_ hc⟩
      rw [h.lineage_of_parent hp]
      exact List.mem_cons_of_mem _ (h.mem_lineage_self n)

/-- Under a node are the node itself and what is under its children. -/
theorem card_under_eq (h : d.WellFormed) (hn : n < d.size) :
    (d.under n).card = ((d.node n).children.map fun c => (d.under c).card).sum + 1 := by
  rw [h.under_eq hn, Finset.card_insert_of_notMem, Finset.card_biUnion]
  · rw [List.sum_toFinset _ h.nodup_children]
  · intro c hc c' hc' hne
    rw [Finset.mem_coe, List.mem_toFinset, h.mem_children] at hc hc'
    refine Finset.disjoint_left.2 fun m hm hm' => hne ?_
    exact h.eq_of_mem_lineage hc hc' (mem_under.1 hm).2 (mem_under.1 hm').2
  · intro hm
    obtain ⟨c, hc, hnc⟩ := Finset.mem_biUnion.1 hm
    rw [List.mem_toFinset, h.mem_children] at hc
    exact h.notMem_lineage_parent hc (mem_under.1 hnc).2

theorem size_tree (h : d.WellFormed) (n : Nat) :
    (d.tree n).size = Tree.forestSize (d.below n) + 1 := by
  rw [tree]
  cases hk : (d.node n).kind with
  | document => rfl
  | element tag attributes => rfl
  | text content =>
    rw [h.below_eq, h.children_of_isText n (isText_eq_true.2 ⟨content, hk⟩)]
    rfl

/-- A tree has as many nodes as are under the one at its top. -/
theorem card_under (h : d.WellFormed) (hn : n < d.size) : (d.under n).card = (d.tree n).size := by
  induction n using h.induction_children with
  | step n ih =>
    have hchildren : ∀ c ∈ (d.node n).children, (d.under c).card = (d.tree c).size := fun c hc =>
      ih c hc (h.lt_size_of_parent (h.mem_children.1 hc)).1
    rw [h.card_under_eq hn, h.size_tree, h.below_eq, Tree.forestSize_eq_sum, List.map_map,
      List.map_congr_left hchildren]
    rfl

/-- The way up from every node leads to the document exactly if the trees of the page, together with
the document itself, have as many nodes as were made. -/
theorem size_eq_iff (h : d.WellFormed) :
    d.size = Tree.forestSize d.trees + 1 ↔ ∀ n < d.size, root ∈ d.lineage n := by
  rw [trees, ← h.size_tree, ← h.card_under h.root_lt_size, eq_comm]
  constructor
  · intro hcard n hn
    have hall : d.under root = Finset.range d.size :=
      Finset.eq_of_subset_of_card_le (Finset.filter_subset _ _) (by rw [hcard, Finset.card_range])
    exact (mem_under.1 (hall ▸ Finset.mem_range.2 hn)).2
  · intro hroot
    have hall : d.under root = Finset.range d.size :=
      Finset.filter_true_of_mem fun n hn => hroot n (Finset.mem_range.1 hn)
    rw [hall, Finset.card_range]

end WellFormed

end Document

end Stencil
