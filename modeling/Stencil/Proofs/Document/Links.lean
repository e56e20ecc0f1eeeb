import Mathlib.Data.List.Nodup
import Mathlib.Data.List.Perm.Subperm
import Stencil.Proofs.Document.Change

/-!
# Documents whose links agree

A node stands in a document four times over: it knows its parent and its neighbours, and its parent
lists it. `WellFormed` says that these agree and that parents never run in a circle. From this
follows that the walk up from a node, which looks at as many nodes as there are, always comes to
its end (`lineage_eq`).
-/

namespace Stencil.Document

variable {d d' : Document} {c m n p : Nat}

/-! ## The way up -/

/-- The parents of a node end, and these are the node and its ancestors, the nearest first. -/
inductive Ascent (d : Document) : Nat → List Nat → Prop
  | last {n : Nat} (h : (d.node n).parent = none) : Ascent d n [n]
  | step {n p : Nat} {l : List Nat} (h : (d.node n).parent = some p) (hp : Ascent d p l) :
    Ascent d n (n :: l)

namespace Ascent

variable {l l' : List Nat}

/-- There is one way up from a node. -/
theorem unique (h : d.Ascent n l) (h' : d.Ascent n l') : l = l' := by
  induction h generalizing l' with
  | last h =>
    cases h' with
    | last _ => rfl
    | step hp _ => simp [h] at hp
  | step h _ ih =>
    cases h' with
    | last hn => simp [h] at hn
    | step hp ha =>
      obtain rfl : _ = _ := Option.some.inj (h.symm.trans hp)
      rw [ih ha]

theorem mem_self (h : d.Ascent n l) : n ∈ l := by
  cases h <;> simp

/-- The ancestors of an ancestor are the end of the ancestors. -/
theorem suffix_of_mem (h : d.Ascent n l) (hm : m ∈ l) : ∃ l', d.Ascent m l' ∧ l' <:+ l := by
  induction h with
  | last h =>
    obtain rfl := List.mem_singleton.1 hm
    exact ⟨_, .last h, List.suffix_rfl⟩
  | @step n p l h hp ih =>
    rcases List.mem_cons.1 hm with rfl | hm
    · exact ⟨_, .step h hp, List.suffix_rfl⟩
    · obtain ⟨l', hl', hs⟩ := ih hm
      exact ⟨l', hl', hs.trans (List.suffix_cons n l)⟩

/-- Nobody is an ancestor of itself. -/
theorem notMem_of_parent (h : d.Ascent p l) (hn : (d.node n).parent = some p) : n ∉ l := by
  intro hm
  obtain ⟨l', hl', hs⟩ := h.suffix_of_mem hm
  obtain rfl := (Ascent.step hn h).unique hl'
  exact absurd hs.length_le (by simp)

/-- The way up does not meet a node twice. -/
theorem nodup (h : d.Ascent n l) : l.Nodup := by
  induction h with
  | last h => exact List.nodup_singleton _
  | step h hp ih => exact List.nodup_cons.2 ⟨hp.notMem_of_parent h, ih⟩

/-- Going up finds the way up, with enough steps for it. -/
theorem chainUp_eq (h : d.Ascent n l) {fuel : Nat} (hl : l.length ≤ fuel) :
    d.chainUp fuel n = l := by
  induction h generalizing fuel with
  | last h =>
    obtain ⟨k, rfl⟩ := Nat.exists_eq_add_of_le' (show 1 ≤ fuel by simpa using hl)
    simp [chainUp, h]
  | step h hp ih =>
    obtain ⟨k, rfl⟩ := Nat.exists_eq_add_of_le' (show 1 ≤ fuel by simp at hl; omega)
    simp [chainUp, h, ih (by simpa using hl)]

/-- The way up stays as it is where the parents on it do. -/
theorem congr (h : d.Ascent n l) (hl : ∀ m ∈ l, (d'.node m).parent = (d.node m).parent) :
    d'.Ascent n l := by
  induction h with
  | last h => exact .last (by rw [hl _ List.mem_cons_self, h])
  | step h _ ih =>
    exact .step (by rw [hl _ List.mem_cons_self, h])
      (ih fun m hm => hl m (List.mem_cons_of_mem _ hm))

end Ascent

/-! ## Agreeing links -/

/-- The links of a document agree, and it is a forest. -/
structure WellFormed (d : Document) : Prop where
  /-- Number zero, and no other, is the document itself. -/
  kind_eq_document : ∀ n, (d.node n).kind = .document ↔ n = root
  /-- A node stands once among the children of its parent, and among no other children. -/
  count_children : ∀ p c, (d.node p).children.count c = if (d.node c).parent = some p then 1 else 0
  /-- What a child has for neighbours is what stands next to it. -/
  neighbours : ∀ p before c after, (d.node p).children = before ++ c :: after →
    (d.node c).previous = before.getLast? ∧ (d.node c).next = after.head?
  /-- A node without a parent has no neighbours. -/
  apart : ∀ n, (d.node n).parent = none → (d.node n).previous = none ∧ (d.node n).next = none
  root_parent : (d.node root).parent = none
  /-- Texts have nothing inside. -/
  children_of_isText : ∀ n, d.isText n → (d.node n).children = []
  /-- Following parents comes to an end. -/
  ascent : ∀ n, ∃ l, d.Ascent n l

namespace WellFormed

/-- The children of a node are those nodes that have it as their parent. -/
theorem mem_children (h : d.WellFormed) : c ∈ (d.node p).children ↔ (d.node c).parent = some p := by
  rw [← List.count_pos_iff, h.count_children]
  split <;> simp_all

theorem nodup_children (h : d.WellFormed) : (d.node p).children.Nodup := by
  rw [List.nodup_iff_count_le_one]
  intro c
  rw [h.count_children]
  split <;> simp

theorem root_lt_size (h : d.WellFormed) : root < d.size := by
  by_contra hn
  have := (h.kind_eq_document root).2 rfl
  simp [node_of_size_le (Nat.le_of_not_lt hn), Node.detached] at this

/-- Parents and children are nodes of the document. -/
theorem lt_size_of_parent (h : d.WellFormed) (hp : (d.node c).parent = some p) :
    c < d.size ∧ p < d.size := by
  constructor
  · by_contra hn
    simp [node_of_size_le (Nat.le_of_not_lt hn), Node.detached] at hp
  · by_contra hn
    have := h.mem_children.2 hp
    simp [node_of_size_le (Nat.le_of_not_lt hn), Node.detached] at this

/-- Neighbours are two children of one parent. -/
theorem parent_of_neighbour (h : d.WellFormed) (hp : (d.node n).parent = some p)
    (hm : (d.node n).previous = some m ∨ (d.node n).next = some m) :
    (d.node m).parent = some p ∧ m ≠ n := by
  obtain ⟨before, after, hs⟩ := List.append_of_mem (h.mem_children.2 hp)
  obtain ⟨hprev, hnext⟩ := h.neighbours p before n after hs
  have hn := (List.nodup_cons.1 (List.nodup_middle.1 (hs ▸ h.nodup_children))).1
  have hm' : m ∈ before ++ after := by
    rcases hm with hm | hm
    · exact List.mem_append_left _ (List.mem_of_getLast? (hprev ▸ hm))
    · exact List.mem_append_right _ (List.mem_of_head? (hnext ▸ hm))
  refine ⟨h.mem_children.1 ?_, ?_⟩
  · rw [hs]
    exact List.perm_middle.mem_iff.2 (List.mem_cons_of_mem _ hm')
  · rintro rfl
    exact hn hm'

theorem lt_size_of_mem_ascent (h : d.WellFormed) {l : List Nat} (hl : d.Ascent n l)
    (hn : n < d.size) (hm : m ∈ l) : m < d.size := by
  induction hl with
  | last _ => simp_all
  | step hp _ ih =>
    rcases List.mem_cons.1 hm with rfl | hm
    · exact hn
    · exact ih (h.lt_size_of_parent hp).2 hm

/-- The way up is no longer than there are nodes. -/
theorem length_ascent_le (h : d.WellFormed) {l : List Nat} (hl : d.Ascent n l) :
    l.length ≤ d.size := by
  by_cases hn : n < d.size
  · have hs : l ⊆ List.range d.size := fun m hm =>
      List.mem_range.2 (h.lt_size_of_mem_ascent hl hn hm)
    simpa using (hl.nodup.subperm hs).length_le
  · have hp : (d.node n).parent = none := by
      rw [node_of_size_le (Nat.le_of_not_lt hn)]
      rfl
    obtain rfl := hl.unique (.last hp)
    exact h.root_lt_size

/-- The walk up a document of agreeing links always comes to its end. -/
theorem lineage_eq (h : d.WellFormed) {l : List Nat} (hl : d.Ascent n l) : d.lineage n = l :=
  hl.chainUp_eq (h.length_ascent_le hl)

/-- The lineage of a node is its way up. -/
theorem ascent_lineage (h : d.WellFormed) (n : Nat) : d.Ascent n (d.lineage n) := by
  obtain ⟨l, hl⟩ := h.ascent n
  rwa [h.lineage_eq hl]

end WellFormed

end Stencil.Document
