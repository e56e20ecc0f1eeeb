import Mathlib.Logic.Relation
import Stencil.Proofs.Document.Operation
import Stencil.Proofs.Document.Trees

/-!
# A move and nothing else

A node that is put at the end of another one is taken out of the children that it was among, whether
these are the same or not, and everything else stays (`Transferred`): no other list of children
changes, no node becomes something else, and what is inside the node comes along as it is. Where the
node may not go there is no change at all (`append?_transfers`).
-/

namespace Stencil.Document

variable {d d' : Document} {a c m n p q : Nat}

/-! ## Enclosing -/

/-- Following parents from a node, in no step or more, leads to another one. -/
def Encloses (d : Document) (a n : Nat) : Prop :=
  Relation.ReflTransGen (fun m p => (d.node m).parent = some p) n a

theorem Ascent.mem_iff {l : List Nat} (h : d.Ascent n l) : a ∈ l ↔ d.Encloses a n := by
  induction h with
  | @last n h =>
    rw [List.mem_singleton, Encloses, Relation.ReflTransGen.cases_head_iff]
    simp [h, eq_comm]
  | @step n p l h _ ih =>
    rw [List.mem_cons, ih, Encloses, Encloses, Relation.ReflTransGen.cases_head_iff (a := n)]
    simp [h, eq_comm]

/-- The walk up a node passes what encloses it. -/
theorem WellFormed.mem_lineage_iff (h : d.WellFormed) : a ∈ d.lineage n ↔ d.Encloses a n :=
  (h.ascent_lineage n).mem_iff

/-! ## What a move leaves as it was -/

/-- A document in which a node was made the last child of another, and no more than that. -/
structure Transferred (d : Document) (p n : Nat) (d' : Document) : Prop where
  /-- What every node has for a parent and for neighbours is as the lists of children say. -/
  wellFormed : d'.WellFormed
  size_eq : d'.size = d.size
  /-- Every node is what it was, attributes and text included. -/
  kind_eq : ∀ m, (d'.node m).kind = (d.node m).kind
  parent_eq : ∀ m, (d'.node m).parent = if m = n then some p else (d.node m).parent
  /-- The node comes behind the other children, which may have been among them before. -/
  children_eq : (d'.node p).children = (d.node p).children.filter (· ≠ n) ++ [n]
  /-- The parent that it had before loses it. -/
  children_left : ∀ q, q ≠ p → (d.node n).parent = some q →
    (d'.node q).children = (d.node q).children.filter (· ≠ n)
  /-- All other nodes keep their children. -/
  children_kept : ∀ q, q ≠ p → (d.node n).parent ≠ some q →
    (d'.node q).children = (d.node q).children
  /-- What is inside the node is the same, node by node. -/
  node_eq : ∀ m, m ≠ n → d.Encloses n m → d'.node m = d.node m
  tree_eq : d'.tree n = d.tree n

namespace WellFormed

/-- Leaving a node out makes a difference to the children of its parent only. -/
theorem filter_children (h : d.WellFormed) (hq : (d.node n).parent ≠ some q) :
    (d.node q).children.filter (· ≠ n) = (d.node q).children := by
  refine List.filter_eq_self.2 fun c hc => ?_
  have hcn : c ≠ n := by
    rintro rfl
    exact hq (h.mem_children.1 hc)
  simpa using hcn

theorem children_detach (h : d.WellFormed) (n q : Nat) :
    ((d.detach n).node q).children = (d.node q).children.filter (· ≠ n) := by
  cases hn : (d.node n).parent with
  | none => rw [detach_of_parent_eq_none hn, h.filter_children (by simp [hn])]
  | some p =>
    rw [Document.children_detach hn]
    split
    · rfl
    · next hq => rw [h.filter_children (by simpa [hn] using Ne.symm hq)]

/-- A child has the same neighbours in two documents where it is among the same children. -/
theorem neighbours_congr (h : d.WellFormed) (h' : d'.WellFormed) (hc : (d.node c).parent = some q)
    (hq : (d'.node q).children = (d.node q).children) :
    (d'.node c).previous = (d.node c).previous ∧ (d'.node c).next = (d.node c).next := by
  obtain ⟨before, after, hs⟩ := List.append_of_mem (h.mem_children.2 hc)
  obtain ⟨hprevious, hnext⟩ := h.neighbours q before c after hs
  obtain ⟨hprevious', hnext'⟩ := h'.neighbours q before c after (hq.trans hs)
  exact ⟨hprevious'.trans hprevious.symm, hnext'.trans hnext.symm⟩

/-- What encloses another node encloses the parent of that. -/
theorem exists_parent_of_mem_lineage (h : d.WellFormed) (hm : n ∈ d.lineage m) (hn : m ≠ n) :
    ∃ q, (d.node m).parent = some q ∧ n ∈ d.lineage q := by
  cases hp : (d.node m).parent with
  | none =>
    rw [h.lineage_eq (.last hp), List.mem_singleton] at hm
    exact absurd hm.symm hn
  | some q =>
    rw [h.lineage_of_parent hp, List.mem_cons] at hm
    exact ⟨q, rfl, hm.resolve_left (Ne.symm hn)⟩

end WellFormed

/-- A move that is made makes one and no more. -/
theorem transferred_append (h : d.WellFormed) (hp : p < d.size) (hn : n < d.size)
    (hc : d.canAppend p n = true) : Transferred d p n (d.append p n) := by
  have hw := h.append hp hn
  obtain ⟨-, -, hl⟩ := canAppend_eq_true.1 hc
  have happend : d.append p n = (d.detach n).attach p n := by simp [append, append?, hc]
  have hchildren : ∀ q, ((d.append p n).node q).children =
      if q = p then (d.node q).children.filter (· ≠ n) ++ [n]
      else (d.node q).children.filter (· ≠ n) := by
    intro q
    rw [happend, children_attach (by simpa using hp), h.children_detach]
  have hkind : ∀ m, ((d.append p n).node m).kind = (d.node m).kind := by
    intro m
    rw [happend, kind_attach, kind_detach]
  have hparent : ∀ m, ((d.append p n).node m).parent =
      if m = n then some p else (d.node m).parent := by
    intro m
    rw [happend, parent_attach (by simpa using hn), parent_detach]
    split <;> rfl
  -- neither the new parent nor the old one is inside the node
  have hinside : ∀ m, n ∈ d.lineage m →
      ((d.append p n).node m).children = (d.node m).children := by
    intro m hm
    have hmp : m ≠ p := by
      rintro rfl
      exact hl hm
    have hmn : (d.node n).parent ≠ some m := fun he => h.notMem_lineage_parent he hm
    rw [hchildren, if_neg hmp, h.filter_children hmn]
  have hsize : (d.append p n).size = d.size := by rw [happend, size_attach, size_detach]
  refine ⟨hw, hsize, hkind, hparent, ?_, fun q hq _ => ?_, fun q hq hqn => ?_,
    fun m hmn hm => ?_, ?_⟩
  · rw [hchildren, if_pos rfl]
  · rw [hchildren, if_neg hq]
  · rw [hchildren, if_neg hq, h.filter_children hqn]
  · have hm := h.mem_lineage_iff.2 hm
    obtain ⟨q, hq, hqn⟩ := h.exists_parent_of_mem_lineage hm hmn
    obtain ⟨hprevious, hnext⟩ := h.neighbours_congr hw hq (hinside q hqn)
    exact Node.ext (hkind m) ((hparent m).trans (if_neg hmn)) hprevious hnext (hinside m hm)
  · exact tree_congr h (Nat.le_of_eq hsize.symm) fun m hm => ⟨hkind m, hinside m hm⟩

/-- A node may be put at the end of another one unless that is a text, or the node is the document,
or the node encloses the other one or is the same. If it may not, nothing changes; if it may, it is
moved there, and nothing else changes. -/
theorem append?_transfers (h : d.WellFormed) (hp : p < d.size) (hn : n < d.size) :
    (d.append? p n = none ↔ d.isText p = true ∨ n = root ∨ d.Encloses n p) ∧
      (d.append? p n = none → d.append p n = d) ∧
      ∀ d', d.append? p n = some d' → d.append p n = d' ∧ Transferred d p n d' := by
  have hrefused : d.append? p n = none ↔ d.canAppend p n ≠ true := by
    rw [append?]
    split <;> simp_all
  refine ⟨?_, fun ha => by rw [append, ha, Option.getD_none], fun d' ha => ?_⟩
  · rw [hrefused, ne_eq, canAppend_eq_true, h.mem_lineage_iff]
    simp only [not_and_or, not_not, Bool.not_eq_false, ne_eq]
  · have hd' : d.append p n = d' := by rw [append, ha, Option.getD_some]
    have hc : d.canAppend p n = true := by
      by_contra hc
      simp [hrefused.2 hc] at ha
    exact ⟨hd', hd' ▸ transferred_append h hp hn hc⟩

/-- The first of three children becomes the last one, with what is inside it. The parent of all
three cannot be put inside that. -/
theorem append?_transfers_of_siblings :
    ∃ d, Operation.run? .empty [.addElement "ul", .append 0 1, .addElement "a", .append 1 2,
        .addElement "b", .append 1 3, .addElement "c", .append 1 4, .appendText 2 "x"] = some d ∧
      d.WellFormed ∧ 1 < d.size ∧ 2 < d.size ∧ (d.node 1).children = [2, 3, 4] ∧
      (∃ d', d.append? 1 2 = some d' ∧ Transferred d 1 2 d' ∧ (d'.node 1).children = [3, 4, 2]) ∧
      d.append? 2 1 = none ∧ d.Encloses 1 2 := by
  have hrun : Operation.run? .empty [.addElement "ul", .append 0 1, .addElement "a", .append 1 2,
      .addElement "b", .append 1 3, .addElement "c", .append 1 4, .appendText 2 "x"] = some _ := rfl
  have h := WellFormed.empty.run? hrun
  obtain ⟨-, -, hmoved⟩ := append?_transfers h (p := 1) (n := 2) (by decide) (by decide)
  obtain ⟨hrefused, -, -⟩ := append?_transfers h (p := 2) (n := 1) (by decide) (by decide)
  have hencloses := ((hrefused.1 rfl).resolve_left (by decide)).resolve_left (by decide)
  exact ⟨_, hrun, h, by decide, by decide, rfl, ⟨_, rfl, (hmoved _ rfl).2, rfl⟩, rfl, hencloses⟩

end Stencil.Document
