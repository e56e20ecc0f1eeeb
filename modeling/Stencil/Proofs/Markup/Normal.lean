import Stencil.Markup.Event
import Stencil.Proofs.Document.Operation
import Stencil.Proofs.Document.Trees
import Stencil.Proofs.Markup.StartTag

/-!
# Documents that are written as they are

A document is in normal form if nothing of what its nodes hold gets lost when they are written:
names and values need no quoting of their own, what has to be empty is, and every text is its own
written form and stands apart from other texts. The condition is one on each node (`NormalAt`), and
for a well-formed document it makes a condition on its trees (`Normal.allNormal_trees`).
-/

namespace Stencil

namespace Tree

/-- Whether the tree is a text. -/
def isText : Tree → Bool
  | text _ => true
  | element _ _ _ => false

mutual

/-- Trees that are written as they are where they stand. -/
def Normal (place : Place) : Tree → Prop
  | text content =>
    content ≠ "" ∧ '<' ∉ content.toList ∧ settle place content.toList = content.toList
  | element tag attributes children =>
    Markup.IsName tag ∧ Markup.AreAttributes attributes ∧ (isVoid tag = true → children = []) ∧
      (tag ∈ Markup.rawTags → children.length ≤ 1 ∧ ∀ t ∈ children, t.isText = true) ∧
      AllNormal (place.preformatted || isPreformatted tag) false false children

/-- Siblings that are written as they are, where `before` tells whether there are more in front. -/
def AllNormal (preformatted top before : Bool) : List Tree → Prop
  | [] => True
  | t :: ts =>
    t.Normal ⟨preformatted, top, before, !ts.isEmpty⟩ ∧
      (∀ u ∈ ts.head?, ¬ (t.isText = true ∧ u.isText = true)) ∧ AllNormal preformatted top true ts

end

end Tree

namespace Document

variable {d : Document} {n p : Nat}

/-- The node is the document or somewhere below it. -/
def Shown (d : Document) (n : Nat) : Prop := root ∈ d.lineage n

instance (d : Document) : DecidablePred d.Shown := fun n =>
  inferInstanceAs (Decidable (root ∈ d.lineage n))

/-- What has to hold of a node for it to be written as it is. -/
def NormalAt (d : Document) (n : Nat) : Prop :=
  match (d.node n).kind with
  | .document => True
  | .element tag attributes =>
    Markup.IsName tag ∧ Markup.AreAttributes attributes ∧
      (isVoid tag = true → (d.node n).children = []) ∧
      (tag ∈ Markup.rawTags →
        (d.node n).children.length ≤ 1 ∧ ∀ c ∈ (d.node n).children, d.isText c = true)
  | .text content =>
    content ≠ "" ∧ '<' ∉ content.toList ∧ d.textContent n = content ∧
      ∀ m ∈ (d.node n).next, d.isText m = false

instance (d : Document) (n : Nat) : Decidable (d.NormalAt n) := by
  unfold NormalAt
  split <;> infer_instance

/-- Documents that are written as they are. Nodes that are not shown do not matter. -/
def Normal (d : Document) : Prop := ∀ n < d.size, d.Shown n → d.NormalAt n

instance (d : Document) : Decidable d.Normal :=
  inferInstanceAs (Decidable (∀ n < d.size, d.Shown n → d.NormalAt n))

/-! ## Where children stand -/

/-- Whether what is inside the node keeps its blanks. -/
def keepsBlanks (d : Document) (n : Nat) : Bool :=
  d.inPreformatted n || (d.tag? n).any isPreformatted

namespace WellFormed

theorem lineage_eq_cons (h : d.WellFormed) (n : Nat) : d.lineage n = n :: (d.lineage n).tail := by
  have hn := h.ascent_lineage n
  generalize d.lineage n = l at hn ⊢
  cases hn <;> rfl

theorem inPreformatted_of_parent (h : d.WellFormed) (hn : (d.node n).parent = some p) :
    d.inPreformatted n = d.keepsBlanks p := by
  rw [inPreformatted, h.lineage_of_parent hn, List.tail_cons, h.lineage_eq_cons p, List.any_cons,
    Bool.or_comm]
  rfl

/-- Directly below the document no blanks are kept. -/
theorem keepsBlanks_root (h : d.WellFormed) : d.keepsBlanks root = false := by
  have hlineage : d.lineage root = [root] := h.lineage_eq (.last h.root_parent)
  simp [keepsBlanks, inPreformatted, hlineage, tag?, (h.kind_eq_document root).2 rfl]

/-- A child stands where the siblings around it say. -/
theorem place_of_children (h : d.WellFormed) {before after : List Nat}
    (hp : (d.node p).children = before ++ n :: after) :
    d.place n =
      ⟨d.keepsBlanks p, (d.node p).kind == .document, !before.isEmpty, !after.isEmpty⟩ := by
  have hn : (d.node n).parent = some p := h.mem_children.1 (by simp [hp])
  obtain ⟨hprevious, hnext⟩ := h.neighbours p before n after hp
  rw [place, h.inPreformatted_of_parent hn, hn, hprevious, hnext]
  cases after <;> cases before using List.reverseRecOn <;> simp

theorem shown_of_parent (h : d.WellFormed) (hn : (d.node n).parent = some p) (hp : d.Shown p) :
    d.Shown n := by
  rw [Shown, h.lineage_of_parent hn]
  exact List.mem_cons_of_mem _ hp

end WellFormed

/-! ## The trees of a document in normal form -/

theorem isText_tree (d : Document) (n : Nat) : (d.tree n).isText = d.isText n := by
  rw [tree, isText]
  cases (d.node n).kind <;> rfl

namespace Normal

/-- A node below which everything is written as it is, is so itself. -/
theorem normal_tree (hn : d.Normal) (h : d.WellFormed) (hp : (d.node n).parent = some p)
    (hs : d.Shown n) (hbelow : Tree.AllNormal (d.keepsBlanks n) false false (d.below n)) :
    (d.tree n).Normal (d.place n) := by
  have hat := hn n (h.lt_size_of_parent hp).1 hs
  rw [NormalAt] at hat
  rw [tree]
  split at hat
  · next hk =>
    obtain rfl := (h.kind_eq_document n).1 hk
    simp [h.root_parent] at hp
  · next tag attributes hk =>
    obtain ⟨hname, hattributes, hvoid, hraw⟩ := hat
    rw [keepsBlanks, tag?, hk] at hbelow
    rw [hk, Node.Kind.tree, Tree.Normal]
    refine ⟨hname, hattributes, fun hv => ?_, fun hr => ?_, hbelow⟩
    · rw [h.below_eq, hvoid hv, List.map_nil]
    · rw [h.below_eq, List.length_map, List.forall_mem_map]
      exact ⟨(hraw hr).1, fun c hc => (isText_tree d c).trans ((hraw hr).2 c hc)⟩
  · next content hk =>
    obtain ⟨hne, hnotMem, hcontent, -⟩ := hat
    rw [textContent, hk] at hcontent
    rw [hk, Node.Kind.tree, Tree.Normal]
    exact ⟨hne, hnotMem, by simpa using congrArg String.toList hcontent⟩

/-- Siblings with nothing below them that is not written as it is. -/
theorem allNormal_siblings (hn : d.Normal) (h : d.WellFormed) (before : List Nat)
    {after : List Nat} (hp : d.Shown p) (hchildren : (d.node p).children = before ++ after)
    (hbelow : ∀ c ∈ after, Tree.AllNormal (d.keepsBlanks c) false false (d.below c)) :
    Tree.AllNormal (d.keepsBlanks p) ((d.node p).kind == .document) (!before.isEmpty)
      (after.map d.tree) := by
  induction after generalizing before with
  | nil => trivial
  | cons c after ih =>
    rw [List.forall_mem_cons] at hbelow
    have hc : (d.node c).parent = some p := h.mem_children.1 (by simp [hchildren])
    have hs := h.shown_of_parent hc hp
    refine ⟨?_, ?_, ?_⟩
    · rw [List.isEmpty_map, ← h.place_of_children hchildren]
      exact hn.normal_tree h hc hs hbelow.1
    · intro u hu
      obtain ⟨m, hm, rfl⟩ : ∃ m, after.head? = some m ∧ d.tree m = u := by simpa using hu
      rw [isText_tree, isText_tree]
      rintro ⟨hct, hmt⟩
      obtain ⟨content, hk⟩ := isText_eq_true.1 hct
      have hat := hn c (h.lt_size_of_parent hc).1 hs
      rw [NormalAt, hk] at hat
      have := hat.2.2.2 m ((h.neighbours p before c after hchildren).2.trans hm)
      simp [hmt] at this
    · have hbefore : (!(before ++ [c]).isEmpty) = true := by cases before <;> rfl
      exact hbefore ▸ ih (before ++ [c]) (by simp [hchildren]) hbelow.2

/-- What is below a node that is shown is written as it is. -/
theorem allNormal_below (hn : d.Normal) (h : d.WellFormed) (hp : d.Shown p) :
    Tree.AllNormal (d.keepsBlanks p) ((d.node p).kind == .document) false (d.below p) := by
  induction p using h.induction_children with
  | step p ih =>
    rw [h.below_eq]
    refine hn.allNormal_siblings h [] hp (List.nil_append _).symm fun c hc => ?_
    have hcp := h.mem_children.1 hc
    have hkind : ((d.node c).kind == .document) = false := by
      rw [beq_eq_false_iff_ne, ne_eq, h.kind_eq_document]
      exact h.ne_root_of_mem_children hc
    exact hkind ▸ ih c hc (h.shown_of_parent hcp hp)

theorem allNormal_trees (hn : d.Normal) (h : d.WellFormed) :
    Tree.AllNormal false true false d.trees := by
  have := hn.allNormal_below h (h.mem_lineage_self root)
  rwa [h.keepsBlanks_root, (h.kind_eq_document root).2 rfl] at this

end Normal

end Document

end Stencil
