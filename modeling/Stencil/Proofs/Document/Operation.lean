import Stencil.Proofs.Document.Move

/-!
# Documents made by operations

Whatever operations are done in whatever order, the links of a document agree: `run?` never leaves
the well-formed documents. A move is refused where it would put a node inside itself, and the walk
up that finds this out ends because no such move was made before.
-/

namespace Stencil.Document

variable {d d' : Document} {m n p : Nat}

theorem isText_eq_true : d.isText n = true ↔ ∃ content, (d.node n).kind = .text content := by
  unfold isText
  split <;> simp_all

/-- Text goes on where the last child is a text. -/
theorem lastText?_eq_some {l : Nat} {content : String} :
    d.lastText? p = some (l, content) ↔
      (d.node p).children.getLast? = some l ∧ (d.node l).kind = .text content := by
  unfold lastText?
  split
  · rename_i l' hl
    split <;> simp_all <;> grind
  · simp_all

/-- A node may become a child unless this is said against it. -/
theorem canAppend_eq_true :
    d.canAppend p n = true ↔ d.isText p = false ∧ n ≠ root ∧ n ∉ d.lineage p := by
  simp [canAppend, and_assoc]

namespace WellFormed

/-- A document with nothing in it is well formed. -/
theorem empty : Document.empty.WellFormed := by
  have hnode : ∀ n,
      Document.empty.node n = .detached (if n = root then .document else .text "") := by
    intro n
    by_cases hn : n = root
    · subst hn
      rfl
    · rw [if_neg hn, node_of_size_le]
      exact Nat.one_le_iff_ne_zero.2 hn
  refine ⟨?_, ?_, ?_, ?_, ?_, ?_, ?_⟩
  · intro n
    rw [hnode]
    simp [Node.detached]
  · simp [hnode, Node.detached]
  · simp [hnode, Node.detached]
  · simp [hnode, Node.detached]
  · simp [hnode, Node.detached]
  · simp [hnode, Node.detached]
  · exact fun n => ⟨[n], .last (by simp [hnode, Node.detached])⟩

/-- Links that agree go on to agree where only kinds change, and none to or from the document or
to a text. -/
theorem of_links (h : d.WellFormed)
    (hl : ∀ n, (d'.node n).parent = (d.node n).parent ∧ (d'.node n).previous = (d.node n).previous ∧
      (d'.node n).next = (d.node n).next ∧ (d'.node n).children = (d.node n).children)
    (hk : ∀ n, (d'.node n).kind = .document ↔ (d.node n).kind = .document)
    (ht : ∀ n, d'.isText n → (d.node n).children = []) : d'.WellFormed := by
  refine ⟨?_, ?_, ?_, ?_, ?_, ?_, ?_⟩
  · exact fun n => (hk n).trans (h.kind_eq_document n)
  · intro q c
    rw [(hl q).2.2.2, (hl c).1, h.count_children]
  · intro q before c after hq
    rw [(hl c).2.1, (hl c).2.2.1]
    exact h.neighbours q before c after ((hl q).2.2.2 ▸ hq)
  · intro n hn
    rw [(hl n).2.1, (hl n).2.2.1]
    exact h.apart n ((hl n).1 ▸ hn)
  · rw [(hl root).1, h.root_parent]
  · intro n hn
    rw [(hl n).2.2.2, ht n hn]
  · intro n
    obtain ⟨l, hln⟩ := h.ascent n
    exact ⟨l, hln.congr fun m _ => (hl m).1⟩

/-! ## One operation -/

/-- A new node, not yet put anywhere, leaves a document well formed. -/
theorem add (h : d.WellFormed) {kind : Node.Kind} (hk : kind ≠ .document) :
    (d.add kind).1.WellFormed := by
  have hfresh := node_of_size_le (Nat.le_refl d.size)
  refine h.of_links ?_ ?_ ?_
  · intro n
    by_cases hn : n = d.size
    · subst hn
      simp [hfresh, Node.detached]
    · simp [node_add_of_ne hn]
  · intro n
    by_cases hn : n = d.size
    · subst hn
      simp [hfresh, Node.detached, hk]
    · rw [node_add_of_ne hn]
  · intro n hn
    by_cases hns : n = d.size
    · subst hns
      rw [hfresh]
      rfl
    · exact h.children_of_isText n (by simpa [isText, node_add_of_ne hns] using hn)

/-- One node may get another kind: a text if it was one, and anything else but the document. -/
theorem modify_kind (h : d.WellFormed) {kind : Node.Kind} (hk : kind ≠ .document)
    (hd : (d.node n).kind ≠ .document) (ht : ∀ content, kind = .text content → d.isText n) :
    (d.modify n fun x => { x with kind := kind }).WellFormed := by
  refine h.of_links ?_ ?_ ?_
  · intro m
    rw [node_modify]
    split <;> simp
  · intro m
    rw [node_modify]
    split
    · rename_i hm
      simp [hk, hm.1 ▸ hd]
    · rfl
  · intro m hm
    obtain ⟨content, hc⟩ := isText_eq_true.1 hm
    rw [node_modify] at hc
    refine h.children_of_isText m ?_
    split at hc
    · rename_i hmn
      exact hmn.1 ▸ ht content hc
    · exact isText_eq_true.2 ⟨content, hc⟩

/-- A document stays well formed when a node is moved, also where that is refused. -/
theorem append (h : d.WellFormed) (hp : p < d.size) (hn : n < d.size) :
    (d.append p n).WellFormed := by
  unfold Document.append append?
  split
  · rename_i hc
    obtain ⟨ht, hr, hl⟩ := canAppend_eq_true.1 hc
    have ha : (d.detach n).Ascent p (d.lineage p) := (h.ascent_lineage p).congr fun x hx => by
      rw [parent_detach, if_neg (ne_of_mem_of_not_mem hx hl)]
    refine (h.detach n).attach ?_ ?_ ?_ hr ?_ ?_
    · simpa using hp
    · simpa [isText] using ht
    · simpa using hn
    · rw [parent_detach, if_pos rfl]
    · rwa [(h.detach n).lineage_eq ha]
  · exact h

/-- A document stays well formed when text is written into it. -/
theorem appendText (h : d.WellFormed) (hp : p < d.size) (content : String) :
    (d.appendText p content).WellFormed := by
  unfold Document.appendText
  split
  · exact h
  · split
    · rename_i l old hl
      have hk := (lastText?_eq_some.1 hl).2
      exact h.modify_kind (by simp) (by simp [hk]) fun _ _ => isText_eq_true.2 ⟨old, hk⟩
    · refine (h.add (by simp)).append ?_ ?_
      · exact Nat.lt_succ_of_lt hp |>.trans_eq (size_add _).symm
      · rw [size_add]
        exact Nat.lt_succ_self _

/-- Attributes have no part in whether a document is well formed. -/
theorem setAttribute (h : d.WellFormed) (n : Nat) (name : String) (value : Option String) :
    (d.setAttribute n name value).WellFormed := by
  unfold Document.setAttribute
  split
  · rename_i hk
    exact h.modify_kind (by simp) (by simp [hk]) (by simp)
  · exact h

end WellFormed

/-! ## Any number of operations -/

/-- A change of a document, where nodes are named by number. -/
inductive Operation where
  | addElement (tag : String)
  | addText (content : String)
  | append (parent n : Nat)
  | appendText (parent : Nat) (content : String)
  | setAttribute (n : Nat) (name : String) (value : Option String)

namespace Operation

/-- The nodes that an operation names. -/
def nodes : Operation → List Nat
  | addElement _ | addText _ => []
  | append parent n => [parent, n]
  | appendText parent _ => [parent]
  | setAttribute n _ _ => [n]

/-- What an operation makes of a document. -/
def apply (d : Document) : Operation → Document
  | addElement tag => (d.add (.element tag [])).1
  | addText content => (d.add (.text content)).1
  | append parent n => d.append parent n
  | appendText parent content => d.appendText parent content
  | setAttribute n name value => d.setAttribute n name value

/-- What operations make of a document one after the other, as long as each names only nodes that
are there by then. -/
def run? (d : Document) : List Operation → Option Document
  | [] => some d
  | op :: ops => if op.nodes.all (· < d.size) then run? (op.apply d) ops else none

end Operation

/-- An operation on nodes of a well-formed document leaves it well formed. -/
theorem WellFormed.apply (h : d.WellFormed) {op : Operation} (hop : ∀ n ∈ op.nodes, n < d.size) :
    (op.apply d).WellFormed := by
  cases op with
  | addElement tag => exact h.add (by simp)
  | addText content => exact h.add (by simp)
  | append parent n =>
    exact h.append (hop parent (by simp [Operation.nodes])) (hop n (by simp [Operation.nodes]))
  | appendText parent content => exact h.appendText (hop parent (by simp [Operation.nodes])) content
  | setAttribute n name value => exact h.setAttribute n name value

theorem WellFormed.run? (h : d.WellFormed) {ops : List Operation}
    (hr : Operation.run? d ops = some d') : d'.WellFormed := by
  induction ops generalizing d with
  | nil =>
    obtain rfl := Option.some.inj hr
    exact h
  | cons op ops ih =>
    rw [Operation.run?] at hr
    split at hr
    · rename_i hop
      exact ih (h.apply (by simpa using hop)) hr
    · simp at hr

/-- The links of every document that operations make agree. -/
theorem wellFormed_of_run? {ops : List Operation} (h : Operation.run? .empty ops = some d) :
    d.WellFormed :=
  WellFormed.empty.run? h

/-- Two elements are moved about. Three moves are refused on the way: an element into one inside it,
the document into an element, and an element into a text. -/
def Operation.moves : List Operation :=
  [.addElement "a", .addElement "b", .append 0 1, .append 1 2, .append 2 1, .append 1 0,
    .append 0 2, .appendText 1 "x", .appendText 1 "y", .append 1 2, .append 0 1, .append 3 2,
    .setAttribute 2 "k" none]

theorem wellFormed_of_moves :
    ∃ d, Operation.run? .empty Operation.moves = some d ∧ (d.node 1).children = [3, 2] ∧
      d.WellFormed := by
  have h : Operation.run? .empty Operation.moves = some _ := rfl
  exact ⟨_, h, rfl, wellFormed_of_run? h⟩

end Stencil.Document
