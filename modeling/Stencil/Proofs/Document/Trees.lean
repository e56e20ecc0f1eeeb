import Stencil.Document.Html
import Stencil.Proofs.Document.Links

/-!
# The trees below a node

`below` goes down as many levels as there are nodes. In a well-formed document this is always deep
enough (`below_eq`), so a node shows what its children show, and the trees below a node depend on
nothing but the nodes whose way up leads through it (`below_congr`).
-/

namespace Stencil

/-- The tree of a node of a kind with these trees inside. The document itself counts as an element
without a name. -/
def Node.Kind.tree (kind : Kind) (inside : List Tree) : Tree :=
  match kind with
  | .text content => .text content
  | .element tag attributes => .element tag attributes inside
  | .document => .element "" [] inside

namespace Document

variable {d d' : Document} {c c' m n p : Nat}

/-- The tree of a node with all that is below it. -/
def tree (d : Document) (n : Nat) : Tree := (d.node n).kind.tree (d.below n)

theorem treesWithin_succ (fuel : Nat) (ns : List Nat) :
    d.treesWithin (fuel + 1) ns =
      ns.map fun n => (d.node n).kind.tree (d.treesWithin fuel (d.node n).children) :=
  rfl

@[simp] theorem treesWithin_nil (fuel : Nat) : d.treesWithin fuel [] = [] := by
  cases fuel <;> rfl

namespace WellFormed

theorem lineage_of_parent (h : d.WellFormed) (hp : (d.node c).parent = some p) :
    d.lineage c = c :: d.lineage p :=
  h.lineage_eq (.step hp (h.ascent_lineage p))

theorem ne_root_of_mem_children (h : d.WellFormed) (hc : c ∈ (d.node p).children) : c ≠ root := by
  rintro rfl
  have hp := h.mem_children.1 hc
  simp [h.root_parent] at hp

theorem mem_lineage_self (h : d.WellFormed) (n : Nat) : n ∈ d.lineage n :=
  (h.ascent_lineage n).mem_self

theorem mem_lineage_trans (h : d.WellFormed) (hn : n ∈ d.lineage m) (hm : m ∈ d.lineage c) :
    n ∈ d.lineage c := by
  obtain ⟨l, hl, hs⟩ := (h.ascent_lineage c).suffix_of_mem hm
  exact hs.subset (h.lineage_eq hl ▸ hn)

theorem notMem_lineage_parent (h : d.WellFormed) (hp : (d.node c).parent = some p) :
    c ∉ d.lineage p :=
  (h.ascent_lineage p).notMem_of_parent hp

/-- No way up leads through two children of one node. -/
theorem eq_of_mem_lineage (h : d.WellFormed) (hc : (d.node c).parent = some p)
    (hc' : (d.node c').parent = some p) (hm : c ∈ d.lineage m) (hm' : c' ∈ d.lineage m) :
    c = c' := by
  obtain ⟨l, hl, hs⟩ := (h.ascent_lineage m).suffix_of_mem hm
  obtain ⟨l', hl', hs'⟩ := (h.ascent_lineage m).suffix_of_mem hm'
  rw [← h.lineage_eq hl, h.lineage_of_parent hc] at hs
  rw [← h.lineage_eq hl', h.lineage_of_parent hc'] at hs'
  have heq := (List.suffix_of_suffix_length_le hs hs' (by simp)).eq_of_length (by simp)
  exact (List.cons.inj heq).1

theorem lt_size_of_mem_lineage (h : d.WellFormed) (hm : m ∈ d.lineage n) (hms : m < d.size) :
    n < d.size := by
  by_contra hn
  have hp : (d.node n).parent = none := by
    rw [node_of_size_le (Nat.le_of_not_lt hn)]
    rfl
  rw [h.lineage_eq (.last hp)] at hm
  exact hn (List.mem_singleton.1 hm ▸ hms)

/-- A node that stands as deep as there are nodes has no children. -/
theorem children_eq_nil (h : d.WellFormed) (hn : d.size ≤ (d.lineage n).length) :
    (d.node n).children = [] := by
  refine List.eq_nil_iff_forall_not_mem.2 fun c hc => ?_
  have := h.length_ascent_le (h.ascent_lineage c)
  rw [h.lineage_of_parent (h.mem_children.1 hc), List.length_cons] at this
  omega

/-- What holds of a node when it holds of its children holds of every node. -/
@[elab_as_elim]
theorem induction_children (h : d.WellFormed) {motive : Nat → Prop} (n : Nat)
    (step : ∀ n, (∀ c ∈ (d.node n).children, motive c) → motive n) : motive n := by
  -- children stand deeper, and nothing stands deeper than there are nodes
  induction hk : d.size - (d.lineage n).length using Nat.strongRecOn generalizing n with
  | _ k ih =>
    refine step n fun c hc => ?_
    have hle := h.length_ascent_le (h.ascent_lineage c)
    have hlength := congrArg List.length (h.lineage_of_parent (h.mem_children.1 hc))
    rw [List.length_cons] at hlength
    exact ih (d.size - (d.lineage c).length) (by omega) c rfl

/-- Going down further than there are nodes shows nothing more. -/
theorem treesWithin_eq (h : d.WellFormed) {j k : Nat}
    (hj : d.size ≤ j + (d.lineage n).length) (hk : d.size ≤ k + (d.lineage n).length) :
    d.treesWithin j (d.node n).children = d.treesWithin k (d.node n).children := by
  induction j generalizing k n with
  | zero => simp [h.children_eq_nil (by omega : d.size ≤ (d.lineage n).length)]
  | succ j ih =>
    cases k with
    | zero => simp [h.children_eq_nil (by omega : d.size ≤ (d.lineage n).length)]
    | succ k =>
      rw [treesWithin_succ, treesWithin_succ]
      refine List.map_congr_left fun c hc => ?_
      have hl := congrArg List.length (h.lineage_of_parent (h.mem_children.1 hc))
      rw [List.length_cons] at hl
      rw [ih (n := c) (k := k) (by omega) (by omega)]

/-- Below a node are the trees of its children. -/
theorem below_eq (h : d.WellFormed) (n : Nat) :
    d.below n = (d.node n).children.map d.tree := by
  obtain ⟨k, hk⟩ := Nat.exists_eq_add_of_lt h.root_lt_size
  rw [root, Nat.zero_add] at hk
  rw [below, hk, treesWithin_succ]
  refine List.map_congr_left fun c hc => ?_
  have hl := congrArg List.length (h.lineage_of_parent (h.mem_children.1 hc))
  rw [List.length_cons] at hl
  rw [tree, below, h.treesWithin_eq (n := c) (j := k) (k := d.size)]
  · omega
  · omega

/-- A well-formed document is written as the trees of its root. -/
theorem html_eq (h : d.WellFormed) : d.html = Tree.pageHtml (d.below root) := by
  rw [html, innerHtml, (h.kind_eq_document root).2 rfl]

end WellFormed

/-! ## Trees that stay the same -/

/-- What nodes show depends on the nodes below them only. -/
theorem treesWithin_congr (h : d.WellFormed) {fuel : Nat} {ns : List Nat}
    (hd : ∀ m, (∃ n ∈ ns, n ∈ d.lineage m) →
      (d'.node m).kind = (d.node m).kind ∧ (d'.node m).children = (d.node m).children) :
    d'.treesWithin fuel ns = d.treesWithin fuel ns := by
  induction fuel generalizing ns with
  | zero => rfl
  | succ fuel ih =>
    rw [treesWithin_succ, treesWithin_succ]
    refine List.map_congr_left fun n hn => ?_
    obtain ⟨hk, hc⟩ := hd n ⟨n, hn, h.mem_lineage_self n⟩
    rw [hk, hc, ih]
    rintro m ⟨c, hc, hm⟩
    refine hd m ⟨n, hn, h.mem_lineage_trans ?_ hm⟩
    rw [h.lineage_of_parent (h.mem_children.1 hc)]
    exact List.mem_cons_of_mem _ (h.mem_lineage_self n)

/-- The nodes whose way up leads through a node make up what is below it. -/
theorem below_congr (h : d.WellFormed) (hs : d.size ≤ d'.size)
    (hd : ∀ m, n ∈ d.lineage m →
      (d'.node m).kind = (d.node m).kind ∧ (d'.node m).children = (d.node m).children) :
    d'.below n = d.below n := by
  rw [below, below, (hd n (h.mem_lineage_self n)).2, treesWithin_congr h, h.treesWithin_eq]
  · omega
  · omega
  · rintro m ⟨c, hc, hm⟩
    refine hd m (h.mem_lineage_trans ?_ hm)
    rw [h.lineage_of_parent (h.mem_children.1 hc)]
    exact List.mem_cons_of_mem _ (h.mem_lineage_self n)

theorem tree_congr (h : d.WellFormed) (hs : d.size ≤ d'.size)
    (hd : ∀ m, n ∈ d.lineage m →
      (d'.node m).kind = (d.node m).kind ∧ (d'.node m).children = (d.node m).children) :
    d'.tree n = d.tree n := by
  rw [tree, tree, (hd n (h.mem_lineage_self n)).1, below_congr h hs hd]

end Document

end Stencil
