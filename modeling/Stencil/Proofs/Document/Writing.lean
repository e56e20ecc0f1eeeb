import Mathlib.Data.Nat.Basic
import Stencil.Proofs.Document.Operation
import Stencil.Proofs.Document.Trees

/-!
# Writing at the end of a node

What is written at the end of a node shows behind the trees that are below it (`below_append`,
`below_appendText`), and apart from the node and its children nothing that was there before changes
(`Grows`).
-/

namespace Stencil

namespace Tree

/-- Trees with text behind them. It goes on with a text that is there. -/
def addText (before : List Tree) (content : String) : List Tree :=
  if content = "" then before
  else
    match before.getLast? with
    | some (.text old) => before.dropLast ++ [.text (old ++ content)]
    | _ => before ++ [.text content]

mutual

/-- Trees with one more behind them. No text stands next to another one that was put there after
it, neither here nor inside. -/
def onto (before : List Tree) : Tree → List Tree
  | text content => addText before content
  | element tag attributes children => before ++ [.element tag attributes (allOnto [] children)]

/-- Trees with more behind them. -/
def allOnto (before : List Tree) : List Tree → List Tree
  | [] => before
  | t :: ts => allOnto (t.onto before) ts

end

/-- Trees are put behind others one after the other. -/
theorem allOnto_append (before ts us : List Tree) :
    allOnto before (ts ++ us) = allOnto (allOnto before ts) us := by
  induction ts generalizing before with
  | nil => rfl
  | cons t ts ih => exact ih (t.onto before)

end Tree

namespace Document

variable {d d' d'' : Document} {k m n p : Nat}

/-! ## What may change -/

/-- Of the nodes numbered below `k`, at most `p` and its children change: more children may come
to `p`, and texts among its children may go on. -/
structure Grows (k p : Nat) (d d' : Document) : Prop where
  size_le : d.size ≤ d'.size
  parent_eq : ∀ m < k, (d'.node m).parent = (d.node m).parent
  node_eq : ∀ m < k, m ≠ p → (d.node m).parent ≠ some p → d'.node m = d.node m
  children_eq : ∀ m < k, m ≠ p → (d'.node m).children = (d.node m).children
  kind_eq : ∀ m < k, d.isText m = false → (d'.node m).kind = (d.node m).kind
  isText_eq : ∀ m < k, d'.isText m = d.isText m
  children_prefix : (d.node p).children <+: (d'.node p).children

namespace Grows

/-- Growing and then growing on is growing. -/
theorem trans (h : Grows k p d d') (h' : Grows k p d' d'') : Grows k p d d'' where
  size_le := h.size_le.trans h'.size_le
  parent_eq m hm := (h'.parent_eq m hm).trans (h.parent_eq m hm)
  node_eq m hm hmp hpp := by
    rw [h'.node_eq m hm hmp (by rwa [h.parent_eq m hm]), h.node_eq m hm hmp hpp]
  children_eq m hm hmp := (h'.children_eq m hm hmp).trans (h.children_eq m hm hmp)
  kind_eq m hm ht := (h'.kind_eq m hm (by rwa [h.isText_eq m hm])).trans (h.kind_eq m hm ht)
  isText_eq m hm := (h'.isText_eq m hm).trans (h.isText_eq m hm)
  children_prefix := h.children_prefix.trans h'.children_prefix

/-- Nothing changes where no node that was there does. -/
theorem of_node_eq (hs : d.size ≤ d'.size) (hp : p < k) (hd : ∀ m < k, d'.node m = d.node m) :
    Grows k p d d' where
  size_le := hs
  parent_eq m hm := by rw [hd m hm]
  node_eq m hm _ _ := hd m hm
  children_eq m hm _ := by rw [hd m hm]
  kind_eq m hm _ := by rw [hd m hm]
  isText_eq m hm := by rw [isText, isText, hd m hm]
  children_prefix := hd p hp ▸ List.prefix_rfl

theorem refl (hp : p < k) : Grows k p d d :=
  of_node_eq (Nat.le_refl _) hp fun _ _ => rfl

/-- Where fewer nodes count, all the more has only grown. -/
theorem mono {j : Nat} (h : Grows k p d d') (hj : j ≤ k) : Grows j p d d' where
  size_le := h.size_le
  parent_eq m hm := h.parent_eq m (hm.trans_le hj)
  node_eq m hm := h.node_eq m (hm.trans_le hj)
  children_eq m hm := h.children_eq m (hm.trans_le hj)
  kind_eq m hm := h.kind_eq m (hm.trans_le hj)
  isText_eq m hm := h.isText_eq m (hm.trans_le hj)
  children_prefix := h.children_prefix

end Grows

/-! ## A node at the end -/

/-- A node that stands apart is put in without being taken out first. -/
theorem append_of_parent_eq_none (hc : d.canAppend p n = true) (hn : (d.node n).parent = none) :
    d.append p n = d.attach p n := by
  simp [append, append?, hc, detach_of_parent_eq_none hn]

/-- Putting in a node that counts for nothing lets the parent grow. -/
theorem grows_attach (h : d.WellFormed) (hp : p < d.size) (hn : n < d.size) (hk : k ≤ n) :
    Grows k p d (d.attach p n) where
  size_le := size_attach.ge
  parent_eq m hm := by rw [parent_attach hn, if_neg (by omega)]
  node_eq m hm hmp hpp := by
    have hmn : m ≠ n := by omega
    have hl : (d.node p).children.getLast? ≠ some m := fun he =>
      hpp (h.mem_children.1 (List.mem_of_getLast? he))
    apply Node.ext
    · exact kind_attach
    · rw [parent_attach hn, if_neg hmn]
    · rw [previous_attach hn, if_neg hmn]
    · rw [next_attach hn, if_neg hmn, if_neg (fun he => hl he.1)]
    · rw [children_attach hp, if_neg hmp]
  children_eq m hm hmp := by rw [children_attach hp, if_neg hmp]
  kind_eq m _ _ := kind_attach
  isText_eq m _ := by rw [isText, isText, kind_attach]
  children_prefix := by
    rw [children_attach hp, if_pos rfl]
    exact List.prefix_append _ _

/-- A lone node that becomes a child shows behind the other children. -/
theorem below_append (h : d.WellFormed) (hp : p < d.size) (hn : n < d.size)
    (hnp : (d.node n).parent = none) (hc : d.canAppend p n = true) :
    (d.append p n).below p = d.below p ++ [d.tree n] := by
  have h' := h.append hp hn
  rw [append_of_parent_eq_none hc hnp] at h' ⊢
  have hl := (canAppend_eq_true.1 hc).2.2
  have hsame : ∀ c, c ∉ d.lineage p → (d.attach p n).tree c = d.tree c := fun c hcl =>
    tree_congr h size_attach.ge fun m hm => by
      have hmp : m ≠ p := by
        rintro rfl
        exact hcl hm
      rw [children_attach hp, if_neg hmp, kind_attach]
      exact ⟨rfl, rfl⟩
  rw [h'.below_eq, h.below_eq, children_attach hp, if_pos rfl, List.map_append, List.map_singleton,
    hsame n hl]
  congr 1
  exact List.map_congr_left fun c hc => hsame c (h.notMem_lineage_parent (h.mem_children.1 hc))

/-! ## Text at the end -/

/-- What shows last at the end of a node is its last child. -/
theorem getLast?_below (h : d.WellFormed) (p : Nat) :
    (d.below p).getLast? = (d.node p).children.getLast?.map d.tree := by
  rw [h.below_eq, List.getLast?_map]

/-- The last tree below a node is a text exactly if its last child is. -/
theorem getLast?_below_eq_text (h : d.WellFormed) {content : String} :
    (d.below p).getLast? = some (.text content) ↔ ∃ l, d.lastText? p = some (l, content) := by
  rw [getLast?_below h, Option.map_eq_some_iff]
  refine exists_congr fun l => ?_
  rw [lastText?_eq_some, tree]
  refine and_congr_right fun _ => ?_
  cases (d.node l).kind <;> simp [Node.Kind.tree]

/-- Text that goes on with the last child of a node. -/
theorem below_modify_text (h : d.WellFormed) {l : Nat} {old new : String}
    (hl : d.lastText? p = some (l, old)) :
    (d.modify l fun x => { x with kind := .text new }).below p =
      (d.below p).dropLast ++ [.text new] := by
  obtain ⟨hlast, hk⟩ := lastText?_eq_some.1 hl
  obtain ⟨init, hinit⟩ := List.getLast?_eq_some_iff.1 hlast
  have hlp : (d.node l).parent = some p := h.mem_children.1 (List.mem_of_getLast? hlast)
  have hls := (h.lt_size_of_parent hlp).1
  have h' : (d.modify l fun x => { x with kind := .text new }).WellFormed :=
    h.modify_kind (by simp) (by simp [hk]) fun _ _ => isText_eq_true.2 ⟨old, hk⟩
  have hchildren : ∀ m, ((d.modify l fun x => { x with kind := .text new }).node m).children =
      (d.node m).children := by
    intro m
    rw [node_modify]
    split <;> rfl
  have hsame : ∀ c ∈ init,
      (d.modify l fun x => { x with kind := .text new }).tree c = d.tree c := by
    intro c hc
    have hcp : (d.node c).parent = some p := h.mem_children.1 (by simp [hinit, hc])
    have hnd := h.nodup_children (p := p)
    rw [hinit, List.nodup_append] at hnd
    refine tree_congr h (size_modify _).ge fun m hm => ⟨?_, hchildren m⟩
    have hlm : l ≠ m := by
      rintro rfl
      rw [h.lineage_of_parent hlp] at hm
      rcases List.mem_cons.1 hm with rfl | hm
      · exact hnd.2.2 c hc c (by simp) rfl
      · exact h.notMem_lineage_parent hcp hm
    rw [node_modify, if_neg (fun he => hlm he.1)]
  rw [h'.below_eq, h.below_eq, hchildren, hinit, List.map_append, List.map_append,
    List.map_congr_left hsame]
  simp [tree, node_modify, hls, Node.Kind.tree]

/-- A new node shows nowhere. -/
theorem below_add (h : d.WellFormed) (hp : p < d.size) (kind : Node.Kind) :
    (d.add kind).1.below p = d.below p := by
  refine below_congr h (by simp) fun m hm => ?_
  rw [node_add_of_ne (h.lt_size_of_mem_lineage hm hp).ne]
  exact ⟨rfl, rfl⟩

/-- A node that came later may become a child where the ways up from the earlier nodes did not
change. -/
theorem canAppend_of_later (h : d.WellFormed) (h' : d'.WellFormed)
    (hd : ∀ m < d.size, (d'.node m).parent = (d.node m).parent) (hp : p < d.size)
    (ht : d'.isText p = false) : d'.canAppend p d.size = true := by
  have hlt : ∀ m ∈ d.lineage p, m < d.size := fun m hm =>
    h.lt_size_of_mem_ascent (h.ascent_lineage p) hp hm
  have hl : d'.Ascent p (d.lineage p) := (h.ascent_lineage p).congr fun m hm => hd m (hlt m hm)
  refine canAppend_eq_true.2 ⟨ht, h.root_lt_size.ne', ?_⟩
  rw [h'.lineage_eq hl]
  exact fun hm => (hlt _ hm).ne rfl

/-- A new node may be put in at any node that is no text. -/
theorem canAppend_add (h : d.WellFormed) (hp : p < d.size) (ht : d.isText p = false)
    {kind : Node.Kind} (hk : kind ≠ .document) : (d.add kind).1.canAppend p d.size = true := by
  refine canAppend_of_later h (h.add hk) (fun m hm => ?_) hp ?_
  · rw [node_add_of_ne hm.ne]
  · rwa [isText, node_add_of_ne hp.ne]

/-- Where no text is last, a text becomes a node of its own. -/
theorem appendText_of_lastText?_eq_none {content : String} (hl : d.lastText? p = none)
    (hc : content ≠ "") :
    d.appendText p content = (d.add (.text content)).1.append p d.size := by
  simp only [appendText, if_neg hc, hl, add_snd]

/-- A text that is added shows at the end, in the text that is last there or by itself. -/
theorem below_appendText (h : d.WellFormed) (hp : p < d.size) (ht : d.isText p = false)
    (content : String) :
    (d.appendText p content).below p = Tree.addText (d.below p) content := by
  by_cases hc : content = ""
  · simp [appendText, Tree.addText, hc]
  · rw [Tree.addText, if_neg hc]
    cases hl : d.lastText? p with
    | some found =>
      obtain ⟨l, old⟩ := found
      rw [(getLast?_below_eq_text h).2 ⟨l, hl⟩, appendText, if_neg hc, hl]
      exact below_modify_text h hl
    | none =>
      have hlast : ∀ old, (d.below p).getLast? ≠ some (.text old) := fun old he => by
        obtain ⟨l, hl'⟩ := (getLast?_below_eq_text h).1 he
        simp [hl] at hl'
      have hk : Node.Kind.text content ≠ .document := by simp
      have happ := below_append (h.add hk) (p := p) (n := d.size) (by rw [size_add]; omega)
        (by rw [size_add]; omega) (by simp [Node.detached]) (canAppend_add h hp ht hk)
      rw [appendText_of_lastText?_eq_none hl hc, happ, below_add h hp]
      simp only [tree, node_add_size, Node.detached, Node.Kind.tree]

/-- Adding a text changes what is at the end of the node and nothing else. -/
theorem grows_appendText (h : d.WellFormed) (hp : p < d.size) (ht : d.isText p = false)
    (content : String) : Grows d.size p d (d.appendText p content) := by
  by_cases hc : content = ""
  · rw [appendText, if_pos hc]
    exact .refl hp
  · cases hl : d.lastText? p with
    | some found =>
      obtain ⟨l, old⟩ := found
      rw [appendText, if_neg hc, hl]
      obtain ⟨hlast, hk⟩ := lastText?_eq_some.1 hl
      have hlp : (d.node l).parent = some p := h.mem_children.1 (List.mem_of_getLast? hlast)
      refine ⟨(size_modify _).ge, ?_, ?_, ?_, ?_, ?_, ?_⟩
      · intro m _
        rw [node_modify]
        split <;> rfl
      · intro m _ _ hmp
        rw [node_modify, if_neg]
        rintro ⟨rfl, -⟩
        exact hmp hlp
      · intro m _ _
        rw [node_modify]
        split <;> rfl
      · intro m _ hmt
        rw [node_modify, if_neg]
        rintro ⟨rfl, -⟩
        simp [isText, hk] at hmt
      · intro m hm
        by_cases hlm : l = m
        · subst hlm
          rw [isText_eq_true.2 ⟨old, hk⟩, isText_eq_true]
          exact ⟨old ++ content, by simp [node_modify, hm]⟩
        · rw [isText, isText, node_modify, if_neg (fun he => hlm he.1)]
      · rw [node_modify]
        split <;> exact List.prefix_rfl
    | none =>
      have hk : Node.Kind.text content ≠ .document := by simp
      have hadd : Grows d.size p d (d.add (.text content)).1 :=
        .of_node_eq (by simp) hp fun m hm => node_add_of_ne hm.ne
      rw [appendText_of_lastText?_eq_none hl hc,
        append_of_parent_eq_none (canAppend_add h hp ht hk) (by simp [Node.detached])]
      exact hadd.trans (grows_attach (h.add hk) (by rw [size_add]; omega) (by rw [size_add]; omega)
        (Nat.le_refl _))

/-! ## An element that is filled apart -/

/-- A document with one more node, an element that is not attached. -/
structure HasNew (d d' : Document) (tag : String) (attributes : Attributes) : Prop where
  wellFormed : d'.WellFormed
  size_eq : d'.size = d.size + 1
  node_eq : ∀ m < d.size, d'.node m = d.node m
  node_size : d'.node d.size = .detached (.element tag attributes)

namespace HasNew

variable {tag : String} {attributes : Attributes}

/-- An element begins without attributes. -/
theorem add (h : d.WellFormed) (tag : String) :
    HasNew d (d.add (.element tag [])).1 tag [] where
  wellFormed := h.add (by simp)
  size_eq := size_add _
  node_eq _ hm := node_add_of_ne hm.ne
  node_size := node_add_size _

/-- An attribute that is set is set on the new element alone. -/
theorem setAttribute (h : HasNew d d' tag attributes) (name : String) (value : Option String) :
    HasNew d (d'.setAttribute d.size name value) tag (put name value attributes) := by
  have hk : (d'.node d.size).kind = .element tag attributes := by
    rw [h.node_size]
    rfl
  refine ⟨h.wellFormed.setAttribute _ _ _, ?_, fun m hm => ?_, ?_⟩ <;>
    rw [Document.setAttribute, hk]
  · exact (size_modify _).trans h.size_eq
  · simp only [node_modify]
    rw [if_neg (fun he => hm.ne he.1.symm), h.node_eq m hm]
  · have hlt : d.size < d'.size := by
      rw [h.size_eq]
      omega
    simp only [node_modify, hlt, and_self, if_true, h.node_size]
    rfl

/-- So are several, one after the other. -/
theorem setAttributes (h : HasNew d d' tag attributes) (more : Attributes) :
    HasNew d (more.foldl (fun d' (name, value) => d'.setAttribute d.size name value) d') tag
      (more.foldl (fun before (name, value) => put name value before) attributes) := by
  induction more generalizing d' attributes with
  | nil => exact h
  | cons a more ih => exact ih (h.setAttribute a.1 a.2)

/-- The new element is empty. -/
theorem below_size (h : HasNew d d' tag attributes) : d'.below d.size = [] := by
  rw [h.wellFormed.below_eq, h.node_size]
  rfl

/-- Filling the new element changes none of the nodes that were there before. -/
theorem node_eq_of_grows (h : HasNew d d' tag attributes) (hd : d.WellFormed)
    (hg : Grows d'.size d.size d' d'') (hm : m < d.size) : d''.node m = d.node m := by
  have hpar : (d'.node m).parent ≠ some d.size := by
    rw [h.node_eq m hm]
    exact fun he => (hd.lt_size_of_parent he).2.ne rfl
  rw [hg.node_eq m (by rw [h.size_eq]; omega) hm.ne hpar, h.node_eq m hm]

/-- However it was filled, the new element may be put in at a node that was there before, since it
is not above it. -/
theorem canAppend (h : HasNew d d' tag attributes) (hd : d.WellFormed) (hw : d''.WellFormed)
    (hg : Grows d'.size d.size d' d'') (hp : p < d.size) (ht : d.isText p = false) :
    d''.canAppend p d.size = true := by
  refine canAppend_of_later hd hw (fun m hm => ?_) hp ?_
  · rw [h.node_eq_of_grows hd hg hm]
  · rwa [isText, h.node_eq_of_grows hd hg hp]

/-- Filling the new element does not put it anywhere. -/
theorem parent_eq_none (h : HasNew d d' tag attributes) (hg : Grows d'.size d.size d' d'') :
    (d''.node d.size).parent = none := by
  rw [hg.parent_eq _ (by rw [h.size_eq]; omega), h.node_size]
  rfl

/-- The new element with what it was filled with shows behind what was there. -/
theorem below_append (h : HasNew d d' tag attributes) (hd : d.WellFormed) (hw : d''.WellFormed)
    (hg : Grows d'.size d.size d' d'') (hp : p < d.size) (ht : d.isText p = false) :
    (d''.append p d.size).below p =
      d.below p ++ [.element tag attributes (d''.below d.size)] := by
  have hsize : d.size < d''.size :=
    (show d.size < d'.size by rw [h.size_eq]; omega).trans_le hg.size_le
  have hbelow : d''.below p = d.below p := below_congr hd hsize.le fun m hm => by
    rw [h.node_eq_of_grows hd hg (hd.lt_size_of_mem_lineage hm hp)]
    exact ⟨rfl, rfl⟩
  have hkind : (d''.node d.size).kind = .element tag attributes := by
    rw [hg.kind_eq _ (by rw [h.size_eq]; omega) (by rw [isText, h.node_size]; rfl), h.node_size]
    rfl
  rw [Document.below_append hw (hp.trans hsize) hsize (h.parent_eq_none hg)
    (h.canAppend hd hw hg hp ht), hbelow, tree, hkind]
  rfl

/-- Putting in the new element, when it was filled, changes one node of those that were there
before. -/
theorem grows_append (h : HasNew d d' tag attributes) (hd : d.WellFormed) (hw : d''.WellFormed)
    (hg : Grows d'.size d.size d' d'') (hp : p < d.size) (ht : d.isText p = false) :
    Grows d.size p d (d''.append p d.size) := by
  have hsize : d.size < d''.size :=
    (show d.size < d'.size by rw [h.size_eq]; omega).trans_le hg.size_le
  rw [append_of_parent_eq_none (h.canAppend hd hw hg hp ht) (h.parent_eq_none hg)]
  exact (Grows.of_node_eq hsize.le hp fun m hm => h.node_eq_of_grows hd hg hm).trans
    (grows_attach hw (hp.trans hsize) hsize (Nat.le_refl _))

end HasNew

end Document

end Stencil
