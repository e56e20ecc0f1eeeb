import Stencil.Proofs.Document.Writing
import Stencil.Proofs.Markup.Event
import Stencil.Proofs.Page.Meaning

/-!
# What a builder shows

A builder puts an element into the page when its start tag is read and fills it afterwards, so what
is written into the last child of a node shows there (`below_of_grows_last`). `Builder.Shows` says
that some steps put trees behind what a builder shows where it is, and did nothing else; there is
one such fact for a text, for an element that is never filled, and for one that is filled and
closed.
-/

namespace Stencil

/-- Trees side by side have the nodes of both. -/
theorem Tree.forestSize_append (ts us : List Tree) :
    forestSize (ts ++ us) = forestSize ts + forestSize us := by
  induction ts with
  | nil => rw [List.nil_append, forestSize, Nat.zero_add]
  | cons t ts ih => rw [List.cons_append, forestSize, forestSize, ih, Nat.add_assoc]

namespace Document

variable {d d' : Document} {m n p q : Nat}

@[simp] theorem size_append : (d.append p n).size = d.size := by
  rw [append, append?]
  split <;> simp

@[simp] theorem kind_append : ((d.append p n).node m).kind = (d.node m).kind := by
  rw [append, append?]
  split <;> simp

/-- What is filled in somewhere in the last child of a node shows at the place of this child. -/
theorem below_of_grows_last (h : d.WellFormed) (h' : d'.WellFormed)
    (hn : (d.node p).children.getLast? = some n) (hq : n ∈ d.lineage q)
    (hg : Grows d.size q d d') : d'.below p = (d.below p).dropLast ++ [d'.tree n] := by
  obtain ⟨before, hbefore⟩ := List.getLast?_eq_some_iff.1 hn
  have hnp : (d.node n).parent = some p := h.mem_children.1 (by simp [hbefore])
  have hpq : p ≠ q := by
    rintro rfl
    exact h.notMem_lineage_parent hnp hq
  have hp := (h.lt_size_of_parent hnp).2
  have hsame : ∀ c ∈ before, d'.tree c = d.tree c := by
    intro c hc
    have hcp : (d.node c).parent = some p := h.mem_children.1 (by simp [hbefore, hc])
    have hcq : c ∉ d.lineage q := by
      have hnd := h.nodup_children (p := p)
      rw [hbefore, List.nodup_append] at hnd
      exact fun hcq => hnd.2.2 c hc n (by simp) (h.eq_of_mem_lineage hcp hnp hcq hq)
    refine tree_congr h hg.size_le fun m hm => ?_
    have hmq : m ≠ q := by
      rintro rfl
      exact hcq hm
    have hmp : (d.node m).parent ≠ some q := by
      intro he
      rw [h.lineage_of_parent he, List.mem_cons] at hm
      rcases hm with rfl | hm
      · exact hpq (Option.some.inj (hcp.symm.trans he))
      · exact hcq hm
    rw [hg.node_eq m (h.lt_size_of_mem_lineage hm (h.lt_size_of_parent hcp).1) hmq hmp]
    exact ⟨rfl, rfl⟩
  rw [h'.below_eq, h.below_eq, hg.children_eq p hp hpq, hbefore, List.map_append, List.map_append,
    List.map_congr_left hsame, List.map_singleton, List.map_singleton, List.dropLast_concat]

end Document

/-- Attributes whose names differ stay as they are. -/
theorem Page.merged_eq {attributes : Attributes} (h : (attributes.map Prod.fst).Nodup) :
    merged attributes = attributes :=
  Markup.foldl_put_eq (by simpa using h)

namespace Markup.Builder

open Document
open Page (merged merged_eq)

variable {b b' b'' : Builder} {ts us : List Tree} {attributes : Attributes} {tag : String}
  {content : String}

/-- A builder that is at a node which may have children. -/
structure Ready (b : Builder) : Prop where
  wellFormed : b.document.WellFormed
  lt_size : b.current < b.document.size
  isText_eq : b.document.isText b.current = false

/-- The later builder is at the same node and shows some more trees there, and apart from the node
and its children nothing that was there before has changed. -/
structure Shows (b b' : Builder) (ts : List Tree) : Prop where
  opened_eq : b'.opened = b.opened
  wellFormed : b'.document.WellFormed
  size_eq : b'.document.size = b.document.size + Tree.forestSize ts
  below_eq : b'.document.below b.current = b.document.below b.current ++ ts
  grows : Grows b.document.size b.current b.document b'.document

namespace Shows

/-- Writing comes back to the element where it began. -/
theorem current_eq (h : Shows b b' ts) : b'.current = b.current := by
  rw [current, current, h.opened_eq]

theorem ready (h : Shows b b' ts) (hb : b.Ready) : b'.Ready where
  wellFormed := h.wellFormed
  lt_size := h.current_eq ▸ hb.lt_size.trans_le h.grows.size_le
  isText_eq := by rw [h.current_eq, h.grows.isText_eq _ hb.lt_size, hb.isText_eq]

theorem refl (hb : b.Ready) : Shows b b [] where
  opened_eq := rfl
  wellFormed := hb.wellFormed
  size_eq := rfl
  below_eq := (List.append_nil _).symm
  grows := .refl hb.lt_size

/-- What shows one after the other shows side by side. -/
theorem trans (h : Shows b b' ts) (h' : Shows b' b'' us) : Shows b b'' (ts ++ us) where
  opened_eq := h'.opened_eq.trans h.opened_eq
  wellFormed := h'.wellFormed
  size_eq := by rw [h'.size_eq, h.size_eq, Tree.forestSize_append, Nat.add_assoc]
  below_eq := by rw [← h.current_eq, h'.below_eq, h.current_eq, h.below_eq, List.append_assoc]
  grows := h.grows.trans (h.current_eq ▸ h'.grows.mono h.grows.size_le)

end Shows

/-! ## Texts -/

/-- A text behind something else shows as it is. -/
theorem shows_text (hb : b.Ready) (hc : content ≠ "")
    (hlast : ∀ old, (b.document.below b.current).getLast? ≠ some (.text old)) :
    Shows b (b.step (.text content)) [.text content] where
  opened_eq := rfl
  wellFormed := hb.wellFormed.appendText hb.lt_size content
  size_eq := by
    have hnone : b.document.lastText? b.current = none := by
      refine Option.eq_none_iff_forall_ne_some.2 fun ⟨l, old⟩ hl => ?_
      exact hlast old ((getLast?_below_eq_text hb.wellFormed).2 ⟨l, hl⟩)
    show (b.document.appendText b.current content).size = _
    rw [appendText_of_lastText?_eq_none hnone hc, size_append, size_add]
    rfl
  below_eq := by
    refine (below_appendText hb.wellFormed hb.lt_size hb.isText_eq content).trans ?_
    rw [Tree.addText, if_neg hc]
    split
    · next old hl => exact absurd hl (hlast old)
    · rfl
  grows := grows_appendText hb.wellFormed hb.lt_size hb.isText_eq content

/-! ## Elements -/

/-- The document with a new element that is not attached yet. -/
def created (d : Document) (tag : String) (attributes : Attributes) : Document :=
  attributes.foldl (fun d' (name, value) => d'.setAttribute d.size name value)
    (d.add (.element tag [])).1

/-- A start tag makes an element with its attributes, and puts it in. -/
theorem document_start (tag : StartTag) :
    (b.step (.start tag)).document =
      (created b.document tag.name tag.attributes).append b.current b.document.size :=
  rfl

/-- The element is open unless it closes itself or is void. -/
theorem opened_step_start (tag : StartTag) :
    (b.step (.start tag)).opened =
      if !tag.selfClosing && !isVoid tag.name then b.document.size :: b.opened else b.opened :=
  rfl

theorem hasNew_created {d : Document} (hd : d.WellFormed) (tag : String) (attributes : Attributes) :
    HasNew d (created d tag attributes) tag (merged attributes) :=
  (HasNew.add hd tag).setAttributes attributes

theorem size_lt_created {d : Document} (hd : d.WellFormed) (tag : String)
    (attributes : Attributes) : d.size < (created d tag attributes).size := by
  rw [(hasNew_created hd tag attributes).size_eq]
  exact Nat.lt_succ_self _

/-- The new element shows behind what was there before, with nothing inside. -/
theorem shows_start (hb : b.Ready) (tag : StartTag) :
    Shows b { b with document := (b.step (.start tag)).document }
      [.element tag.name (merged tag.attributes) []] := by
  have h := hasNew_created hb.wellFormed tag.name tag.attributes
  have hlt := size_lt_created hb.wellFormed tag.name tag.attributes
  rw [document_start]
  refine ⟨rfl, ?_, ?_, ?_, ?_⟩
  · exact h.wellFormed.append (hb.lt_size.trans hlt) hlt
  · rw [size_append, h.size_eq]
    rfl
  · rw [h.below_append hb.wellFormed h.wellFormed (.refl hlt) hb.lt_size hb.isText_eq, h.below_size]
  · exact h.grows_append hb.wellFormed h.wellFormed (.refl hlt) hb.lt_size hb.isText_eq

/-- The new element is the last child of the node at which it was put in. -/
theorem nodes_start (hb : b.Ready) (tag : StartTag) :
    let d := (b.step (.start tag)).document
    (d.node b.document.size).kind = .element tag.name (merged tag.attributes) ∧
      (d.node b.document.size).children = [] ∧
      (d.node b.current).children.getLast? = some b.document.size := by
  have h := hasNew_created hb.wellFormed tag.name tag.attributes
  have hlt := size_lt_created hb.wellFormed tag.name tag.attributes
  rw [document_start, append_of_parent_eq_none
    (h.canAppend hb.wellFormed h.wellFormed (.refl hlt) hb.lt_size hb.isText_eq)
    (h.parent_eq_none (.refl hlt))]
  dsimp only
  rw [kind_attach, children_attach (hb.lt_size.trans hlt), if_neg hb.lt_size.ne',
    children_attach (hb.lt_size.trans hlt), if_pos rfl, h.node_size]
  exact ⟨rfl, rfl, List.getLast?_concat⟩

/-- It is empty at first. -/
theorem below_start (hb : b.Ready) (tag : StartTag) :
    (b.step (.start tag)).document.below b.document.size = [] := by
  rw [(shows_start hb tag).wellFormed.below_eq, (nodes_start hb tag).2.1, List.map_nil]

/-- A void element shows without content, and nothing has to close it. -/
theorem shows_void (hb : b.Ready) (ha : AreAttributes attributes) (hv : isVoid tag = true) :
    Shows b (b.step (.start ⟨tag, attributes, false⟩)) [.element tag attributes []] := by
  have h := shows_start hb ⟨tag, attributes, false⟩
  have hopened : (b.step (.start ⟨tag, attributes, false⟩)).opened = b.opened := by
    rw [opened_step_start, if_neg (by simp [hv])]
  rw [merged_eq ha.nodup, ← hopened] at h
  exact h

theorem opened_start (hv : isVoid tag = false) :
    (b.step (.start ⟨tag, attributes, false⟩)).opened = b.document.size :: b.opened := by
  rw [opened_step_start, if_pos (by simp [hv])]

theorem current_start (hv : isVoid tag = false) :
    (b.step (.start ⟨tag, attributes, false⟩)).current = b.document.size := by
  rw [current, opened_start hv, List.headD_cons]

/-- Inside of an element that was opened one may go on writing. -/
theorem ready_start (hb : b.Ready) (hv : isVoid tag = false) :
    (b.step (.start ⟨tag, attributes, false⟩)).Ready := by
  have hkind := (nodes_start hb ⟨tag, attributes, false⟩).1
  have h := shows_start hb ⟨tag, attributes, false⟩
  refine ⟨h.wellFormed, ?_, ?_⟩
  · rw [current_start hv]
    exact h.size_eq ▸ Nat.lt_succ_self _
  · rw [current_start hv, isText, hkind]

/-- An end tag closes the innermost element if that has its name. -/
theorem close_cons {d : Document} {n : Nat} {opened : List Nat} (h : d.tag? n = some tag) :
    close d tag (n :: opened) = opened := by
  simp [close, h]

/-- What a builder shows inside a new element shows there when the element is closed. -/
theorem shows_finish (hb : b.Ready) (ha : AreAttributes attributes) (hv : isVoid tag = false)
    (h : Shows (b.step (.start ⟨tag, attributes, false⟩)) b' ts) :
    Shows b (b'.step (.finish tag)) [.element tag attributes ts] := by
  obtain ⟨hkind, -, hlast⟩ := nodes_start hb ⟨tag, attributes, false⟩
  have hstart := shows_start hb ⟨tag, attributes, false⟩
  rw [merged_eq ha.nodup] at hkind hstart
  obtain ⟨hopened, hw, hsize, hbelow, hgrows⟩ := h
  rw [current_start hv] at hbelow hgrows
  rw [opened_start hv] at hopened
  have hkind' : (b'.document.node b.document.size).kind = .element tag attributes := by
    rw [hgrows.kind_eq _ (hstart.size_eq ▸ Nat.lt_succ_self _) (by rw [isText, hkind]), hkind]
  have hclose : b'.step (.finish tag) = ⟨b'.document, b.opened⟩ := by
    rw [step, if_neg (by simp [hv]), hopened, close_cons (by rw [tag?, hkind'])]
  have hnode : ∀ m < b.document.size,
      b'.document.node m = (b.step (.start ⟨tag, attributes, false⟩)).document.node m := by
    intro m hm
    refine hgrows.node_eq m (hm.trans_le hstart.grows.size_le) hm.ne ?_
    rw [hstart.grows.parent_eq m hm]
    exact fun he => (hb.wellFormed.lt_size_of_parent he).2.ne rfl
  rw [hclose]
  refine ⟨rfl, hw, ?_, ?_, ?_⟩
  · rw [hsize, hstart.size_eq]
    simp only [Tree.forestSize, Tree.size]
    omega
  · rw [below_of_grows_last hstart.wellFormed hw hlast
      (hstart.wellFormed.mem_lineage_self _) hgrows,
      hstart.below_eq, List.dropLast_concat, tree, hkind', hbelow, below_start hb,
      List.nil_append]
    rfl
  · exact hstart.grows.trans (.of_node_eq hgrows.size_le hb.lt_size hnode)

end Markup.Builder

end Stencil
