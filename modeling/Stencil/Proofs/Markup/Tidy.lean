import Stencil.Proofs.Document.Counting
import Stencil.Proofs.Markup.Builder
import Stencil.Proofs.Markup.Name
import Stencil.Proofs.Markup.Normal

/-!
# What is read is tidy

A page may be as disorderly as it likes; the document that is read from it is not. Every node that
was made is shown, no text is empty or stands next to another one, names are as they should be, and
void elements have nothing inside (`Document.Tidy`). A builder keeps this up because things go into
the document or into elements that are not void (`Builder.Sound`): the open elements are a way down
from the document, and no end tag makes anything else of them than its upper part.
-/

namespace Stencil

/-- What a node of a page may be. -/
def Node.Kind.Tidy : Kind → Prop
  | .document => True
  | .element tag attributes => Markup.IsTagName tag ∧ Markup.AreNamed attributes
  | .text content => content ≠ ""

namespace Document

variable {d d' : Document} {m n p : Nat} {kind : Node.Kind}

/-- What holds of a node that was read from a page. -/
structure TidyAt (d : Document) (n : Nat) : Prop where
  kind : (d.node n).kind.Tidy
  children_eq : ∀ tag ∈ d.tag? n, isVoid tag = true → (d.node n).children = []
  next_isText : d.isText n = true → ∀ m ∈ (d.node n).next, d.isText m = false

/-- Documents in which everything is in its place. -/
structure Tidy (d : Document) : Prop where
  wellFormed : d.WellFormed
  shown : ∀ n < d.size, d.Shown n
  tidyAt : ∀ n < d.size, d.TidyAt n

/-- A node inside which something may be put. -/
structure CanHold (d : Document) (p : Nat) : Prop where
  lt_size : p < d.size
  isText_eq : d.isText p = false
  isVoid_eq : ∀ tag ∈ d.tag? p, isVoid tag = false

theorem isText_congr (h : (d'.node m).kind = (d.node n).kind) : d'.isText m = d.isText n := by
  rw [isText, isText, h]

theorem tag?_congr (h : (d'.node m).kind = (d.node n).kind) : d'.tag? m = d.tag? n := by
  rw [tag?, tag?, h]

namespace WellFormed

/-- The sibling of a node is a node of the document. -/
theorem lt_size_of_next (h : d.WellFormed) (hn : (d.node n).next = some m) : m < d.size := by
  cases hp : (d.node n).parent with
  | none => simp [(h.apart n hp).2] at hn
  | some p => exact (h.lt_size_of_parent (h.parent_of_neighbour hp (.inr hn)).1).1

/-- A node is shown in a later document if the parents of the earlier nodes are what they were. -/
theorem shown_of_parent_eq (h : d.WellFormed) (h' : d'.WellFormed)
    (hd : ∀ m < d.size, (d'.node m).parent = (d.node m).parent) (hn : n < d.size)
    (hs : d.Shown n) : d'.Shown n := by
  have hlineage : d'.lineage n = d.lineage n :=
    h'.lineage_eq ((h.ascent_lineage n).congr fun m hm =>
      hd m (h.lt_size_of_mem_ascent (h.ascent_lineage n) hn hm))
  rw [Shown, hlineage]
  exact hs

end WellFormed

/-! ## One more node -/

/-- A document with one more node, the last child of another. -/
structure HasLast (d d' : Document) (p : Nat) (kind : Node.Kind) : Prop where
  wellFormed : d'.WellFormed
  size_eq : d'.size = d.size + 1
  node_size : d'.node d.size = ⟨kind, some p, (d.node p).children.getLast?, none, []⟩
  kind_eq : ∀ m < d.size, (d'.node m).kind = (d.node m).kind
  parent_eq : ∀ m < d.size, (d'.node m).parent = (d.node m).parent
  children_eq : ∀ m < d.size, m ≠ p → (d'.node m).children = (d.node m).children
  next_eq : ∀ m < d.size, (d'.node m).next =
    if (d.node p).children.getLast? = some m then some d.size else (d.node m).next

/-- A node that was made apart from the others is put to them. -/
theorem hasLast_append {d₁ : Document} (h : d.WellFormed) (h₁ : d₁.WellFormed)
    (hs : d₁.size = d.size + 1) (hnode : ∀ m < d.size, d₁.node m = d.node m)
    (hnew : d₁.node d.size = .detached kind) (hp : d.CanHold p) :
    HasLast d (d₁.append p d.size) p kind := by
  have hlt : d.size < d₁.size := hs ▸ Nat.lt_succ_self _
  have hp₁ : p < d₁.size := hp.lt_size.trans hlt
  have hw := h₁.append hp₁ hlt
  have hc : d₁.canAppend p d.size = true :=
    canAppend_of_later h h₁ (fun m hm => by rw [hnode m hm]) hp.lt_size
      (by rw [isText, hnode p hp.lt_size, ← isText, hp.isText_eq])
  rw [append_of_parent_eq_none hc (by rw [hnew]; rfl)] at hw ⊢
  have hself : ∀ x : Node, x = ⟨x.kind, x.parent, x.previous, x.next, x.children⟩ := fun _ => rfl
  refine ⟨hw, size_attach.trans hs, ?_, fun m hm => ?_, fun m hm => ?_, fun m hm hmp => ?_,
    fun m hm => ?_⟩
  · rw [hself (node ..), kind_attach, parent_attach hlt, previous_attach hlt, next_attach hlt,
      children_attach hp₁, if_pos rfl, if_pos rfl, if_pos rfl, if_neg hp.lt_size.ne', hnew,
      hnode p hp.lt_size]
    rfl
  · rw [kind_attach, hnode m hm]
  · rw [parent_attach hlt, if_neg hm.ne, hnode m hm]
  · rw [children_attach hp₁, if_neg hmp, hnode m hm]
  · rw [next_attach hlt, if_neg hm.ne, hnode p hp.lt_size, hnode m hm]
    simp only [hm.trans hlt, and_true]

namespace HasLast

/-- The node that was put in is a text exactly if it was made as one. -/
theorem isText_size (h : HasLast d d' p kind) : d'.isText d.size = true ↔
    ∃ content, kind = .text content := by
  rw [isText_eq_true, h.node_size]

/-- Nothing is wrong with what was there before, if the new node does not continue a text. -/
theorem tidyAt_of_lt (h : HasLast d d' p kind) (hd : d.Tidy) (hp : d.CanHold p)
    (hlast : ∀ content, kind = .text content → d.lastText? p = none) (hn : n < d.size) :
    d'.TidyAt n := by
  have hat := hd.tidyAt n hn
  have hk := h.kind_eq n hn
  refine ⟨hk ▸ hat.kind, fun tag ht hv => ?_, fun ht m hm => ?_⟩
  · rw [tag?_congr hk] at ht
    by_cases hnp : n = p
    · subst hnp
      simp [hp.isVoid_eq tag ht] at hv
    · rw [h.children_eq n hn hnp]
      exact hat.children_eq tag ht hv
  · rw [isText_congr hk] at ht
    rw [h.next_eq n hn] at hm
    split at hm
    · next hl =>
      obtain rfl := Option.some.inj hm
      rw [← Bool.not_eq_true, h.isText_size]
      rintro ⟨content, hc⟩
      obtain ⟨old, hold⟩ := isText_eq_true.1 ht
      have := lastText?_eq_some.2 ⟨hl, hold⟩
      simp [hlast content hc] at this
    · rw [isText_congr (h.kind_eq m (hd.wellFormed.lt_size_of_next hm))]
      exact hat.next_isText ht m hm

/-- A tidy document stays so with one more node. -/
theorem tidy (h : HasLast d d' p kind) (hd : d.Tidy) (hp : d.CanHold p) (hk : kind.Tidy)
    (hlast : ∀ content, kind = .text content → d.lastText? p = none) : d'.Tidy := by
  have hsplit : ∀ n < d'.size, n < d.size ∨ n = d.size := fun n hn =>
    Nat.lt_succ_iff_lt_or_eq.1 (hn.trans_eq h.size_eq)
  have hshown : ∀ n < d.size, d'.Shown n := fun n hn =>
    hd.wellFormed.shown_of_parent_eq h.wellFormed h.parent_eq hn (hd.shown n hn)
  refine ⟨h.wellFormed, fun n hn => ?_, fun n hn => ?_⟩
  · rcases hsplit n hn with hn | rfl
    · exact hshown n hn
    · exact h.wellFormed.shown_of_parent (by rw [h.node_size]) (hshown p hp.lt_size)
  · rcases hsplit n hn with hn | rfl
    · exact h.tidyAt_of_lt hd hp hlast hn
    · refine ⟨h.node_size ▸ hk, fun _ _ _ => ?_, fun _ m hm => ?_⟩
      · rw [h.node_size]
      · simp [h.node_size] at hm

end HasLast

namespace Tidy

/-- A text may become any other one that is not empty. -/
theorem modify_text (hd : d.Tidy) {old new : String} (hk : (d.node n).kind = .text old)
    (hnew : new ≠ "") : (d.modify n fun x => { x with kind := .text new }).Tidy := by
  generalize hd' : (d.modify n fun x => { x with kind := .text new }) = d'
  have hsize : d'.size = d.size := hd' ▸ size_modify _
  have hlinks : ∀ m, (d'.node m).parent = (d.node m).parent ∧
      (d'.node m).next = (d.node m).next ∧ (d'.node m).children = (d.node m).children := by
    intro m
    rw [← hd', node_modify]
    split <;> exact ⟨rfl, rfl, rfl⟩
  have hkinds : ∀ m, (d'.node m).kind = (d.node m).kind ∨
      (d'.node m).kind = .text new ∧ ∃ old, (d.node m).kind = .text old := by
    intro m
    rw [← hd', node_modify]
    split
    · next hm => exact .inr ⟨rfl, old, hm.1 ▸ hk⟩
    · exact .inl rfl
  have htext : ∀ m, d'.isText m = d.isText m ∧ d'.tag? m = d.tag? m := by
    intro m
    rcases hkinds m with h | ⟨h, old, hold⟩
    · exact ⟨isText_congr h, tag?_congr h⟩
    · rw [isText, isText, tag?, tag?, h, hold]
      exact ⟨rfl, rfl⟩
  have hw : d'.WellFormed := hd' ▸ hd.wellFormed.modify_kind (by simp) (by simp [hk]) fun _ _ =>
    isText_eq_true.2 ⟨old, hk⟩
  refine ⟨hw, fun m hm => ?_, fun m hm => ?_⟩
  · rw [hsize] at hm
    exact hd.wellFormed.shown_of_parent_eq hw (fun x _ => (hlinks x).1) hm (hd.shown m hm)
  · have hat := hd.tidyAt m (hsize ▸ hm)
    refine ⟨?_, fun tag ht hv => ?_, fun ht x hx => ?_⟩
    · rcases hkinds m with h | ⟨h, -⟩
      · exact h ▸ hat.kind
      · exact h ▸ hnew
    · rw [(hlinks m).2.2]
      exact hat.children_eq tag ((htext m).2 ▸ ht) hv
    · rw [(htext x).1]
      exact hat.next_isText ((htext m).1 ▸ ht) x ((hlinks m).2.1 ▸ hx)

/-- Text goes on with the text that is there, or comes behind something else. -/
theorem appendText (hd : d.Tidy) (hp : d.CanHold p) (content : String) :
    (d.appendText p content).Tidy := by
  by_cases hc : content = ""
  · rwa [Document.appendText, if_pos hc]
  · cases hl : d.lastText? p with
    | none =>
      have hk : Node.Kind.text content ≠ .document := by simp
      have hlast : HasLast d ((d.add (.text content)).1.append p d.size) p (.text content) :=
        hasLast_append hd.wellFormed (hd.wellFormed.add hk) (size_add _)
          (fun m hm => node_add_of_ne hm.ne) (node_add_size _) hp
      rw [appendText_of_lastText?_eq_none hl hc]
      exact hlast.tidy hd hp hc fun _ _ => hl
    | some found =>
      obtain ⟨l, old⟩ := found
      rw [Document.appendText, if_neg hc, hl]
      exact hd.modify_text (lastText?_eq_some.1 hl).2 (by simp [hc])

/-- The document that holds nothing is tidy. -/
theorem empty : Document.empty.Tidy where
  wellFormed := .empty
  shown n hn := by
    obtain rfl : n = 0 := Nat.lt_one_iff.1 hn
    decide
  tidyAt n hn := by
    obtain rfl : n = 0 := Nat.lt_one_iff.1 hn
    exact ⟨trivial, by simp [tag?, node, Document.empty, Node.detached],
      by simp [isText, node, Document.empty, Node.detached]⟩

end Tidy

end Document

namespace Markup

open Document

variable {d d' : Document} {opened : List Nat} {p : Nat} {b : Builder} {tag : StartTag}

/-- The open elements of a document lie in each other, the outermost in the document itself, and
none of them is void. -/
inductive Nested (d : Document) : List Nat → Prop
  | nil : Nested d []
  | cons {n : Nat} {opened : List Nat} {tag : String} {attributes : Attributes}
    (hp : (d.node n).parent = some (opened.headD root))
    (hk : (d.node n).kind = .element tag attributes) (hv : isVoid tag = false)
    (h : Nested d opened) : Nested d (n :: opened)

namespace Nested

/-- The innermost open element, or else the document itself, can hold more. -/
theorem canHold (h : Nested d opened) (hd : d.WellFormed) : d.CanHold (opened.headD root) := by
  cases h with
  | nil =>
    have hk := (hd.kind_eq_document root).2 rfl
    refine ⟨hd.root_lt_size, ?_, ?_⟩
    · rw [List.headD_nil, isText, hk]
    · simp [tag?, hk]
  | cons hp hk hv _ =>
    refine ⟨(hd.lt_size_of_parent hp).1, ?_, ?_⟩
    · rw [List.headD_cons, isText, hk]
    · simp [tag?, hk, hv]

/-- What remains open after the innermost ones are closed is nested still. -/
theorem of_suffix {l : List Nat} (h : Nested d opened) (hl : l <:+ opened) : Nested d l := by
  induction h with
  | nil =>
    obtain rfl := List.suffix_nil.1 hl
    exact .nil
  | cons hp hk hv h ih =>
    rcases List.suffix_cons_iff.1 hl with rfl | hl
    · exact .cons hp hk hv h
    · exact ih hl

/-- Nothing happens to open elements when something is put into a node. -/
theorem grows (h : Nested d opened) (hd : d.WellFormed) (hg : Grows d.size p d d') :
    Nested d' opened := by
  induction h with
  | nil => exact .nil
  | cons hp hk hv _ ih =>
    have hn := (hd.lt_size_of_parent hp).1
    have hkind := hg.kind_eq _ hn (by rw [isText, hk])
    exact .cons ((hg.parent_eq _ hn).trans hp) (hkind.trans hk) hv ih

end Nested

namespace Builder

/-- What is built is tidy, and things go on being put where they may be. -/
structure Sound (b : Builder) : Prop where
  tidy : b.document.Tidy
  nested : Nested b.document b.opened

/-- An end tag closes the innermost elements only: what remains open was open around them. -/
theorem close_suffix (d : Document) (name : String) (opened : List Nat) :
    close d name opened <:+ opened := by
  rw [close]
  split
  · exact List.suffix_rfl
  · next n rest h =>
    have hdrop : n :: rest <:+ opened := h ▸ List.dropWhile_suffix _
    exact (List.suffix_cons n rest).trans hdrop

namespace Sound

/-- Nothing is open in the document that a builder starts with. -/
theorem start : Builder.start.Sound := ⟨.empty, .nil⟩

theorem canHold (h : b.Sound) : b.document.CanHold b.current := h.nested.canHold h.tidy.wellFormed

/-- A sound builder can put in whatever comes next. -/
theorem ready (h : b.Sound) : b.Ready :=
  ⟨h.tidy.wellFormed, h.canHold.lt_size, h.canHold.isText_eq⟩

/-- The element of a start tag is the last child of the node at which it was met. -/
theorem hasLast_start (h : b.Sound) (ht : tag.Named) :
    HasLast b.document (b.step (.start tag)).document b.current
      (.element tag.name tag.attributes) := by
  have hnew := hasNew_created h.tidy.wellFormed tag.name tag.attributes
  rw [Page.merged_eq ht.2.nodup] at hnew
  exact hasLast_append h.tidy.wellFormed hnew.wellFormed hnew.size_eq hnew.node_eq hnew.node_size
    h.canHold

/-- Nothing but the node at which a start tag was met changes. -/
theorem grows_start (h : b.Sound) (tag : StartTag) :
    Grows b.document.size b.current b.document (b.step (.start tag)).document :=
  (shows_start h.ready tag).grows

theorem nested_start (h : b.Sound) (tag : StartTag) :
    Nested (b.step (.start tag)).document b.opened :=
  h.nested.grows h.tidy.wellFormed (h.grows_start tag)

/-- A start tag keeps a builder sound. -/
theorem step_start (h : b.Sound) (ht : tag.Named) : (b.step (.start tag)).Sound := by
  have hlast := h.hasLast_start ht
  refine ⟨hlast.tidy h.tidy h.canHold ht (by simp), ?_⟩
  rw [opened_step_start]
  split
  · next hopen =>
    simp only [Bool.and_eq_true, Bool.not_eq_true'] at hopen
    have hkind := congrArg Node.kind hlast.node_size
    exact .cons (congrArg Node.parent hlast.node_size) hkind hopen.2 (h.nested_start tag)
  · exact h.nested_start tag

/-- Every event leaves a tidy document and a way down to a node that may have children. -/
theorem step (h : b.Sound) {event : Event} (he : ∀ tag, event = .start tag → tag.Named) :
    (b.step event).Sound := by
  cases event with
  | text content =>
    exact ⟨h.tidy.appendText h.canHold content, h.nested.grows h.tidy.wellFormed
      (grows_appendText h.tidy.wellFormed h.canHold.lt_size h.canHold.isText_eq content)⟩
  | start tag => exact h.step_start (he tag rfl)
  | finish name =>
    rw [Builder.step]
    split
    · exact h
    · exact ⟨h.tidy, h.nested.of_suffix (close_suffix _ _ _)⟩

/-- No run of events ends the soundness of a builder. -/
theorem run (h : b.Sound) {events : List Event} (he : ∀ tag, .start tag ∈ events → tag.Named) :
    (b.run events).Sound := by
  induction events generalizing b with
  | nil => exact h
  | cons event events ih =>
    refine ih (h.step fun tag ht => he tag ?_) fun tag ht => he tag (List.mem_cons_of_mem _ ht)
    rw [ht]
    exact List.mem_cons_self

end Sound

end Builder

/-- What is built from the events of a page is tidy. -/
theorem tidy_run_of_parse {source : String} (h : parse source = .ok d) : d.Tidy := by
  obtain ⟨events, hevents, rfl⟩ := ok_of_map_ok h
  exact (Builder.Sound.start.run fun _ => named_of_eventsFrom hevents).tidy

/-- The document that is read from a page is tidy, and the trees of the page have all nodes that
were made but the document itself. -/
theorem tidy_of_parse {source : String} (h : parse source = .ok d) :
    d.Tidy ∧ d.size = 1 + Tree.forestSize d.trees := by
  have hd := tidy_run_of_parse h
  exact ⟨hd, (hd.wellFormed.size_eq_iff.2 hd.shown).trans (Nat.add_comm _ _)⟩

/-- A page with capitals, an attribute that comes twice, a comment between two texts, an end tag of
a void element and one of an element that is not open, and a tag that does not end. -/
theorem tidy_of_untidyPage :
    ∃ d, parse "<P A=1 b a='2' / >x<!-- y -->z<BR>u</br></i><p/><b" = .ok d ∧
      d.Tidy ∧ d.size = 1 + Tree.forestSize d.trees := by
  cases hp : parse "<P A=1 b a='2' / >x<!-- y -->z<BR>u</br></i><p/><b" with
  | ok d => exact ⟨d, rfl, tidy_of_parse hp⟩
  | error fault =>
    exact absurd (hasStrayValue_of_eventsFrom (error_of_map_error hp)) (by decide +kernel)

end Markup

end Stencil
