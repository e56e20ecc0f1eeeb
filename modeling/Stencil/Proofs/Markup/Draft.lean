import Mathlib.Data.List.Chain
import Stencil.Proofs.Markup.Builder

/-!
# A builder without numbers

What a builder does to a document of numbered nodes can be done to trees alone: what is inside the
innermost open element so far, and for each open element what stands before it (`Draft`). Texts go
on, elements are opened, and an end tag puts everything up to the nearest element of its name where
it belongs. Whatever events there are, balanced or not, the document of a builder shows the trees of
this (`run_eq_draft`): its open elements are the last children of each other, from the document down
to where it is (`Traces`). So none of the nodes that it puts into the page is ever refused.
-/

namespace Stencil

/-! ## Pages with open elements -/

namespace Markup

open Page (merged)

/-- An element that is open, and what stands before it in the same element. -/
structure OpenElement where
  tag : String
  attributes : Attributes
  before : List Tree

/-- A page in which elements are open: what is inside the innermost one so far, and the open
elements, the innermost first. -/
structure Draft where
  inside : List Tree
  opened : List OpenElement

/-- An element that is closed, behind what stands before it. -/
def OpenElement.close (e : OpenElement) (inside : List Tree) : List Tree :=
  e.before ++ [.element e.tag e.attributes inside]

namespace Draft

/-- Nothing is there yet. -/
def start : Draft := ⟨[], []⟩

/-- Closes the nearest of the open elements that has the name, and what was opened inside it. -/
def close? (name : String) (inside : List Tree) : List OpenElement → Option Draft
  | [] => none
  | e :: around =>
    if e.tag = name then some ⟨e.close inside, around⟩ else close? name (e.close inside) around

/-- Takes in an event. -/
def step (p : Draft) : Event → Draft
  | .text content => { p with inside := Tree.addText p.inside content }
  | .start tag =>
    if tag.selfClosing || isVoid tag.name then
      { p with inside := p.inside ++ [.element tag.name (merged tag.attributes) []] }
    else ⟨[], ⟨tag.name, merged tag.attributes, p.inside⟩ :: p.opened⟩
  | .finish name => if isVoid name then p else (close? name p.inside p.opened).getD p

/-- Takes in events in order. -/
def run (p : Draft) (events : List Event) : Draft := events.foldl step p

/-- The trees of the page where all open elements end. -/
def trees (p : Draft) : List Tree := p.opened.foldl (fun inside e => e.close inside) p.inside

end Draft

end Markup

/-! ## Building without refusals -/

/-- Writes text at the end of a node, unless a new node is refused there. -/
def Document.appendText? (d : Document) (parent : Nat) (content : String) : Option Document :=
  if content = "" then some d
  else
    match d.lastText? parent with
    | some (l, old) => some (d.modify l fun x => { x with kind := .text (old ++ content) })
    | none => (d.add (.text content)).1.append? parent d.size

namespace Document

variable {d d' : Document} {n p q : Nat}

/-- An append that is allowed is not refused. -/
theorem append?_eq_some (h : d.canAppend p n = true) : d.append? p n = some (d.append p n) := by
  rw [append, append?, if_pos h, Option.getD_some]

/-- Text is never refused inside a node that is no text itself. -/
theorem appendText?_eq_some (h : d.WellFormed) (hp : p < d.size) (ht : d.isText p = false)
    (content : String) : d.appendText? p content = some (d.appendText p content) := by
  rw [appendText?]
  by_cases hc : content = ""
  · rw [if_pos hc, appendText, if_pos hc]
  · rw [if_neg hc]
    cases hl : d.lastText? p with
    | some found => rw [appendText, if_neg hc, hl]
    | none =>
      rw [appendText_of_lastText?_eq_none hl hc]
      exact append?_eq_some (canAppend_add h hp ht (by simp))

end Document

namespace Markup

open Document
open Page (merged)

variable {d d' : Document} {b : Builder} {p : Draft} {n q : Nat} {opened : List Nat}
  {name : String}

namespace Builder

/-- Takes in an event, unless the node that comes with it is refused where it would go. -/
def step? (b : Builder) : Event → Option Builder
  | .text content =>
    (b.document.appendText? b.current content).map fun d => { b with document := d }
  | .start tag =>
    let d := created b.document tag.name tag.attributes
    (d.append? b.current b.document.size).map fun d =>
      ⟨d, if !tag.selfClosing && !isVoid tag.name then b.document.size :: b.opened else b.opened⟩
  | .finish name => some (b.step (.finish name))

/-- Takes in events in order, as long as no node is refused. -/
def run? (b : Builder) (events : List Event) : Option Builder := events.foldlM step? b

/-- Where a builder is a node may be put in. -/
theorem step?_eq_some (hb : b.Ready) (event : Event) : b.step? event = some (b.step event) := by
  cases event with
  | text content =>
    rw [step?, appendText?_eq_some hb.wellFormed hb.lt_size hb.isText_eq]
    rfl
  | start tag =>
    have h := hasNew_created hb.wellFormed tag.name tag.attributes
    have hc := h.canAppend hb.wellFormed h.wellFormed
      (.refl (size_lt_created hb.wellFormed tag.name tag.attributes)) hb.lt_size hb.isText_eq
    rw [step?]
    simp only [append?_eq_some hc]
    rfl
  | finish name => rfl

end Builder

/-! ## Open elements of a document -/

/-- The open elements of a document are those of a draft. Each is the last child of the one around
it, the outermost of the document itself, and what is below the innermost is inside it. -/
inductive Traces (d : Document) : List Nat → Draft → Prop
  | nil {inside : List Tree} (hbelow : d.below root = inside) : Traces d [] ⟨inside, []⟩
  | cons {n : Nat} {opened : List Nat} {e : OpenElement} {inside : List Tree}
    {around : List OpenElement} (hk : (d.node n).kind = .element e.tag e.attributes)
    (hlast : (d.node (opened.headD root)).children.getLast? = some n)
    (hbelow : d.below n = inside) (h : Traces d opened ⟨e.close inside, around⟩) :
    Traces d (n :: opened) ⟨inside, e :: around⟩

namespace Traces

/-- What is inside the innermost open node is what the draft has there. -/
theorem below_eq (h : Traces d opened p) : d.below (opened.headD root) = p.inside := by
  cases h with
  | nil hbelow => exact hbelow
  | cons _ _ hbelow _ => exact hbelow

/-- The innermost open node is a node of the document. -/
theorem lt_size (h : Traces d opened p) (hd : d.WellFormed) : opened.headD root < d.size := by
  cases h with
  | nil _ => exact hd.root_lt_size
  | cons _ hlast _ _ =>
    exact (hd.lt_size_of_parent (hd.mem_children.1 (List.mem_of_getLast? hlast))).1

/-- The innermost open node is no text. -/
theorem isText_eq (h : Traces d opened p) (hd : d.WellFormed) :
    d.isText (opened.headD root) = false := by
  cases h with
  | nil _ => rw [List.headD_nil, isText, (hd.kind_eq_document root).2 rfl]
  | cons hk _ _ _ => rw [List.headD_cons, isText, hk]

/-- The document as a whole shows the trees of the draft. -/
theorem below_root_eq (h : Traces d opened p) : d.below root = p.trees := by
  induction h with
  | nil hbelow => exact hbelow
  | cons _ _ _ _ ih => exact ih

/-- The open nodes are the open elements of the draft, with the same names and attributes. -/
theorem kinds (h : Traces d opened p) :
    List.Forall₂ (fun n e => (d.node n).kind = .element e.tag e.attributes) opened p.opened := by
  induction h with
  | nil _ => exact .nil
  | cons hk _ _ _ ih => exact .cons hk ih

/-- From one open element to the next the way leads up to the document. -/
theorem isChain (h : Traces d opened p) (hd : d.WellFormed) :
    (opened ++ [root]).IsChain fun n q => (d.node n).parent = some q := by
  induction h with
  | nil _ => exact .singleton _
  | @cons n opened e inside around _ hlast _ _ ih =>
    have hp := hd.mem_children.1 (List.mem_of_getLast? hlast)
    rw [List.cons_append, List.isChain_cons]
    refine ⟨fun q hq => ?_, ih⟩
    cases opened <;> simpa [← Option.mem_some.1 hq] using hp

/-- Filling in the innermost open element, or something inside it, fills in all that are around. -/
theorem grows {inside : List Tree} (h : Traces d opened p) (hd : d.WellFormed) (hd' : d'.WellFormed)
    (hq : opened.headD root ∈ d.lineage q) (hg : Grows d.size q d d')
    (hbelow : d'.below (opened.headD root) = inside) : Traces d' opened ⟨inside, p.opened⟩ := by
  induction h generalizing inside with
  | nil _ => exact .nil hbelow
  | @cons n opened e before around hk hlast _ h ih =>
    have hp := hd.mem_children.1 (List.mem_of_getLast? hlast)
    obtain ⟨hn, hlt⟩ := hd.lt_size_of_parent hp
    have hk' : (d'.node n).kind = .element e.tag e.attributes := by
      rw [hg.kind_eq n hn (by rw [isText, hk]), hk]
    have hne : opened.headD root ≠ q := by
      rintro rfl
      exact hd.notMem_lineage_parent hp hq
    have hup : opened.headD root ∈ d.lineage n := by
      rw [hd.lineage_of_parent hp]
      exact List.mem_cons_of_mem _ (hd.mem_lineage_self _)
    refine .cons hk' (by rwa [hg.children_eq _ hlt hne]) hbelow
      (ih (hd.mem_lineage_trans hup hq) ?_)
    rw [below_of_grows_last hd hd' hlast hq hg, h.below_eq, OpenElement.close,
      List.dropLast_concat, tree, hk', show d'.below n = inside from hbelow]
    rfl

/-- The nearest element of a name is the same one here and there, if there is one. -/
theorem exists_close? (h : Traces d opened p) (name : String) :
    opened.dropWhile (fun n => d.tag? n != some name) = [] ∧
        Draft.close? name p.inside p.opened = none ∨
      ∃ n rest p', opened.dropWhile (fun n => d.tag? n != some name) = n :: rest ∧
        Draft.close? name p.inside p.opened = some p' ∧ Traces d rest p' := by
  induction h with
  | nil _ => exact .inl ⟨rfl, rfl⟩
  | @cons n opened e inside around hk _ _ h ih =>
    have htag : d.tag? n = some e.tag := by rw [tag?, hk]
    by_cases he : e.tag = name
    · refine .inr ⟨n, opened, _, ?_, if_pos he, h⟩
      rw [List.dropWhile_cons_of_neg (by simp [htag, he])]
    · rw [List.dropWhile_cons_of_pos (by simpa [htag] using he), Draft.close?, if_neg he]
      exact ih

/-- An end tag leaves the same elements open here and there. -/
theorem close (h : Traces d opened p) (name : String) :
    Traces d (Builder.close d name opened) ((Draft.close? name p.inside p.opened).getD p) := by
  rcases h.exists_close? name with ⟨hnil, hnone⟩ | ⟨n, rest, p', hcons, hsome, h'⟩
  · rwa [Builder.close, hnil, hnone]
  · rwa [Builder.close, hcons, hsome]

end Traces

/-! ## Builders and drafts -/

namespace Builder

/-- A builder that has done to its document what is done to a draft. -/
structure Realizes (b : Builder) (p : Draft) : Prop where
  wellFormed : b.document.WellFormed
  traces : Traces b.document b.opened p

namespace Realizes

/-- Before the first event, the builder and the draft both have nothing. -/
theorem start : Builder.start.Realizes Draft.start :=
  ⟨.empty, .nil (WellFormed.empty.below_eq root)⟩

theorem ready (h : b.Realizes p) : b.Ready :=
  ⟨h.wellFormed, h.traces.lt_size h.wellFormed, h.traces.isText_eq h.wellFormed⟩

/-- Where trees come behind what a builder shows, they come behind what is inside the draft. -/
theorem of_shows {b' : Builder} {ts : List Tree} (h : b.Realizes p) (hs : Shows b b' ts) :
    b'.Realizes ⟨p.inside ++ ts, p.opened⟩ := by
  refine ⟨hs.wellFormed, ?_⟩
  rw [hs.opened_eq]
  refine h.traces.grows h.wellFormed hs.wellFormed (h.wellFormed.mem_lineage_self _) hs.grows ?_
  exact hs.below_eq.trans (congrArg (· ++ ts) h.traces.below_eq)

/-- A text goes to the same place in the document and in the draft. -/
theorem step_text (h : b.Realizes p) (content : String) :
    (b.step (.text content)).Realizes (p.step (.text content)) := by
  have hb := h.ready
  have hw := hb.wellFormed.appendText hb.lt_size content
  refine ⟨hw, h.traces.grows h.wellFormed hw (h.wellFormed.mem_lineage_self _)
    (grows_appendText hb.wellFormed hb.lt_size hb.isText_eq content) ?_⟩
  exact (below_appendText hb.wellFormed hb.lt_size hb.isText_eq content).trans
    (congrArg (Tree.addText · content) h.traces.below_eq)

/-- A start tag puts the same element into the document and into the draft, and opens it in both or
in neither. -/
theorem step_start (h : b.Realizes p) (tag : StartTag) :
    (b.step (.start tag)).Realizes (p.step (.start tag)) := by
  have hs := h.of_shows (shows_start h.ready tag)
  obtain ⟨hk, -, hlast⟩ := nodes_start h.ready tag
  by_cases hc : (tag.selfClosing || isVoid tag.name) = true
  · have hopened : (b.step (.start tag)).opened = b.opened := by
      rw [opened_step_start, if_neg (by simpa [or_iff_not_imp_left] using hc)]
    refine ⟨hs.wellFormed, ?_⟩
    rw [Draft.step, if_pos hc, hopened]
    exact hs.traces
  · have hopened : (b.step (.start tag)).opened = b.document.size :: b.opened := by
      rw [opened_step_start, if_pos (by simpa using hc)]
    refine ⟨hs.wellFormed, ?_⟩
    rw [Draft.step, if_neg hc, hopened]
    exact .cons hk hlast (below_start h.ready tag) hs.traces

/-- An end tag closes the same elements in the document and in the draft. -/
theorem step_finish (h : b.Realizes p) (name : String) :
    (b.step (.finish name)).Realizes (p.step (.finish name)) := by
  rw [Builder.step, Draft.step]
  split
  · exact h
  · exact ⟨h.wellFormed, h.traces.close name⟩

/-- Every event does to the document of a builder what it does to a draft. -/
theorem step (h : b.Realizes p) (event : Event) : (b.step event).Realizes (p.step event) := by
  cases event with
  | text content => exact h.step_text content
  | start tag => exact h.step_start tag
  | finish name => exact h.step_finish name

/-- After any number of events, the document still shows the draft. -/
theorem run (h : b.Realizes p) (events : List Event) : (b.run events).Realizes (p.run events) := by
  induction events generalizing b p with
  | nil => exact h
  | cons event events ih => exact ih (h.step event)

/-- No node is refused on the way, whatever the events are. -/
theorem run?_eq_some (h : b.Realizes p) (events : List Event) :
    b.run? events = some (b.run events) := by
  induction events generalizing b p with
  | nil => rfl
  | cons event events ih =>
    rw [run?, List.foldlM_cons, step?_eq_some h.ready]
    exact ih (h.step event)

end Realizes

end Builder

/-- Whatever events a builder has taken in, no node was refused where it was put, and the document
shows the trees of the draft that took in the same events. The elements that are open are those of
the draft, each with the next one for a parent and the outermost with the document. -/
theorem run_eq_draft (events : List Event) :
    let b := Builder.start.run events
    let p := Draft.start.run events
    Builder.start.run? events = some b ∧
      b.document.trees = p.trees ∧
      List.Forall₂ (fun n e => (b.document.node n).kind = .element e.tag e.attributes)
        b.opened p.opened ∧
      (b.opened ++ [root]).IsChain fun n q => (b.document.node n).parent = some q := by
  have h := Builder.Realizes.start.run events
  exact ⟨Builder.Realizes.start.run?_eq_some events, h.traces.below_root_eq, h.traces.kinds,
    h.traces.isChain h.wellFormed⟩

/-- The end tag of the outer element closes the inner one too. Its own end tag comes too late. -/
example : (Draft.start.run [.start ⟨"p", [], false⟩, .start ⟨"b", [("a", none)], false⟩, .text "x",
    .finish "p", .finish "b", .text "y", .text "z"]).trees =
      [.element "p" [] [.element "b" [("a", none)] [.text "x"]], .text "yz"] := by
  cbv

end Markup

end Stencil
