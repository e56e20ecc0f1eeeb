import Stencil.Proofs.Document.Transfer
import Stencil.Proofs.Markup.Normal
import Stencil.Proofs.Text.Word

/-!
# How texts are spaced

Of the blanks in a text its written form shows where they stand, but not what they are: it is the
words of the text with single spaces between them, and a space at an end where the text has blanks
and a sibling (`settle_eq_spaced`). So a run of blanks may be written as any other one, and the page
stays the same (`html_withText`). Below a preformatted element only blanks at ends without a sibling
are dropped (`exists_trimsTo`).
-/

namespace Stencil

open Text

namespace Tree

variable {c : Char} {a b cs raw v w : List Char} {blank top before after : Bool}

/-! ## Runs of blanks -/

theorem collapse_solid_append (hw : Solid w) (hne : w ≠ []) (cs : List Char) :
    collapse blank (w ++ cs) = w ++ collapse false cs := by
  induction w generalizing blank with
  | nil => exact absurd rfl hne
  | cons c w ih =>
    rw [Solid, List.forall_mem_cons] at hw
    rw [List.cons_append, collapse, if_neg (by simp [hw.1])]
    by_cases h : w = []
    · subst h
      rfl
    · rw [ih hw.2 h, List.cons_append]

/-- A blank in front of a text is all that it may matter for whether one went before. -/
theorem collapse_false (cs : List Char) :
    collapse false cs = (if startsBlank cs then [' '] else []) ++ collapse true cs := by
  cases cs with
  | nil => rfl
  | cons c cs => by_cases hc : isBlank c = true <;> simp [collapse, startsBlank, hc]

/-- Behind a blank a collapsed text is its joined words, and a space if it ends in a blank. -/
theorem collapse_true (cs : List Char) :
    collapse true cs = joined cs ++ if words cs ≠ [] ∧ endsBlank cs then [' '] else [] := by
  induction cs using induction_words with
  | solid w hw =>
    rw [joined_of_solid hw, endsBlank_of_solid hw]
    by_cases hne : w = []
    · subst hne
      rfl
    · have hcollapse : collapse true (w ++ []) = w ++ collapse false [] :=
        collapse_solid_append hw hne []
      simpa [collapse] using hcollapse
  | blank w c cs hw hc ih =>
    simp only [endsBlank_append_cons w cs hc, words_append_cons w cs hc, words_of_solid hw]
    by_cases hne : w = []
    · subst hne
      rw [List.nil_append, collapse, if_pos hc, if_pos rfl, ih, joined_cons cs hc]
      by_cases hcs : words cs = [] <;> simp [hcs]
    · rw [collapse_solid_append hw hne, collapse, if_pos hc, if_neg Bool.false_ne_true, ih,
        joined_append_cons hw hne hc]
      by_cases hcs : words cs = []
      · simp [hcs, joined, hne]
      · simp [hcs, hne]

/-- Which blanks a run is made of makes no difference, wherever the run stands. -/
theorem collapse_run (ha : ∀ blank, collapse blank v = collapse blank w) (a : List Char)
    (blank : Bool) : collapse blank (a ++ v) = collapse blank (a ++ w) := by
  induction a generalizing blank with
  | nil => exact ha blank
  | cons c a ih => simp only [List.cons_append, collapse, ih]

theorem collapse_bare_append (hv : Bare v) (hne : v ≠ []) (b : List Char) (blank : Bool) :
    collapse blank (v ++ b) = (if blank then [] else [' ']) ++ collapse true b := by
  induction v generalizing blank with
  | nil => exact absurd rfl hne
  | cons c v ih =>
    rw [Bare, List.forall_mem_cons] at hv
    have hrest : collapse true (v ++ b) = collapse true b := by
      by_cases h : v = []
      · rw [h, List.nil_append]
      · simpa using ih hv.2 h true
    rw [List.cons_append, collapse, if_pos hv.1, hrest]
    cases blank <;> rfl

/-- A run of blanks may be written as any other one. -/
theorem collapse_respace (hv : Bare v) (hvne : v ≠ []) (hw : Bare w) (hwne : w ≠ [])
    (a b : List Char) : collapse blank (a ++ v ++ b) = collapse blank (a ++ w ++ b) := by
  rw [List.append_assoc, List.append_assoc]
  refine collapse_run (fun blank => ?_) a blank
  rw [collapse_bare_append hv hvne, collapse_bare_append hw hwne]

/-! ## Outer blanks -/

/-- To collapse the blanks at the start and to drop them is to drop them at once. -/
theorem trimStart_collapse (cs : List Char) (blank : Bool) :
    trimStart (collapse blank cs) = collapse true cs := by
  induction cs generalizing blank with
  | nil => rfl
  | cons c cs ih =>
    by_cases hc : isBlank c = true
    · have hspace : trimStart (' ' :: collapse true cs) = trimStart (collapse true cs) := rfl
      cases blank <;> simp [collapse, hc, hspace, ih]
    · simp [collapse, hc, trimStart]

theorem trimEnd_append_bare (front : List Char) (hc : isBlank c = false) (hb : Bare b) :
    trimEnd (front ++ [c] ++ b) = front ++ [c] := by
  have hdrop : b.reverse.dropWhile isBlank = [] :=
    List.dropWhile_eq_nil_iff.2 fun d hd => hb d (List.mem_reverse.1 hd)
  simp [trimEnd, List.dropWhile_append, hdrop, hc]

/-- The words of a text joined by single spaces, with a space in front if the text starts with a
blank and something goes before it, and one at the end if it ends in a blank and something comes
after it. A text without words is empty. -/
def spaced (before after : Bool) (raw : List Char) : List Char :=
  if words raw = [] then []
  else
    (if before && startsBlank raw then [' '] else []) ++ [' '].intercalate (words raw)
      ++ if after && endsBlank raw then [' '] else []

/-- Outside preformatted elements, text is settled by its words. -/
theorem settle_eq_spaced (top before after : Bool) (raw : List Char) :
    settle ⟨false, top, before, after⟩ raw = spaced before after raw := by
  have hstart : (if before then collapse false raw else trimStart (collapse false raw)) =
      (if before && startsBlank raw then [' '] else []) ++ collapse true raw := by
    rw [trimStart_collapse, collapse_false]
    cases before <;> simp
  simp only [settle, Bool.false_eq_true, if_false, hstart, collapse_true]
  rw [spaced, ← joined]
  by_cases h : words raw = []
  · cases before <;> cases after <;> cases startsBlank raw <;> simp [h, joined, trimEnd, isBlank]
  · obtain ⟨front, c, hjoined, hc⟩ := exists_joined_eq_append h
    have htrail : Bare (if endsBlank raw then [' '] else []) := by split <;> simp [Bare, isBlank]
    have hend := trimEnd_append_bare ((if before && startsBlank raw then [' '] else []) ++ front) hc
      htrail
    rw [List.append_assoc _ front] at hend
    simp only [h, hjoined, ne_eq, not_false_eq_true, true_and, if_false,
      ← List.append_assoc] at hend ⊢
    rw [hend]
    cases after <;> simp [hc]

/-- A text is settled alike whatever its runs of blanks are made of. -/
theorem settle_respace (hv : Bare v) (hvne : v ≠ []) (hw : Bare w) (hwne : w ≠ [])
    (a b : List Char) (top before after : Bool) :
    settle ⟨false, top, before, after⟩ (a ++ v ++ b) =
      settle ⟨false, top, before, after⟩ (a ++ w ++ b) := by
  simp only [settle, Bool.false_eq_true, if_false, collapse_respace hv hvne hw hwne]

/-- What is left of a text without the blanks in front, unless something goes before it, and without
those at the end, unless something comes after it. -/
structure TrimsTo (before after : Bool) (raw body : List Char) : Prop where
  split : ∃ front back, raw = front ++ body ++ back ∧ Bare front ∧ Bare back ∧
    (before = true → front = []) ∧ (after = true → back = [])
  starts : before = false → startsBlank body = false
  ends : after = false → endsBlank body = false

/-- What is trimmed from the start are blanks, and all that are there. -/
theorem trimStart_spec (cs : List Char) :
    startsBlank (trimStart cs) = false ∧ ∃ front, cs = front ++ trimStart cs ∧ Bare front := by
  constructor
  · have := List.head?_dropWhile_not isBlank cs
    rw [trimStart, startsBlank]
    cases h : (cs.dropWhile isBlank).head? <;> simp_all
  · exact ⟨cs.takeWhile isBlank, List.takeWhile_append_dropWhile.symm,
      fun c hc => List.mem_takeWhile_imp hc⟩

/-- What is trimmed from the end are blanks, and all that are there. -/
theorem trimEnd_spec (cs : List Char) :
    endsBlank (trimEnd cs) = false ∧ ∃ back, cs = trimEnd cs ++ back ∧ Bare back := by
  obtain ⟨hstarts, front, hcs, hfront⟩ := trimStart_spec cs.reverse
  refine ⟨?_, front.reverse, ?_, fun c hc => hfront c (List.mem_reverse.1 hc)⟩
  · rwa [trimEnd, endsBlank, List.getLast?_reverse]
  · rw [trimEnd, ← List.reverse_append, ← trimStart, ← hcs, List.reverse_reverse]

/-- Inside preformatted elements, text is trimmed on the sides without a neighbour, and nothing is
left of a text without words. -/
theorem exists_trimsTo (top before after : Bool) (raw : List Char) :
    ∃ body, TrimsTo before after raw body ∧
      settle ⟨true, top, before, after⟩ raw = if Bare body then [] else body := by
  obtain ⟨hstarts, front, hfront, hbare⟩ := trimStart_spec raw
  -- trimming at the end does not bring a blank to the front
  have hkept : ∀ cs, startsBlank cs = false → startsBlank (trimEnd cs) = false := by
    intro cs hcs
    obtain ⟨-, back, hback, -⟩ := trimEnd_spec cs
    cases h : trimEnd cs with
    | nil => rfl
    | cons c _ =>
      rw [hback, h] at hcs
      exact hcs
  refine ⟨_, ?_, if_congr List.all_eq_true rfl rfl⟩
  cases before <;> cases after
  · obtain ⟨hends, back, hback, hbare'⟩ := trimEnd_spec (trimStart raw)
    exact ⟨⟨front, back, by simp [← hback, ← hfront], hbare, hbare', by simp, by simp⟩,
      fun _ => hkept _ hstarts, fun _ => hends⟩
  · exact ⟨⟨front, [], by simp [← hfront], hbare, by simp [Bare], by simp, by simp⟩,
      fun _ => hstarts, by simp⟩
  · obtain ⟨hends, back, hback, hbare'⟩ := trimEnd_spec raw
    exact ⟨⟨[], back, by simp [← hback], by simp [Bare], hbare', by simp, by simp⟩,
      by simp, fun _ => hends⟩
  · exact ⟨⟨[], [], by simp, by simp [Bare], by simp [Bare], by simp, by simp⟩, by simp, by simp⟩

/-! ## Trees -/

/-- Trees that are written alike below the same kind of element make up pages that are. -/
theorem forestHtml_map_congr {f g : Nat → Tree} {ns : List Nat} {preformatted : Bool}
    (h : ∀ n ∈ ns, ∀ place : Place, place.preformatted = preformatted →
      (f n).html place = (g n).html place) (before : Bool) :
    forestHtml preformatted top before (ns.map f) =
      forestHtml preformatted top before (ns.map g) := by
  induction ns generalizing before with
  | nil => rfl
  | cons n ns ih =>
    rw [List.forall_mem_cons] at h
    rw [List.map_cons, List.map_cons, forestHtml, forestHtml, ih h.2, h.1 _ rfl, List.isEmpty_map,
      List.isEmpty_map]

end Tree

namespace Document

variable {d : Document} {n : Nat} {raw a v w b : List Char}

/-- A preformatted element encloses the node. -/
def Preformatted (d : Document) (n : Nat) : Prop :=
  ∃ a tag attributes, a ≠ n ∧ d.Encloses a n ∧ (d.node a).kind = .element tag attributes ∧
    isPreformatted tag = true

/-- The document with another text in place of one. -/
def withText (d : Document) (n : Nat) (raw : List Char) : Document :=
  d.modify n fun x => { x with kind := .text (String.ofList raw) }

theorem kind_withText (m : Nat) : ((d.withText n raw).node m).kind =
    if n = m ∧ m < d.size then .text (String.ofList raw) else (d.node m).kind := by
  rw [withText, node_modify]
  split <;> rfl

theorem children_withText (m : Nat) :
    ((d.withText n raw).node m).children = (d.node m).children := by
  rw [withText, node_modify]
  split <;> rfl

namespace WellFormed

/-- Going up from a node meets every preformatted element that it is inside of. -/
theorem inPreformatted_iff (h : d.WellFormed) : d.inPreformatted n = true ↔ d.Preformatted n := by
  have hnotMem : n ∉ (d.lineage n).tail := by
    have hnodup := (h.ascent_lineage n).nodup
    rw [h.lineage_eq_cons, List.nodup_cons] at hnodup
    exact hnodup.1
  rw [inPreformatted, List.any_eq_true]
  constructor
  · rintro ⟨a, ha, htag⟩
    have hencloses : d.Encloses a n := h.mem_lineage_iff.1 (List.mem_of_mem_tail ha)
    have hne : a ≠ n := fun he => hnotMem (he ▸ ha)
    rw [tag?] at htag
    split at htag
    · next tag attributes hk => exact ⟨a, tag, attributes, hne, hencloses, hk, by simpa using htag⟩
    · simp at htag
  · rintro ⟨a, tag, attributes, hne, hencloses, hk, hpre⟩
    have ha := h.mem_lineage_iff.2 hencloses
    rw [h.lineage_eq_cons, List.mem_cons] at ha
    exact ⟨a, ha.resolve_left hne, by simp [tag?, hk, hpre]⟩

theorem withText (h : d.WellFormed) (hk : d.isText n = true) (raw : List Char) :
    (d.withText n raw).WellFormed := by
  obtain ⟨content, hkind⟩ := isText_eq_true.1 hk
  exact h.modify_kind (by simp) (by simp [hkind]) fun _ _ => hk

/-- Whatever tree a text is in, the tree is written as before if the text is settled as before. -/
theorem html_tree_withText (h : d.WellFormed)
    (hk : (d.node n).kind = .text (String.ofList raw)) {raw' : List Char}
    (hraw : ∀ place : Tree.Place, place.preformatted = d.inPreformatted n →
      Tree.settle place raw' = Tree.settle place raw) (m : Nat) (place : Tree.Place)
    (hplace : place.preformatted = d.inPreformatted m) :
    ((d.withText n raw').tree m).html place = (d.tree m).html place := by
  have h' := h.withText (isText_eq_true.2 ⟨_, hk⟩) raw'
  induction m using h.induction_children generalizing place with
  | step m ih =>
    have hbelow : Tree.forestHtml (d.keepsBlanks m) false false ((d.withText n raw').below m) =
        Tree.forestHtml (d.keepsBlanks m) false false (d.below m) := by
      rw [h.below_eq, h'.below_eq, children_withText]
      refine Tree.forestHtml_map_congr (fun c hc place hplace => ih c hc place ?_) false
      rw [hplace, h.inPreformatted_of_parent (h.mem_children.1 hc)]
    rw [keepsBlanks, tag?, ← hplace] at hbelow
    rw [tree, tree, kind_withText]
    split
    · next hm =>
      obtain ⟨rfl, -⟩ := hm
      simp only [hk, Node.Kind.tree, Tree.html, String.toList_ofList, hraw place hplace]
    · cases hkind : (d.node m).kind with
      | text content => rfl
      | document =>
        rw [hkind] at hbelow
        exact congrArg (Tree.startTag place "" [] ++ · ++ "</" ++ "" ++ ">") hbelow
      | element tag attributes =>
        rw [hkind] at hbelow
        simp only [Node.Kind.tree, Tree.html]
        split
        · rfl
        · exact congrArg (Tree.startTag place tag attributes ++ · ++ "</" ++ tag ++ ">") hbelow

/-- A text that is settled like the one before it can take its place in the page. -/
theorem html_withText (h : d.WellFormed) (hk : (d.node n).kind = .text (String.ofList raw))
    {raw' : List Char} (hraw : ∀ place : Tree.Place, place.preformatted = d.inPreformatted n →
      Tree.settle place raw' = Tree.settle place raw) :
    (d.withText n raw').html = d.html := by
  have h' := h.withText (isText_eq_true.2 ⟨_, hk⟩) raw'
  rw [h.html_eq, h'.html_eq, h.below_eq, h'.below_eq, children_withText, Tree.pageHtml,
    Tree.pageHtml]
  refine Tree.forestHtml_map_congr
    (fun c hc place hplace => h.html_tree_withText hk hraw c place ?_) false
  rw [hplace, h.inPreformatted_of_parent (h.mem_children.1 hc), h.keepsBlanks_root]

end WellFormed

/-- A text that no preformatted element encloses is written as its words with single spaces between
them, with one in front if it starts with a blank and has a sibling there, and one behind likewise,
and the page stays the same if a run of blanks in it becomes another one. Below a preformatted
element a text loses its blanks where it has no sibling, and is empty if nothing else is left. -/
theorem textContent_settles (h : d.WellFormed)
    (hk : (d.node n).kind = .text (String.ofList raw)) :
    (¬d.Preformatted n →
      d.textContent n = String.ofList
        (Tree.spaced (d.node n).previous.isSome (d.node n).next.isSome raw) ∧
      ∀ a v w b, raw = a ++ v ++ b → Bare v → v ≠ [] → Bare w → w ≠ [] →
        (d.withText n (a ++ w ++ b)).html = d.html) ∧
    (d.Preformatted n → ∃ body,
      Tree.TrimsTo (d.node n).previous.isSome (d.node n).next.isSome raw body ∧
      d.textContent n = if Bare body then "" else String.ofList body) := by
  have hcontent : d.textContent n = String.ofList (Tree.settle (d.place n) raw) := by
    simp only [textContent, hk, String.toList_ofList]
  rw [← h.inPreformatted_iff, Bool.not_eq_true, hcontent, place]
  constructor
  · intro hpre
    rw [hpre, Tree.settle_eq_spaced]
    refine ⟨rfl, fun a v w b hraw hv hvne hw hwne => ?_⟩
    refine h.html_withText hk fun place hplace => ?_
    obtain ⟨_, top, before, after⟩ := place
    obtain rfl := hplace.trans hpre
    rw [hraw, Tree.settle_respace hw hwne hv hvne]
  · intro hpre
    obtain ⟨body, hbody, hsettle⟩ := Tree.exists_trimsTo
      ((d.node n).parent.any fun p => (d.node p).kind == .document) (d.node n).previous.isSome
      (d.node n).next.isSome raw
    refine ⟨body, hbody, ?_⟩
    rw [hpre, hsettle]
    split <;> rfl

/-- A text between two elements, and one behind an element in `pre`. -/
theorem textContent_settles_of_page :
    ∃ d, Operation.run? .empty [.addElement "p", .append 0 1, .addElement "b", .append 1 2,
        .appendText 1 "\t x \n yz ", .addElement "i", .append 1 4, .addElement "pre", .append 0 5,
        .addElement "u", .append 5 6, .appendText 5 " x  y \n"] = some d ∧ d.WellFormed ∧
      (d.node 3).kind = .text "\t x \n yz " ∧ ¬d.Preformatted 3 ∧ d.textContent 3 = " x yz " ∧
      (d.withText 3 "\t x\n\n\nyz ".toList).html = d.html ∧
      (d.node 7).kind = .text " x  y \n" ∧ d.Preformatted 7 ∧
      (∃ body, Tree.TrimsTo true false " x  y \n".toList body ∧
        d.textContent 7 = if Bare body then "" else String.ofList body) ∧
      d.textContent 7 = " x  y" := by
  have hrun : Operation.run? .empty [.addElement "p", .append 0 1, .addElement "b", .append 1 2,
      .appendText 1 "\t x \n yz ", .addElement "i", .append 1 4, .addElement "pre", .append 0 5,
      .addElement "u", .append 5 6, .appendText 5 " x  y \n"] = some _ := rfl
  have h := WellFormed.empty.run? hrun
  have hoff : ¬Preformatted _ 3 := fun hp => absurd (h.inPreformatted_iff.2 hp) (by decide)
  have hon : Preformatted _ 7 := h.inPreformatted_iff.1 (by decide)
  obtain ⟨hwords, hrespace⟩ :=
    (@textContent_settles _ 3 "\t x \n yz ".toList h rfl).1 hoff
  have htrimmed := (@textContent_settles _ 7 " x  y \n".toList h rfl).2 hon
  have hhtml := hrespace ['\t', ' ', 'x'] [' ', '\n', ' '] ['\n', '\n', '\n'] ['y', 'z', ' '] rfl
    (by simp [Bare, isBlank]) (by simp) (by simp [Bare, isBlank]) (by simp)
  have hspaced : Tree.spaced true true "\t x \n yz ".toList = " x yz ".toList := by decide
  refine ⟨_, hrun, h, rfl, hoff, ?_, hhtml, rfl, hon, htrimmed, rfl⟩
  exact hwords.trans (congrArg String.ofList hspaced)

end Document

end Stencil
