import Stencil.Proofs.Markup.Builder
import Stencil.Proofs.Markup.Normal
import Stencil.Proofs.Page.Rendering

/-!
# Reading a written page

A document in normal form is read back from its written form: the same trees, and no other nodes
(`Document.Normal.parse_html`). Over the trees of such a document a builder takes up exactly these
trees, whatever follows (`Builder.read_forest`); what it holds in between is the text that is
pending.
-/

namespace Stencil

namespace Tree

variable {preformatted top before : Bool} {ts : List Tree}

/-- What is written inside a raw element in normal form does not hold the start of a tag. -/
theorem notMem_forestHtml (h : AllNormal preformatted top before ts) (hlength : ts.length ≤ 1)
    (htext : ∀ t ∈ ts, t.isText = true) : '<' ∉ (forestHtml preformatted top before ts).toList := by
  match ts with
  | [] => simp [forestHtml]
  | [text content] =>
    obtain ⟨⟨-, hnotMem, hsettle⟩, -⟩ := h
    rw [List.isEmpty_nil, Bool.not_true] at hsettle
    simpa [forestHtml, html, hsettle] using hnotMem
  | [element _ _ _] => simp [isText] at htext
  | _ :: _ :: _ => simp at hlength

end Tree

namespace Markup

open Stencil.Tree (AllNormal forestHtml)

namespace Builder

variable {b b' : Builder} {t : Tree}

/-- A text that comes next is a text of its own: nothing is pending, and what is shown last is no
text. -/
def TextMayFollow (b : Builder) (run : List Char) : Prop :=
  run = [] ∧ ∀ old, (b.document.below b.current).getLast? ≠ some (.text old)

theorem Shows.textMayFollow (h : Shows b b' [t]) (ht : t.isText = false) : b'.TextMayFollow [] := by
  refine ⟨rfl, fun old hold => ?_⟩
  rw [h.current_eq, h.below_eq, List.getLast?_concat] at hold
  obtain rfl := Option.some.inj hold
  simp [Tree.isText] at ht

theorem isVoid_of_mem_rawTags {tag : String} (h : tag ∈ rawTags) : isVoid tag = false := by
  revert tag
  decide

mutual

/-- A tree in normal form is taken up, all of it but a text that is pending then. -/
theorem read_tree {place : Tree.Place} {b : Builder} {run : List Char} (t : Tree)
    (h : t.Normal place) (hb : (b.flush run).Ready)
    (hfirst : t.isText = true → b.TextMayFollow run) :
    ∃ (b' : Builder) (run' : List Char), Shows (b.flush run) (b'.flush run') [t] ∧
      (t.isText = false → b'.TextMayFollow run') ∧
      ∀ rest, b.read run ((t.html place).toList ++ rest) = b'.read run' rest := by
  match t with
  | .text content =>
    obtain ⟨rfl, hlast⟩ := hfirst rfl
    obtain ⟨hne, hnotMem, hsettle⟩ := h
    refine ⟨b, content.toList.reverse, ?_, by simp [Tree.isText], fun rest => ?_⟩
    · rw [flush_nil] at hb ⊢
      have hflush : b.flush content.toList.reverse = b.step (.text content) := by
        rw [flush, Event.ofRun, List.reverse_reverse, String.ofList_toList]
      rw [hflush]
      exact shows_text hb hne hlast
    · rw [Tree.html, hsettle, String.ofList_toList, read_text hnotMem, List.append_nil]
  | .element tag attributes children =>
    obtain ⟨hn, ha, hvoid, hraw, hchildren⟩ := h
    by_cases hv : isVoid tag = true
    · obtain rfl := hvoid hv
      have hshows := shows_void hb ha hv
      refine ⟨(b.flush run).step (.start ⟨tag, attributes, false⟩), [], hshows,
        hshows.textMayFollow, fun rest => ?_⟩
      rw [Tree.html, if_pos hv]
      exact read_startTag hn ha fun hr => by simp [isVoid_of_mem_rawTags hr] at hv
    · rw [Bool.not_eq_true] at hv
      have hready : (((b.flush run).step (.start ⟨tag, attributes, false⟩)).flush []).Ready :=
        ready_start hb hv
      have hempty : ((b.flush run).step (.start ⟨tag, attributes, false⟩)).TextMayFollow [] :=
        ⟨rfl, by simp [current_start hv, below_start hb]⟩
      obtain ⟨b₁, run₁, hshows₁, hread₁⟩ := read_forest children hchildren hready
        fun _ _ _ => hempty
      have hshows := shows_finish hb ha hv hshows₁
      refine ⟨(b₁.flush run₁).step (.finish tag), [], hshows, hshows.textMayFollow, fun rest => ?_⟩
      have hhtml : ((Tree.element tag attributes children).html place).toList ++ rest =
          (Tree.startTag place tag attributes).toList ++
            ((forestHtml (place.preformatted || isPreformatted tag) false false children).toList ++
              '<' :: '/' :: (tag.toList ++ '>' :: rest)) := by
        simp [Tree.html, hv]
      rw [hhtml, read_startTag hn ha fun hr =>
        ⟨_, rest, rfl, Tree.notMem_forestHtml hchildren (hraw hr).1 (hraw hr).2⟩, hread₁,
        read_endTag hn]

/-- Siblings in normal form are taken up, all of them but a text that is pending then. -/
theorem read_forest {preformatted top before : Bool} {b : Builder} {run : List Char}
    (ts : List Tree) (h : AllNormal preformatted top before ts) (hb : (b.flush run).Ready)
    (hfirst : ∀ t ∈ ts.head?, t.isText = true → b.TextMayFollow run) :
    ∃ (b' : Builder) (run' : List Char), Shows (b.flush run) (b'.flush run') ts ∧
      ∀ rest, b.read run ((forestHtml preformatted top before ts).toList ++ rest) =
        b'.read run' rest := by
  match ts with
  | [] => exact ⟨b, run, .refl hb, fun rest => rfl⟩
  | t :: ts =>
    obtain ⟨ht, hapart, hts⟩ := h
    obtain ⟨b₁, run₁, hshows₁, hfollow, hread₁⟩ := read_tree t ht hb (hfirst t rfl)
    obtain ⟨b₂, run₂, hshows₂, hread₂⟩ := read_forest ts hts (hshows₁.ready hb) fun u hu hut =>
      hfollow (Bool.eq_false_iff.2 fun htt => hapart u hu ⟨htt, hut⟩)
    refine ⟨b₂, run₂, hshows₁.trans hshows₂, fun rest => ?_⟩
    rw [forestHtml, String.toList_append, List.append_assoc, hread₁, hread₂]

end

theorem ready_start_empty : start.Ready where
  wellFormed := Document.WellFormed.empty
  lt_size := Document.WellFormed.empty.root_lt_size
  isText_eq := rfl

end Builder

/-- Trees in normal form are read back from a page, with nothing beside them. -/
theorem parse_pageHtml {ts : List Tree} (h : AllNormal false true false ts) :
    ∃ d, parse (Tree.pageHtml ts) = .ok d ∧ d.WellFormed ∧ d.trees = ts ∧
      d.size = Tree.forestSize ts + 1 := by
  have hbelow : Document.empty.below Document.root = [] := rfl
  have hready : (Builder.start.flush []).Ready := Builder.ready_start_empty
  have hempty : Builder.start.TextMayFollow [] :=
    ⟨rfl, by simp [Builder.start, Builder.current, hbelow]⟩
  obtain ⟨b, run, hshows, hread⟩ := Builder.read_forest ts h hready fun _ _ _ => hempty
  refine ⟨(b.flush run).document, ?_, hshows.wellFormed, ?_, ?_⟩
  · rw [Builder.parse_eq, Tree.pageHtml, ← List.append_nil (String.toList _), hread,
      Builder.read_nil]
    rfl
  · exact hshows.below_eq
  · rw [hshows.size_eq, Nat.add_comm]
    rfl

end Markup

namespace Document

variable {d : Document}

/-- A document in normal form is read back from its written form, without any nodes that are not
shown, and what was read is written in the same way. -/
theorem Normal.parse_html (hn : d.Normal) (h : d.WellFormed) :
    ∃ d', Markup.parse d.html = .ok d' ∧ d'.trees = d.trees ∧
      d'.size = Tree.forestSize d.trees + 1 ∧ d'.html = d.html := by
  obtain ⟨d', hparse, hw, htrees, hsize⟩ := Markup.parse_pageHtml (hn.allNormal_trees h)
  have hhtml : d.html = Tree.pageHtml d.trees := h.html_eq
  refine ⟨d', ?_, htrees, hsize, ?_⟩
  · rw [hhtml, hparse]
  · rw [hw.html_eq, hhtml]
    exact congrArg Tree.pageHtml htrees

/-- A text in front of everything, an element without an end tag behind a text that keeps a blank,
blanks that stay as they are, the body of a script, and an element that is not shown. -/
def Operation.page : List Operation :=
  [.appendText 0 "a ", .addElement "html", .append 0 2, .setAttribute 2 "lang" (some "en"),
    .setAttribute 2 "hidden" none, .appendText 2 "b > c ", .addElement "br", .append 2 4,
    .addElement "pre", .append 2 5, .appendText 5 "d  e", .addElement "script", .append 2 7,
    .appendText 7 "f && g", .addElement "unused"]

theorem Normal.parse_html_of_page :
    ∃ d d', Operation.run? .empty Operation.page = some d ∧ d.WellFormed ∧ d.Normal ∧
      d.html = "a <!DOCTYPE html><html lang=\"en\" hidden>b > c <br><pre>d  e</pre>" ++
        "<script>f && g</script></html>" ∧
      Markup.parse d.html = .ok d' ∧ d'.trees = d.trees ∧ d'.size + 1 = d.size := by
  obtain ⟨d, hrun, hn, hhtml, hcount⟩ : ∃ d, Operation.run? .empty Operation.page = some d ∧
      d.Normal ∧
      d.html = "a <!DOCTYPE html><html lang=\"en\" hidden>b > c <br><pre>d  e</pre>" ++
        "<script>f && g</script></html>" ∧
      Tree.forestSize d.trees + 1 + 1 = d.size :=
    ⟨_, rfl, by decide +kernel, by decide +kernel, by decide +kernel⟩
  have h := WellFormed.empty.run? hrun
  obtain ⟨d', hparse, htrees, hsize, -⟩ := Normal.parse_html hn h
  exact ⟨d, d', hrun, h, hn, hhtml, hparse, htrees, hsize ▸ hcount⟩

end Document

end Stencil
