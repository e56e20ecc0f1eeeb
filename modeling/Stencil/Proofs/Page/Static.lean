import Stencil.Proofs.Markup.Tidy
import Stencil.Proofs.Page.Rendering
import Stencil.Proofs.Segment.Braces
import Stencil.Proofs.Store.Plain

/-!
# Pages without expressions

A template that has no opening brace and no element that is not written itself stands for itself
(`meaningOf_tree`). What was read from a page is tidy, so its texts do not run together when they
are written again (`allOnto_below`), and the page is the template as it was read.
-/

namespace Stencil

namespace Segment

variable {t : String}

/-- Without an opening brace a text is one segment, whatever closing braces it has. -/
theorem parse_of_notMem (h : '{' ∉ t.toList) (hne : t ≠ "") : parse t = [.literal t] := by
  have halternate : Alternate [.literal t] := ⟨.singleton _, by simpa [text] using hne⟩
  have hprintable : Printable [.literal t] := ⟨by simpa using h, by simp⟩
  have hprint : print [.literal t] = t := by simp [print]
  simpa [hprint] using parse_print halternate hprintable

end Segment

/-- Without an opening brace a text is its own value, whatever is called elsewhere. -/
theorem Page.Scope.interpolate_of_notMem {t : String} (h : '{' ∉ t.toList) (hne : t ≠ "")
    (scope : Scope) : scope.interpolate t = .str t := by
  rw [interpolate, Segment.interpolateWith, Segment.parse_of_notMem h hne]
  rfl

/-- A text that is not empty does not run together with what is no text. -/
theorem Tree.addText_eq {before : List Tree} {content : String} (hne : content ≠ "")
    (h : ∀ old, before.getLast? ≠ some (.text old)) :
    addText before content = before ++ [.text content] := by
  rw [addText, if_neg hne]
  split
  · next old hlast => exact absurd hlast (h old)
  · rfl

/-- Elements that are not written themselves. -/
def Page.controlTags : List String := ["yes", "no", "for", "include"]

/-- What a node may be that stands for itself. -/
def Node.Kind.IsStatic : Kind → Prop
  | .document => True
  | .text content => '{' ∉ content.toList
  | .element tag attributes =>
    tag ∉ Page.controlTags ∧ ∀ a ∈ attributes, ∀ raw ∈ a.2, '{' ∉ raw.toList

instance : DecidablePred Node.Kind.IsStatic
  | .document => inferInstanceAs (Decidable True)
  | .text content => inferInstanceAs (Decidable ('{' ∉ content.toList))
  | .element tag attributes =>
    inferInstanceAs (Decidable (tag ∉ Page.controlTags ∧
      ∀ a ∈ attributes, ∀ raw ∈ a.2, '{' ∉ raw.toList))

namespace Document

variable {d : Document} {m n : Nat}

/-- A document without expressions and without elements that are not written themselves. -/
def IsStatic (d : Document) : Prop := ∀ n < d.size, (d.node n).kind.IsStatic

instance (d : Document) : Decidable d.IsStatic :=
  inferInstanceAs (Decidable (∀ n < d.size, (d.node n).kind.IsStatic))

theorem kind_of_tree_eq {content : String} (h : d.tree n = .text content) :
    (d.node n).kind = .text content := by
  rw [tree] at h
  cases hk : (d.node n).kind with
  | text content' => simpa [hk, Node.Kind.tree] using h
  | element tag attributes => simp [hk, Node.Kind.tree] at h
  | document => simp [hk, Node.Kind.tree] at h

theorem Tidy.lt_size_of_mem_children (h : d.Tidy) (hc : m ∈ (d.node n).children) : m < d.size :=
  (h.wellFormed.lt_size_of_parent (h.wellFormed.mem_children.1 hc)).1

/-- In front of a text stands no text. -/
theorem Tidy.tree_ne_text (h : d.Tidy) {before after : List Nat} {b c : Nat}
    (hchildren : (d.node n).children = before ++ b :: c :: after) {old content : String}
    (hk : (d.node c).kind = .text content) : d.tree b ≠ .text old := by
  intro hb
  have hnext : (d.node b).next = some c := (h.wellFormed.neighbours n _ _ _ hchildren).2
  have htext : d.isText b = true := by rw [isText, kind_of_tree_eq hb]
  have hmem : b ∈ (d.node n).children := by simp [hchildren]
  have hc := (h.tidyAt b (h.lt_size_of_mem_children hmem)).next_isText htext c hnext
  simp [isText, hk] at hc

/-- A child goes behind its siblings as it is, if what is inside does. -/
theorem Tidy.onto_tree (h : d.Tidy) {before after : List Nat} {c : Nat}
    (hchildren : (d.node n).children = before ++ c :: after)
    (hbelow : Tree.allOnto [] (d.below c) = d.below c) :
    (d.tree c).onto (before.map d.tree) = before.map d.tree ++ [d.tree c] := by
  have hc : c ∈ (d.node n).children := by simp [hchildren]
  rw [tree]
  cases hk : (d.node c).kind with
  | document =>
    have hroot := (h.wellFormed.kind_eq_document c).1 hk
    exact absurd hroot (h.wellFormed.ne_root_of_mem_children hc)
  | element tag attributes => rw [Node.Kind.tree, Tree.onto, hbelow]
  | text content =>
    have htidy := (h.tidyAt c (h.lt_size_of_mem_children hc)).kind
    rw [hk] at htidy
    refine Tree.addText_eq htidy fun old hlast => ?_
    rw [List.getLast?_map, Option.map_eq_some_iff] at hlast
    obtain ⟨b, hlast, hb⟩ := hlast
    obtain ⟨before, rfl⟩ := List.getLast?_eq_some_iff.1 hlast
    rw [List.append_assoc, List.singleton_append] at hchildren
    exact h.tree_ne_text hchildren hk hb

/-- Texts of a tidy document do not run together when its trees are put one after the other. -/
theorem Tidy.allOnto_below (h : d.Tidy) (n : Nat) : Tree.allOnto [] (d.below n) = d.below n := by
  induction n using h.wellFormed.induction_children with
  | step n ih =>
    rw [h.wellFormed.below_eq]
    -- the first of the children, one more each time
    suffices ∀ before after, (d.node n).children = before ++ after →
        Tree.allOnto [] (before.map d.tree) = before.map d.tree from
      this _ [] (List.append_nil _).symm
    intro before
    induction before using List.reverseRecOn with
    | nil => exact fun _ _ => rfl
    | append_singleton before c ihb =>
      intro after hchildren
      rw [List.append_assoc, List.singleton_append] at hchildren
      rw [List.map_append, Tree.allOnto_append, ihb _ hchildren]
      exact h.onto_tree hchildren (ih c (by simp [hchildren]))

end Document

namespace Page

variable {d : Document} {scope : Scope} {attributes : Attributes} {ts : List Tree}
  {inside : Scope → Attributes → Meaning}

theorem Scope.attributeOf_eq {value : Option String} (h : ∀ raw ∈ value, '{' ∉ raw.toList) :
    scope.attributeOf value = some value := by
  cases value with
  | none => rfl
  | some raw =>
    rw [attributeOf]
    split
    · rfl
    · next hne => rw [interpolate_of_notMem (h raw rfl) hne]

theorem filterMap_mapIdx_eq {α : Type} {f : Nat → α → Option α} {l : List α}
    (h : ∀ i, ∀ a ∈ l, f i a = some a) : (l.mapIdx f).filterMap id = l := by
  have hall : l.mapIdx f = l.map some := by
    refine List.ext_getElem (by simp) fun i hi _ => ?_
    rw [List.length_mapIdx] at hi
    simp [h i _ (List.getElem_mem hi)]
  simp [hall]

/-- Attributes without opening braces are written as they are. -/
theorem Scope.attributesOf_eq (h : ∀ a ∈ attributes, ∀ raw ∈ a.2, '{' ∉ raw.toList) :
    scope.attributesOf attributes = attributes := by
  refine filterMap_mapIdx_eq fun i a ha => ?_
  obtain ⟨name, value⟩ := a
  simp [attributeOf_eq (h _ ha)]

theorem meaningOfAll_eq (h : ∀ t ∈ ts, ∀ scope, meaningOf inside scope t = .ok [t])
    (scope : Scope) : meaningOfAll inside scope ts = .ok ts := by
  induction ts generalizing scope with
  | nil => rw [meaningOfAll]
  | cons t ts ih =>
    rw [meaningOfAll, h t List.mem_cons_self, ih fun t ht => h t (List.mem_cons_of_mem _ ht)]
    rfl

theorem meaningOfAll_below (h : d.Tidy) {n : Nat}
    (hc : ∀ c ∈ (d.node n).children, c < d.size → c ≠ Document.root →
      ∀ scope, meaningOf inside scope (d.tree c) = .ok [d.tree c]) (scope : Scope) :
    meaningOfAll inside scope (d.below n) = .ok (d.below n) := by
  refine meaningOfAll_eq (fun t ht => ?_) scope
  rw [h.wellFormed.below_eq] at ht
  obtain ⟨c, hmem, rfl⟩ := List.mem_map.1 ht
  exact hc c hmem (h.lt_size_of_mem_children hmem) (h.wellFormed.ne_root_of_mem_children hmem)

/-- A node without expressions stands for itself, whatever includes do. -/
theorem meaningOf_tree (h : d.Tidy) (hs : d.IsStatic) (inside : Scope → Attributes → Meaning)
    {n : Nat} (hn : n < d.size) (hroot : n ≠ Document.root) (scope : Scope) :
    meaningOf inside scope (d.tree n) = .ok [d.tree n] := by
  induction n using h.wellFormed.induction_children generalizing scope with
  | step n ih =>
    have hstatic := hs n hn
    have htidy := (h.tidyAt n hn).kind
    rw [Document.tree]
    cases hk : (d.node n).kind with
    | document => exact absurd ((h.wellFormed.kind_eq_document n).1 hk) hroot
    | text content =>
      rw [hk] at hstatic htidy
      rw [Node.Kind.tree, meaningOf, Scope.interpolate_of_notMem hstatic htidy]
      rfl
    | element tag attributes =>
      rw [hk] at hstatic htidy
      obtain ⟨htag, hvalues⟩ := hstatic
      simp only [controlTags, List.mem_cons, List.not_mem_nil, or_false, not_or] at htag
      obtain ⟨hyes, hno, hfor, hinclude⟩ := htag
      rw [Node.Kind.tree, meaningOf, if_neg hyes, if_neg hno, if_neg hfor, if_neg hinclude,
        meaningOfAll_below h ih, Scope.attributesOf_eq hvalues, merged_eq htidy.2.nodup]
      rfl

/-- A template without expressions is written as it is, in every context. -/
theorem expand_static (apply : Application) (h : d.Tidy) (hs : d.IsStatic) (s : Store)
    (source : String) (context : Context) :
    ∃ draft, (expandWith apply source Document.root d.trees context).run ⟨s, .empty⟩ =
        (.ok (), draft) ∧
      draft.document.WellFormed ∧ draft.document.trees = d.trees := by
  have hmeaning : meaning apply (libraryOf s) source context d.trees = .ok d.trees :=
    meaningOfAll_below h (fun _ _ => meaningOf_tree h hs _) _
  obtain ⟨draft, hrun, hready, -, hbelow⟩ :=
    writes_expandWith (s := s) (p := Document.root) apply source context d.trees ⟨s, .empty⟩
      ⟨.refl, .empty, Document.WellFormed.empty.root_lt_size, rfl⟩
  rw [hmeaning] at hrun
  exact ⟨draft, hrun, hready.wellFormed,
    (hbelow d.trees hmeaning).trans (h.allOnto_below Document.root)⟩

end Page

namespace Renderer

/-- A file without expressions and without elements that are not written themselves is the page of
every name that leads to it, for every request and whatever is bound: the page is the document of
the file, with the same tags, attributes and texts. All that is needed of the store is that it
keeps no other document for the file as it is. -/
theorem render_static (apply : Application) (r : Renderer) {s : Store} {name : String}
    {parts : List String} {content : ByteArray} {modified : Int} {text : String} {d : Document}
    (hname : Text.trimmed name ≠ "")
    (hpath : s.files.locate (Path.join r.directory (name ++ Store.ending)) = .ok (.inside parts))
    (hfile : s.files.entry? parts = some (.file content modified))
    (htext : String.fromUTF8? content = some text)
    (hparse : Markup.parse (Text.trimmed text) = .ok d)
    (hkept : ∀ loaded, s.fresh? ⟨false, parts⟩ (some modified) = some loaded →
      loaded.document = d)
    (hstatic : d.IsStatic) :
    ∃ s' loaded,
      s.resolveIn r.directory name = (s', .ok (Path.toString ⟨false, parts⟩, loaded)) ∧
      loaded.document = d ∧
      ∀ request bindings,
        (r.renderWith apply s name request bindings).2 = .ok d.html ∧
        ∃ draft, (Page.expandWith apply (Path.toString ⟨false, parts⟩) Document.root d.trees
            ((r.rootContext request).extend bindings)).run ⟨s', .empty⟩ = (.ok (), draft) ∧
          draft.document.trees = d.trees := by
  obtain ⟨s', loaded, hresolve, rfl⟩ :=
    Store.exists_resolveIn hname hpath hfile htext hparse hkept
  have htidy := Markup.tidy_run_of_parse hparse
  refine ⟨s', loaded, hresolve, rfl, fun request bindings => ?_⟩
  obtain ⟨draft, hrun, hwellFormed, htrees⟩ := Page.expand_static apply htidy hstatic s'
    (Path.toString ⟨false, parts⟩) ((r.rootContext request).extend bindings)
  refine ⟨?_, draft, hrun, htrees⟩
  rw [renderWith, renderIn, hresolve]
  simp only [hrun]
  rw [hwellFormed.html_eq, htidy.wellFormed.html_eq, ← Document.trees, htrees, Document.trees]

/-- A page with attributes that are empty, blank or without a value, a comment between two texts and
closing braces. -/
def plainPage : String :=
  "\n<P class=\"\" hidden title=' '>a\x7d<!-- \x7bx\x7d -->b</p> <pre>\n \x7d</pre><br>c\n"

theorem render_static_of_plainPage :
    let s := Store.ofFiles (FileSystem.empty.write ["pages", "a.html"] plainPage.toUTF8 0)
    let r : Renderer := ⟨"pages/", [], ""⟩
    ∃ d, Markup.parse (Text.trimmed plainPage) = .ok d ∧ d.IsStatic ∧
      d.html = "<p class hidden title>a\x7db</p><pre>\x7d</pre><br>c" ∧
      ∀ request bindings,
        (r.renderWith Function.apply s "../pages/a" request bindings).2 = .ok d.html := by
  intro s r
  have hparse : (Markup.parse (Text.trimmed plainPage)).toOption.any (fun d =>
      decide (d.IsStatic ∧ d.html = "<p class hidden title>a\x7db</p><pre>\x7d</pre><br>c")) := by
    decide +kernel
  obtain ⟨d, hd, hstatic, hhtml⟩ : ∃ d, Markup.parse (Text.trimmed plainPage) = .ok d ∧
      d.IsStatic ∧ d.html = "<p class hidden title>a\x7db</p><pre>\x7d</pre><br>c" := by
    cases hp : Markup.parse (Text.trimmed plainPage) with
    | error fault => simp [hp, Except.toOption] at hparse
    | ok d => exact ⟨d, rfl, by simpa [hp, Except.toOption] using hparse⟩
  have hpath : s.files.locate (Path.join r.directory ("../pages/a" ++ Store.ending)) =
      .ok (.inside ["pages", "a.html"]) := by
    decide +kernel
  have htext : String.fromUTF8? plainPage.toUTF8 = some plainPage := by decide +kernel
  have hkept : ∀ loaded, s.fresh? ⟨false, ["pages", "a.html"]⟩ (some 0) = some loaded →
      loaded.document = d := by
    simp [s, Store.ofFiles, Store.fresh?]
  obtain ⟨s', loaded, -, -, hpage⟩ :=
    render_static Function.apply r (by decide +kernel) hpath rfl htext hd hkept hstatic
  exact ⟨d, hd, hstatic, hhtml, fun request bindings => (hpage request bindings).1⟩

end Renderer

end Stencil
