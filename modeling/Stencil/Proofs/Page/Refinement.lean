import Stencil.Proofs.Document.Writing
import Stencil.Proofs.Page.Meaning
import Stencil.Proofs.Store.Answer

/-!
# Expansion writes what templates stand for

Expansion creates an element before its inside is known, fills it while it stands apart, and only
then puts it in its place; texts go on in whatever text is there. What shows at the end of the node
that is written to is nevertheless what the template stands for, put behind what was there
(`Writes`). The rules below follow the ways in which an expansion is put together.
-/

namespace Stencil.Page

open Document (Grows)

variable {s : Store} {p : Nat} {x y : Expansion Unit} {m m' : Meaning} {draft : Draft}

/-- The library of the files that a store answers from. -/
def libraryOf (s : Store) : Library := fun source name =>
  (s.documentIn (Path.directory source) name).map fun (path, d) => (path, d.trees)

/-- A page that may be written to at a node, beside what a store became by looking for names. -/
structure Ready (s : Store) (p : Nat) (draft : Draft) : Prop where
  reads : s.Resolves draft.store
  wellFormed : draft.document.WellFormed
  lt_size : p < draft.document.size
  not_text : draft.document.isText p = false

/-- From every page that is ready, an expansion writes what a meaning says at the end of a node and
changes nothing else; or it ends with the error of the meaning, and then, too, changes nothing
else. -/
def Writes (s : Store) (p : Nat) (x : Expansion Unit) (m : Meaning) : Prop :=
  ∀ draft, Ready s p draft → ∃ draft', x.run draft = (m.map fun _ => (), draft') ∧
    Ready s p draft' ∧ Grows draft.document.size p draft.document draft'.document ∧
    ∀ ts, m = .ok ts → draft'.document.below p = Tree.allOnto (draft.document.below p) ts

/-- A page stays ready where the document only grows. -/
theorem Ready.of_grows (h : Ready s p draft) {draft' : Draft} (ha : s.Resolves draft'.store)
    (hw : draft'.document.WellFormed)
    (hg : Grows draft.document.size p draft.document draft'.document) : Ready s p draft' where
  reads := ha
  wellFormed := hw
  lt_size := h.lt_size.trans_le hg.size_le
  not_text := (hg.isText_eq p h.lt_size).trans h.not_text

/-! ## Running expansions -/

theorem run_bind {α β : Type} (x : Expansion α) (f : α → Expansion β) (draft : Draft) :
    (x >>= f).run draft =
      match x.run draft with
      | (.ok a, draft') => (f a).run draft'
      | (.error e, draft') => (.error e, draft') := by
  change (ExceptT.bindCont f (x.run draft).1).run (x.run draft).2 = _
  rcases x.run draft with ⟨_ | _, _⟩ <;> rfl

theorem run_write (f : Document → Document) (draft : Draft) :
    (write f).run draft = (.ok (), { draft with document := f draft.document }) :=
  rfl

theorem run_fetch (source name : String) (draft : Draft) :
    (fetch source name).run draft =
      ((draft.store.resolve source name).2,
        { draft with store := (draft.store.resolve source name).1 }) := by
  have hget : (get : Expansion Draft).run draft = (.ok draft, draft) := rfl
  have hset : ∀ draft' : Draft, (set draft' : Expansion PUnit).run draft = (.ok ⟨⟩, draft') :=
    fun _ => rfl
  simp only [fetch, run_bind, hget, hset]
  cases (draft.store.resolve source name).2 <;> rfl

namespace Writes

theorem pure : Writes s p (Pure.pure ()) (.ok []) := fun draft h =>
  ⟨draft, rfl, h, .refl h.lt_size, fun ts hts => by
    obtain rfl := Except.ok.inj hts
    rfl⟩

theorem throw (e : TemplateError) : Writes s p (throw e) (.error e) := fun draft h =>
  ⟨draft, rfl, h, .refl h.lt_size, fun _ hts => by simp at hts⟩

/-- One thing after the other. -/
theorem seq (hx : Writes s p x m) (hy : Writes s p y m') :
    Writes s p (x >>= fun _ => y) (m >>= fun ts => m' >>= fun us => Pure.pure (ts ++ us)) := by
  intro draft h
  obtain ⟨draft₁, hr₁, h₁, hg₁, hb₁⟩ := hx draft h
  cases m with
  | error e =>
    refine ⟨draft₁, ?_, h₁, hg₁, fun _ hts => by simp [bind, Except.bind] at hts⟩
    rw [run_bind, hr₁]
    rfl
  | ok ts =>
    obtain ⟨draft₂, hr₂, h₂, hg₂, hb₂⟩ := hy draft₁ h₁
    refine ⟨draft₂, ?_, h₂, hg₁.trans (hg₂.mono hg₁.size_le), ?_⟩
    · rw [run_bind, hr₁]
      simp only [Except.map, hr₂]
      cases m' <;> rfl
    · intro us hus
      cases m' with
      | error e => simp [bind, Except.bind] at hus
      | ok us' =>
        obtain rfl := Except.ok.inj hus
        rw [hb₂ us' rfl, hb₁ ts rfl, Tree.allOnto_append]

/-- The same for each of many things. -/
theorem forM {α : Type} {f : α → Expansion Unit} {g : α → Meaning} {l : List α}
    (h : ∀ a ∈ l, Writes s p (f a) (g a)) : Writes s p (l.forM f) (.concat (l.map g)) := by
  induction l with
  | nil => exact pure
  | cons a l ih =>
    exact (h a List.mem_cons_self).seq (ih fun b hb => h b (List.mem_cons_of_mem _ hb))

theorem text (content : String) :
    Writes s p (write fun d => d.appendText p content) (.ok [.text content]) := by
  intro draft h
  have hg := Document.grows_appendText h.wellFormed h.lt_size h.not_text content
  refine ⟨_, run_write _ draft, h.of_grows h.reads (h.wellFormed.appendText h.lt_size content) hg,
    hg, fun ts hts => ?_⟩
  obtain rfl := Except.ok.inj hts
  exact Document.below_appendText h.wellFormed h.lt_size h.not_text content

/-- An element, filled while it stands apart and put at the end when it is complete. -/
theorem element {tag : String} {attributes : Attributes} {inner : Nat → Expansion Unit}
    (h : ∀ n, Writes s n (inner n) m) :
    Writes s p
      (do
        let (d, n) := (← get).document.add (.element tag [])
        write fun _ => attributes.foldl (fun d (name, value) => d.setAttribute n name value) d
        inner n
        write fun d => d.append p n)
      (do
        let ts ← m
        return [.element tag (merged attributes) ts]) := by
  intro draft hd
  obtain ⟨store, d⟩ := draft
  obtain ⟨ha, hw, hp, ht⟩ := id hd
  have hnew := (Document.HasNew.add hw tag).setAttributes attributes
  simp only at ha hw hp ht hnew
  generalize hd₁ : attributes.foldl (fun d' (name, value) => d'.setAttribute d.size name value)
    (d.add (.element tag [])).1 = d₁ at hnew
  have hn : d.size < d₁.size := by
    rw [hnew.size_eq]
    omega
  obtain ⟨⟨store₂, d₂⟩, hrun, ⟨ha₂, hw₂, hp₂, -⟩, hg, hbelow⟩ := h d.size ⟨store, d₁⟩
    ⟨ha, hnew.wellFormed, hn, by rw [Document.isText, hnew.node_size]; rfl⟩
  simp only at ha₂ hw₂ hp₂ hg hbelow
  have hget : (get : Expansion Draft).run ⟨store, d⟩ = (.ok ⟨store, d⟩, ⟨store, d⟩) := rfl
  simp only [run_bind, hget, run_write, Document.add_snd, hd₁, hrun]
  cases m with
  | error e =>
    have hg' : Document.Grows d.size p d d₂ := .of_node_eq (hn.le.trans hg.size_le) hp
      fun k hk => hnew.node_eq_of_grows hw hg hk
    exact ⟨⟨store₂, d₂⟩, rfl, hd.of_grows ha₂ hw₂ hg', hg', fun ts hts => by
      simp [bind, Except.bind] at hts⟩
  | ok ts =>
    have hg' := hnew.grows_append hw hw₂ hg hp ht
    have hw' := hw₂.append (hp.trans hp₂) hp₂
    refine ⟨⟨store₂, d₂.append p d.size⟩, rfl, hd.of_grows ha₂ hw' hg', hg', fun us hus => ?_⟩
    obtain rfl := Except.ok.inj hus
    rw [hnew.below_append hw hw₂ hg hp ht, hbelow ts rfl, hnew.below_size]
    rfl

/-- An include: what a name is found to stand for decides what is done. -/
theorem fetch {source name : String} {k : String × Loaded → Expansion Unit}
    {g : String × List Tree → Meaning}
    (h : ∀ found loaded, Writes s p (k (found, loaded)) (g (found, loaded.document.trees))) :
    Writes s p (Page.fetch source name >>= k) (libraryOf s source name >>= g) := by
  intro draft hd
  have hlib := hd.reads.sameAnswers.documentIn_eq (Path.directory source) name
  have hready : Ready s p { draft with store := (draft.store.resolve source name).1 } :=
    ⟨hd.reads.resolveIn (Path.directory source) name, hd.wellFormed, hd.lt_size, hd.not_text⟩
  rw [libraryOf, ← hlib, Store.documentIn]
  cases hr : (draft.store.resolve source name).2 with
  | error e =>
    refine ⟨_, ?_, hready, .refl hd.lt_size, ?_⟩
    · rw [run_bind, run_fetch, hr, ← Store.resolve, hr]
      rfl
    · intro ts hts
      rw [← Store.resolve, hr] at hts
      simp [Except.map, bind, Except.bind] at hts
  | ok found =>
    obtain ⟨path, loaded⟩ := found
    obtain ⟨draft', hrun, h'⟩ := h path loaded _ hready
    refine ⟨draft', ?_, ?_⟩
    · rw [run_bind, run_fetch, hr, ← Store.resolve, hr]
      exact hrun
    · rw [← Store.resolve, hr]
      exact h'

end Writes

/-! ## Templates -/

variable {inclusion : Inclusion} {inside : Scope → Attributes → Meaning}

mutual

/-- Expanding a node writes what it stands for if expanding an include does. -/
theorem writes_expandTree
    (hi : ∀ p scope attributes, Writes s p (inclusion p scope attributes) (inside scope attributes))
    (p : Nat) (scope : Scope) :
    (t : Tree) → Writes s p (expandTree inclusion p scope t) (meaningOf inside scope t)
  | .text content => by
    rw [expandTree, meaningOf]
    exact .text _
  | .element tag attributes children => by
    have hall := fun p scope => writes_expandForest hi p scope children
    rw [expandTree, meaningOf]
    split
    · split
      · exact hall p _
      · exact .pure
    split
    · split
      · exact .pure
      · exact hall p _
    split
    · cases (scope.sub 0).controlValue? attributes with
      | none => exact .pure
      | some collection =>
        have h := Writes.forM (s := s) (p := p)
          (l := (collection.items?.getD []).mapIdx fun i item => (i, item))
          (f := fun (i, item) =>
            expandForest inclusion p ((scope.sub 1).ofItem collection i item) children)
          (g := fun (i, item) =>
            meaningOfAll inside ((scope.sub 1).ofItem collection i item) children)
          fun a _ => hall p _
        simp only [List.mapIdx_eq_zipIdx_map, List.map_map] at h ⊢
        exact h
    split
    · exact hi p scope attributes
    · exact .element fun n => hall n _

/-- Expanding siblings writes what they stand for if expanding an include does. -/
theorem writes_expandForest
    (hi : ∀ p scope attributes, Writes s p (inclusion p scope attributes) (inside scope attributes))
    (p : Nat) (scope : Scope) :
    (ts : List Tree) → Writes s p (expandForest inclusion p scope ts) (meaningOfAll inside scope ts)
  | [] => by
    rw [expandForest, meaningOfAll]
    exact .pure
  | t :: ts => by
    rw [expandForest, meaningOfAll]
    exact (writes_expandTree hi p _ t).seq (writes_expandForest hi p _ ts)

end

/-- Expanding an include writes what it stands for, however many may still nest. -/
theorem writes_includeWithin (depth : Nat) (p : Nat) (scope : Scope) (attributes : Attributes) :
    Writes s p (includeWithin depth p scope attributes)
      (meaningOfInclude (libraryOf s) depth scope attributes) := by
  induction depth generalizing p scope attributes with
  | zero =>
    rw [includeWithin, meaningOfInclude]
    cases (scope.sub 0).includeName? attributes with
    | none => exact .pure
    | some name => exact .throw _
  | succ depth ih =>
    rw [includeWithin, meaningOfInclude]
    cases (scope.sub 0).includeName? attributes with
    | none => exact .pure
    | some name => exact .fetch fun found loaded => writes_expandForest ih p _ _

theorem writes_expandWith (apply : Application) (source : String) (context : Context)
    (template : List Tree) :
    Writes s p (expandWith apply source p template context)
      (meaning apply (libraryOf s) source context template) :=
  writes_expandForest (writes_includeWithin maxDepth) p _ template

open Document (Operation)

end Stencil.Page
