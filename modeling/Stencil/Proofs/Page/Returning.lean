import Stencil.Proofs.Markup.Tidy
import Stencil.Proofs.Page.Refinement
import Stencil.Proofs.Page.Walk

/-!
# Walks do what expansions do

A walk that begins with something to expand comes to the point where only what lay below is left,
with the counter where it was, and the page and the store are what the expansion makes of them
(`Does`). The induction is on how many includes may still nest; for one file it is on the nodes of
the template, and for a `for` on the items.
-/

namespace Stencil

open Document (root)

namespace Store

variable {s s' : Store}

/-- The documents that are kept are well formed. -/
def WellKept (s : Store) : Prop := ∀ e ∈ s.cache, e.2.loaded.document.WellFormed

namespace WellKept

theorem ofFiles (files : FileSystem) : (Store.ofFiles files).WellKept := by
  intro e he
  simp [Store.ofFiles] at he

/-- Then so is every document that the store answers, for what is not kept is read from a page. -/
theorem wellFormed (h : s.WellKept) {written : String} {d : Document}
    (hd : s.document written = .ok d) : d.WellFormed := by
  rw [document] at hd
  rcases s.load_cases written with ⟨e, hl⟩ | ⟨loaded, hf, hl⟩ | ⟨d', -, hfiled, hl⟩
  · simp [hl, Except.map] at hd
  · obtain rfl : loaded.document = d := by simpa [hl, Except.map] using hd
    obtain ⟨e, he, -, rfl⟩ := fresh?_eq_some.1 hf
    obtain ⟨before, after, hcache, -⟩ := List.lookup_eq_some_iff.1 he
    exact h (Path.ofString written, e) (by simp [hcache])
  · obtain rfl : d' = d := by simpa [hl, Except.map] using hd
    obtain ⟨_, _, _, -, -, hparse⟩ := filed_eq_ok.1 hfiled
    exact (Markup.tidy_run_of_parse hparse).wellFormed

theorem resolve (h : s.WellKept) (hr : s.Reads s') {source name file : String} {loaded : Loaded}
    (hf : (s'.resolve source name).2 = .ok (file, loaded)) : loaded.document.WellFormed := by
  have hanswer : s'.documentIn (Path.directory source) name = .ok (file, loaded.document) := by
    rw [documentIn, ← Store.resolve, hf]
    rfl
  rw [hr.sameAnswers.documentIn_eq, documentIn_eq] at hanswer
  split at hanswer
  · simp at hanswer
  · split at hanswer
    · simp at hanswer
    · next path _ =>
      cases hd : s.document path.toString with
      | error e => simp [hd, Except.map] at hanswer
      | ok d =>
        obtain ⟨-, rfl⟩ : _ ∧ d = loaded.document := by simpa [hd, Except.map] using hanswer
        exact h.wellFormed hd

end WellKept

end Store

namespace Page

open Walk (Leads)

variable {s : Store} {input : Document} {ts us : List Task} {a b c : Nat} {x y : Expansion Unit}

/-- How a walk gets on after an expansion. -/
def Status.of : Except TemplateError Unit → Status
  | .ok _ => going
  | .error e => ofError e

theorem Status.ofError_cases (e : TemplateError) :
    (∃ fault, e = .badMarkup fault) ∨ ofError e = failing e := by
  cases e with
  | badMarkup fault => exact .inl ⟨fault, rfl⟩
  | _ => exact .inr rfl

/-- The walk has come back from an expansion with this result, and the counter and what is left to
do are these; or it broke off because a file could not be read as markup. -/
structure Lands (s : Store) (result : Except TemplateError Unit × Draft) (depth : Nat)
    (rest : List Task) (w : Walk) : Prop where
  draft_eq : w.draft = result.2
  status_eq : w.status = .of result.1
  returned : (∃ fault, result.1 = .error (.badMarkup fault)) ∨ w.depth = depth ∧ w.tasks = rest
  reads : s.Reads w.draft.store

/-- The walk comes back from an expansion. -/
def Returns (s : Store) (w : Walk) (result : Except TemplateError Unit × Draft) (depth : Nat)
    (rest : List Task) : Prop :=
  ∃ w', Leads w w' ∧ Lands s result depth rest w'

namespace Returns

variable {w w' : Walk} {result : Except TemplateError Unit × Draft} {depth : Nat}
  {rest : List Task} {draft : Draft} {t : Task}

theorem of_leads (h : Leads w w') (hr : Returns s w' result depth rest) :
    Returns s w result depth rest := by
  obtain ⟨v, hv, hl⟩ := hr
  exact ⟨v, h.trans hv, hl⟩

theorem of_perform
    (h : Returns s ((⟨draft, a, rest, .going⟩ : Walk).perform t) result depth us) :
    Returns s ⟨draft, a, t :: rest, .going⟩ result depth us :=
  of_leads (.single rfl) h

/-- Nothing more is done. -/
theorem here (hr : s.Reads draft.store) :
    Returns s ⟨draft, depth, rest, .going⟩ (.ok (), draft) depth rest :=
  ⟨_, .refl, rfl, rfl, .inr ⟨rfl, rfl⟩, hr⟩

/-- There is an error. -/
theorem error (hr : s.Reads draft.store) (e : TemplateError) :
    Returns s ⟨draft, depth, rest, .ofError e⟩ (.error e, draft) depth rest :=
  ⟨_, .refl, rfl, rfl, .inr ⟨rfl, rfl⟩, hr⟩

end Returns

/-- From every page, whatever lies below, tasks do what an expansion does, and take the counter from
one value to another. -/
def Does (s : Store) (a : Nat) (ts : List Task) (b : Nat) (x : Expansion Unit) : Prop :=
  ∀ draft, s.Reads draft.store → ∀ rest,
    Returns s ⟨draft, a, ts ++ rest, .going⟩ (x.run draft) b rest

/-- An error passes tasks, and they take the counter from one value to another. -/
def Passes (a : Nat) (ts : List Task) (b : Nat) : Prop :=
  ∀ draft e rest, Leads ⟨draft, a, ts ++ rest, .failing e⟩ ⟨draft, b, rest, .failing e⟩

theorem passes_of_file?_eq_none {t : Task} (ht : t.file? = none) : Passes a [t] a := by
  intro draft e rest
  cases t with
  | leave file => simp [Task.file?] at ht
  | _ => exact .single rfl

theorem passes_leave (file : String) : Passes (a + 1) [.leave file] a :=
  fun _ _ _ => .single rfl

namespace Does

/-- One thing after the other. -/
theorem seq (hx : Does s a ts b x) (hy : Does s b us c y) (hp : Passes b us c) :
    Does s a (ts ++ us) c (x >>= fun _ => y) := by
  intro draft hr rest
  obtain ⟨⟨draft₁, depth, tasks, status⟩, hw, hl⟩ := hx draft hr (us ++ rest)
  obtain ⟨hdraft, hstatus, hreturned, hreads⟩ := hl
  dsimp only at hdraft hstatus hreturned hreads
  rw [List.append_assoc, run_bind]
  refine .of_leads hw ?_
  cases hxr : x.run draft with
  | mk result draft' =>
    rw [hxr] at hdraft hstatus
    subst hdraft hstatus
    cases result with
    | ok u =>
      obtain ⟨rfl, rfl⟩ := hreturned.resolve_left (by simp [hxr])
      exact hy draft₁ hreads rest
    | error e =>
      -- a walk that broke off stays where it is; an error passes what comes second
      rcases hreturned with ⟨fault, hfault⟩ | ⟨rfl, rfl⟩
      · rw [hxr] at hfault
        exact ⟨_, .refl, rfl, rfl, .inl ⟨fault, hfault⟩, hreads⟩
      rcases Status.ofError_cases e with ⟨fault, rfl⟩ | hf
      · exact ⟨_, .refl, rfl, rfl, .inl ⟨fault, rfl⟩, hreads⟩
      · refine ⟨⟨draft₁, c, rest, .failing e⟩, ?_, rfl, hf.symm, .inr ⟨rfl, rfl⟩, hreads⟩
        rw [Status.of, hf]
        exact hp draft₁ e rest

/-- Nothing is done. -/
theorem pure {t : Task} (h : ∀ w : Walk, w.perform t = w) : Does s a [t] a (Pure.pure ()) :=
  fun draft hr rest => .of_perform (by
    rw [h]
    exact .here hr)

theorem write {t : Task} {f : Document → Document} (h : ∀ w : Walk, w.perform t = w.write f) :
    Does s a [t] a (Page.write f) :=
  fun draft hr rest => .of_perform (by
    rw [h]
    exact .here hr)

/-- A task is replaced by others. -/
theorem of_push {t : Task} (h : ∀ w : Walk, w.perform t = w.push ts) (hx : Does s a ts b x) :
    Does s a [t] b x :=
  fun draft hr rest => .of_perform (by
    rw [h]
    exact hx draft hr rest)

theorem leave {file : String} : Does s (a + 1) [.leave file] a (Pure.pure ()) :=
  fun _ hr _ => .of_perform (.here hr)

end Does

/-! ## One file -/

/-- At this counter, includes do what an inclusion does. -/
def Enters (s : Store) (depth : Nat) (inclusion : Inclusion) : Prop :=
  ∀ p scope attributes draft, s.Reads draft.store → ∀ rest,
    Returns s ((⟨draft, depth, rest, .going⟩ : Walk).enter p scope attributes)
      ((inclusion p scope attributes).run draft) depth rest

variable {depth : Nat} {inclusion : Inclusion}

theorem does_siblings {ns : List Nat} (p : Nat) (scope : Scope)
    (h : ∀ n ∈ ns, ∀ p scope, Does s depth [.node p scope input n] depth
      (expandTree inclusion p scope (input.tree n))) :
    Does s depth [.siblings p scope input ns] depth
      (expandForest inclusion p scope (ns.map input.tree)) := by
  induction ns generalizing scope with
  | nil =>
    rw [List.map_nil, expandForest]
    exact .pure fun _ => rfl
  | cons n ns ih =>
    rw [List.forall_mem_cons] at h
    rw [List.map_cons, expandForest]
    exact .of_push (fun _ => rfl)
      ((h.1 p (scope.sub 0)).seq (ih (scope.sub 1) h.2) (passes_of_file?_eq_none rfl))

theorem does_items {n : Nat} (p : Nat) (scope : Scope) (collection : Value) (i : Nat)
    (more : List Value)
    (h : ∀ scope, Does s depth [.siblings p scope input (input.node n).children] depth
      (expandForest inclusion p scope (input.below n))) :
    Does s depth [.items p scope input n collection i more] depth
      ((more.mapIdx fun j item => (i + j, item)).forM fun (i, item) =>
        expandForest inclusion p (scope.ofItem collection i item) (input.below n)) := by
  induction more generalizing i with
  | nil => exact .pure fun _ => rfl
  | cons item more ih =>
    have hshift : (more.mapIdx fun j item => (i + (j + 1), item)) =
        more.mapIdx fun j item => (i + 1 + j, item) := by
      simp only [Nat.add_left_comm, Nat.add_comm]
    rw [List.mapIdx_cons, hshift]
    exact .of_push (fun _ => rfl)
      ((h (scope.ofItem collection i item)).seq (ih (i + 1)) (passes_of_file?_eq_none rfl))

/-- An element is made, filled, and put in its place. -/
theorem returns_element {ns : List Nat} {inner : Nat → Expansion Unit} {tag : String}
    {attributes : Attributes} {p : Nat} {scope : Scope} {draft : Draft}
    (h : ∀ m, Does s depth [.siblings m scope input ns] depth (inner m))
    (hr : s.Reads draft.store) (rest : List Task) :
    Returns s
      (let (d, m) := draft.document.add (.element tag [])
      let d := attributes.foldl (fun d (name, value) => d.setAttribute m name value) d
      ((⟨draft, depth, rest, .going⟩ : Walk).write fun _ => d).push
        [.siblings m scope input ns, .attach p m])
      ((do
        let (d, n) := (← get).document.add (.element tag [])
        write fun _ => attributes.foldl (fun d (name, value) => d.setAttribute n name value) d
        inner n
        write fun d => d.append p n : Expansion Unit).run draft) depth rest := by
  have hwrite : Does s depth [.attach p draft.document.size] depth
      (write fun d => d.append p draft.document.size) := .write fun _ => rfl
  have hseq := (h draft.document.size).seq hwrite (passes_of_file?_eq_none rfl)
  exact hseq ⟨draft.store, attributes.foldl
    (fun d (name, value) => d.setAttribute draft.document.size name value)
    (draft.document.add (.element tag [])).1⟩ hr rest

/-- A node of a template, with everything below it. -/
theorem does_node (hw : input.WellFormed) (hi : Enters s depth inclusion) (n : Nat)
    (hn : n ≠ root) (p : Nat) (scope : Scope) :
    Does s depth [.node p scope input n] depth (expandTree inclusion p scope (input.tree n)) := by
  induction n using hw.induction_children generalizing p scope with
  | step n ih =>
    have hall : ∀ p scope, Does s depth [.siblings p scope input (input.node n).children] depth
        (expandForest inclusion p scope (input.below n)) := fun p scope => by
      rw [hw.below_eq]
      exact does_siblings p scope fun c hc => ih c hc (hw.ne_root_of_mem_children hc)
    intro draft hr rest
    refine .of_perform ?_
    rw [Walk.perform, Walk.visit, Document.tree]
    dsimp only
    split
    · next hk => exact absurd ((hw.kind_eq_document n).1 hk) hn
    · next content hk =>
      rw [hk, Node.Kind.tree, expandTree]
      exact .here hr
    · next tag attributes hk =>
      rw [hk, Node.Kind.tree, expandTree]
      split
      · split
        · exact hall p (scope.sub 1) draft hr rest
        · exact .here hr
      split
      · split
        · exact .here hr
        · exact hall p (scope.sub 1) draft hr rest
      split
      · cases (scope.sub 0).controlValue? attributes with
        | none => exact .here hr
        | some collection =>
          have hitems := does_items p (scope.sub 1) collection 0 (collection.items?.getD [])
            (hall p) draft hr rest
          simp only [Nat.zero_add] at hitems
          exact hitems
      split
      · exact hi p scope attributes draft hr rest
      · exact returns_element (fun m => hall m (scope.sub 1)) hr rest

/-- The nodes inside a node of a template. -/
theorem does_inside (hw : input.WellFormed) (hi : Enters s depth inclusion) (n p : Nat)
    (scope : Scope) :
    Does s depth [.siblings p scope input (input.node n).children] depth
      (expandForest inclusion p scope (input.below n)) := by
  rw [hw.below_eq]
  exact does_siblings p scope fun c hc =>
    does_node hw hi c (hw.ne_root_of_mem_children hc)

/-! ## Includes -/

/-- Includes do what they should at every counter that leaves room for as many as may nest. -/
theorem enters_includeWithin (hs : s.WellKept) (k : Nat) (hd : depth + k = maxDepth) :
    Enters s depth (includeWithin k) := by
  induction k generalizing depth with
  | zero =>
    intro p scope attributes draft hr rest
    rw [Walk.enter, includeWithin]
    cases (scope.sub 0).includeName? attributes with
    | none => exact .here hr
    | some name =>
      dsimp only
      rw [if_pos (by omega)]
      exact .error hr _
  | succ k ih =>
    intro p scope attributes draft hr rest
    rw [Walk.enter, includeWithin]
    cases (scope.sub 0).includeName? attributes with
    | none => exact .here hr
    | some name =>
      -- what reading the file keeps in the store is there for the includes inside
      have hfetch : s.Reads (draft.store.resolve scope.source name).1 :=
        hr.resolveIn (Path.directory scope.source) name
      dsimp only
      rw [if_neg (by omega), run_bind, run_fetch]
      cases hfound : (draft.store.resolve scope.source name).2 with
      | error e => exact .error hfetch e
      | ok found =>
        obtain ⟨file, loaded⟩ := found
        have hinner : Enters s (depth + 1) (includeWithin k) := ih (by omega)
        have hinside := does_inside (hs.resolve hr hfound) hinner root p
          (scope.ofInclude file attributes)
        have hseq := hinside.seq .leave (passes_leave file)
        rw [bind_pure_unit] at hseq
        exact hseq ⟨(draft.store.resolve scope.source name).1, draft.document⟩ hfetch rest

end Page

end Stencil
