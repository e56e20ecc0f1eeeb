import Stencil.Proofs.Page.Returning

/-!
# How deeply includes nest

Along a walk the counter is the number of includes that are open, which never is more than
`maxDepth`, and everything that is left to do belongs to the file whose include is the innermost one
below it (`Walk.Sound`). So the counter is found too high at one point only: where an include asks
for a name with `maxDepth` others open. How many includes there are side by side does not matter
(`NestsWithin`).
-/

namespace Stencil

open Document (root)

/-! ## Errors of a store -/

namespace Store

variable {s : Store} {written source name : String}

/-- Why a path leads to no document: it cannot be read, or what is read is no markup. -/
theorem load_error {e : TemplateError} (h : (s.load written).2 = .error e) :
    (∃ f, e = .unreadable written f) ∨ ∃ fault text, e = .badMarkup fault ∧
      s.files.read written = .ok text ∧ Markup.parse (Text.trimmed text) = .error fault := by
  rw [load] at h
  split at h
  · next f _ =>
    obtain rfl := Except.error.inj h
    exact .inl ⟨f, rfl⟩
  · split at h
    · simp at h
    · split at h
      · next f _ =>
        obtain rfl := Except.error.inj h
        exact .inl ⟨f, rfl⟩
      · next text htext =>
        split at h
        · next fault hfault =>
          obtain rfl := Except.error.inj h
          exact .inr ⟨fault, text, rfl, htext, hfault⟩
        · simp at h

/-- No file is to blame for too many open includes, and only what a file holds is for markup that
cannot be read. -/
theorem resolve_error {e : TemplateError} (h : (s.resolve source name).2 = .error e) :
    (∀ path, e ≠ .includeDepth path) ∧
      ∀ fault, e = .badMarkup fault → ∃ written text, s.files.read written = .ok text ∧
        Markup.parse (Text.trimmed text) = .error fault := by
  rw [resolve, resolveIn_eq] at h
  split at h
  · obtain rfl := Except.error.inj h
    simp
  split at h
  · obtain rfl := Except.error.inj h
    simp
  · next path _ =>
    cases hload : (s.load path.toString).2 with
    | ok loaded => simp [hload, Except.map] at h
    | error e' =>
      obtain rfl : e' = e := by simpa [hload, Except.map] using h
      rcases load_error hload with ⟨f, rfl⟩ | ⟨fault, text, rfl, hread, hparse⟩
      · simp
      · refine ⟨by simp, fun fault' hfault => ⟨_, text, hread, ?_⟩⟩
        obtain rfl := TemplateError.badMarkup.inj hfault
        exact hparse

end Store

namespace Page

open Walk (Leads Moves)

variable {s : Store} {source file : String} {w w' : Walk} {t t' : Task} {ts new : List Task}

/-! ## What holds of everything that is left to do -/

/-- Each task has a property, which may depend on the includes that are open below it. -/
def Each (P : List String → Task → Prop) : List Task → Prop
  | [] => True
  | t :: ts => P (openFiles ts) t ∧ Each P ts

namespace Each

variable {P : List String → Task → Prop}

theorem append (h : Each P ts) (hnew : ∀ t ∈ new, t.file? = none ∧ P (openFiles ts) t) :
    Each P (new ++ ts) := by
  induction new with
  | nil => exact h
  | cons t new ih =>
    rw [List.forall_mem_cons] at hnew
    have hopen : openFiles (new ++ ts) = openFiles ts :=
      openFiles_append fun t ht => (hnew.2 t ht).1
    exact ⟨hopen ▸ hnew.1.2, ih hnew.2⟩

/-- A property that parts have from what they are parts of, and that holds of includes that begin,
goes on to hold. -/
theorem moves (h : Each P w.tasks) (hm : Moves w w')
    (hpart : ∀ files t t', t.Part t' → P files t → P files t')
    (henter : ∀ scope name file loaded p attributes, w.Asks scope name → w.depth < maxDepth →
      (w.draft.store.resolve scope.source name).2 = .ok (file, loaded) →
      P (file :: w.opened) (.siblings p (scope.ofInclude file attributes) loaded.document
        (loaded.document.node root).children) ∧ P w.opened (.leave file)) : Each P w'.tasks := by
  have htail : Each P w.tasks.tail := by
    cases hw : w.tasks with
    | nil => trivial
    | cons t ts => exact (hw ▸ h).2
  cases hm with
  | part document ht hparts =>
    exact h.2.append fun t' ht' => ⟨(hparts t' ht').file?_eq, hpart _ _ t' (hparts t' ht') h.1⟩
  | tooDeep => exact htail
  | missing => exact htail
  | enter hasks hd hr p attributes =>
    obtain ⟨hbegin, hend⟩ := henter _ _ _ _ p attributes hasks hd hr
    rw [hasks.opened_eq] at hbegin hend
    exact ⟨hbegin, hend, htail⟩
  | leave => exact h.2
  | pass => exact h.2

end Each

/-- The task belongs to a file, and to nodes of a document that may be there. -/
def Task.InFile (file : String) : Task → Prop
  | siblings _ scope input ns => scope.source = file ∧ input.WellFormed ∧ root ∉ ns
  | node _ scope input n => scope.source = file ∧ input.WellFormed ∧ n ≠ root
  | items _ scope input _ _ _ _ => scope.source = file ∧ input.WellFormed
  | attach _ _ | leave _ => True

theorem root_notMem_children {d : Document} (h : d.WellFormed) (n : Nat) :
    root ∉ (d.node n).children :=
  fun hm => h.ne_root_of_mem_children hm rfl

theorem Task.Part.inFile (h : t.Part t') (ht : t.InFile file) : t'.InFile file := by
  cases h with
  | first => exact ⟨ht.1, ht.2.1, fun he => ht.2.2 (he ▸ List.mem_cons_self)⟩
  | others => exact ⟨ht.1, ht.2.1, fun hm => ht.2.2 (List.mem_cons_of_mem _ hm)⟩
  | inside => exact ⟨ht.1, ht.2.1, root_notMem_children ht.2.1 _⟩
  | items => exact ⟨ht.1, ht.2.1⟩
  | item => exact ⟨ht.1, ht.2, root_notMem_children ht.2 _⟩
  | next => exact ht
  | attach => trivial

namespace Walk

/-- What holds of every walk that begins in a file. -/
structure Sound (s : Store) (source : String) (w : Walk) : Prop where
  reads : s.Reads w.draft.store
  depth_eq : w.depth = w.opened.length
  depth_le : w.depth ≤ maxDepth
  inFile : Each (fun files t => t.InFile (files.headD source)) w.tasks

namespace Sound

/-- An include belongs to the file that was included last. -/
theorem source_eq (h : w.Sound s source) {scope : Scope} {name : String}
    (ha : w.Asks scope name) : scope.source = w.opened.headD source := by
  obtain ⟨p, input, n, attributes, rest, -, htasks, -⟩ := ha
  have hfile := h.inFile
  rw [htasks] at hfile
  rw [opened, htasks, openFiles_cons_of_none rfl]
  exact hfile.1.1

theorem moves (h : w.Sound s source) (hs : s.WellKept) (hm : Moves w w') : w'.Sound s source := by
  have hfile : Each (fun files t => t.InFile (files.headD source)) w'.tasks :=
    h.inFile.moves hm (fun _ _ _ hp ht => hp.inFile ht)
      (fun _ _ _ _ _ _ _ _ hr =>
        ⟨⟨rfl, hs.resolve h.reads hr, root_notMem_children (hs.resolve h.reads hr) _⟩, trivial⟩)
  obtain ⟨hr, hd, hle, -⟩ := h
  cases hm with
  | part document ht hparts =>
    refine ⟨hr, ?_, hle, hfile⟩
    rw [opened, openFiles_append fun t' ht' => (hparts t' ht').file?_eq]
    exact hd.trans (congrArg List.length (openFiles_cons_of_none ht))
  | tooDeep hasks => exact ⟨hr, hd.trans (congrArg List.length hasks.opened_eq), hle, hfile⟩
  | missing hasks =>
    exact ⟨hr.resolveIn _ _, hd.trans (congrArg List.length hasks.opened_eq), hle, hfile⟩
  | enter hasks hlt =>
    refine ⟨hr.resolveIn _ _, ?_, hlt, hfile⟩
    rw [opened, openFiles_cons_of_none rfl, openFiles_leave, List.length_cons, ← hasks.opened_eq,
      ← hd]
  | leave =>
    refine ⟨hr, ?_, (Nat.sub_le _ _).trans hle, hfile⟩
    rw [opened, openFiles_leave, List.length_cons] at hd
    exact Nat.sub_eq_of_eq_add hd
  | pass ht => exact ⟨hr, hd.trans (congrArg List.length (openFiles_cons_of_none ht)), hle, hfile⟩

theorem leads (h : w.Sound s source) (hs : s.WellKept) (hw : Leads w w') : w'.Sound s source := by
  induction hw with
  | refl => exact h
  | tail _ hstep ih => exact ih.moves hs (moves_of_step hstep)

theorem start (apply : Application) {input : Document} (hi : input.WellFormed) (out : Document)
    (source : String) (p n : Nat) (context : Context) :
    (start apply ⟨s, out⟩ source p input n context).Sound s source where
  reads := .refl
  depth_eq := rfl
  depth_le := Nat.zero_le _
  inFile := ⟨⟨rfl, hi, root_notMem_children hi n⟩, trivial⟩

/-- Wherever a walk begins to expand nodes, it comes back to what lay below, with the counter where
it was. -/
theorem returns (h : w.Sound s source) (hs : s.WellKept) (hgoing : w.status = .going) {p : Nat}
    {scope : Scope} {input : Document} {ns : List Nat} {rest : List Task}
    (htasks : w.tasks = .siblings p scope input ns :: rest) :
    ∃ result, Returns s w result w.depth rest := by
  have hfile := h.inFile
  rw [htasks] at hfile
  obtain ⟨-, hi, hroot⟩ := hfile.1
  -- this many includes may still nest
  obtain ⟨k, hk⟩ := Nat.exists_eq_add_of_le h.depth_le
  have hdoes := does_siblings p scope fun n hn =>
    does_node hi (enters_includeWithin hs k hk.symm) n (ne_of_mem_of_not_mem hn hroot)
  obtain ⟨draft, depth, tasks, status⟩ := w
  obtain rfl : status = .going := hgoing
  obtain rfl : tasks = _ := htasks
  exact ⟨_, hdoes draft h.reads rest⟩

end Sound

end Walk

end Page

end Stencil
