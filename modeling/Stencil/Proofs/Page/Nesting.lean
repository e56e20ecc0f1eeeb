import Stencil.Proofs.Page.Depth

/-!
# Too many open includes

An expansion comes to an end whatever includes what. It ends with too many open includes exactly
where an include asks for a name while `maxDepth` others are open, and never where includes nest
less deeply than that, however many of them there are in a file or in its loops
(`expand_counts_includes`).

All of this is said of expansions on which every call yields something, whatever it is. A call that
never comes back, because a route asks for itself inside of itself, is no step of a walk. Apart from
such a call, a file that is no markup is the one thing that an expansion does not come back from.
-/

namespace Stencil.Page

open Document (root)
open Walk (Leads)

variable {s : Store} {source file name : String} {w w' : Walk} {t t' : Task} {library : Library}
  {ts us : List Tree} {k : Nat}

/-! ## How deeply includes may nest -/

mutual

/-- An include of a file may ask for a name there, whatever names it sees. -/
def AsksIn (file name : String) : Tree → Prop
  | .text _ => False
  | .element tag attributes children =>
    if tag = "include" then
      ∃ scope : Scope, scope.source = file ∧ scope.includeName? attributes = some name
    else AnyAsksIn file name children

/-- An include of a file may ask for a name somewhere there, whatever names it sees. -/
def AnyAsksIn (file name : String) : List Tree → Prop
  | [] => False
  | t :: ts => AsksIn file name t ∨ AnyAsksIn file name ts

end

/-- Whatever the includes of a file may ask for, they nest at most this deeply. -/
def NestsWithin (library : Library) : Nat → String → List Tree → Prop
  | 0, file, ts => ∀ name, ¬ AnyAsksIn file name ts
  | k + 1, file, ts => ∀ name, AnyAsksIn file name ts →
    ∀ found us, library file name = .ok (found, us) → NestsWithin library k found us

theorem NestsWithin.of_asks (h : NestsWithin library k file ts)
    (ha : ∀ name, AnyAsksIn file name us → AnyAsksIn file name ts) :
    NestsWithin library k file us := by
  cases k with
  | zero => exact fun name hname => h name (ha name hname)
  | succ k => exact fun name hname => h name (ha name hname)

theorem NestsWithin.of_nil : NestsWithin library k file [] := by
  cases k with
  | zero => exact fun name hname => hname
  | succ k => exact fun name hname => hname.elim

theorem anyAsksIn_singleton {t : Tree} : AnyAsksIn file name [t] ↔ AsksIn file name t := by
  rw [AnyAsksIn, AnyAsksIn, or_false]

theorem anyAsksIn_element {tag : String} {attributes : Attributes} (ht : tag ≠ "include") :
    AnyAsksIn file name [.element tag attributes ts] ↔ AnyAsksIn file name ts := by
  rw [anyAsksIn_singleton, AsksIn, if_neg ht]

/-- The trees that a task expands. -/
def Task.trees : Task → List Tree
  | siblings _ _ input ns => ns.map input.tree
  | node _ _ input n => [input.tree n]
  | items _ _ input n _ _ _ => input.below n
  | attach _ _ | leave _ => []

/-- A part asks for nothing else than what it is a part of. -/
theorem Task.Part.asks (h : t.Part t') (ht : t.InFile file) (ha : AnyAsksIn file name t'.trees) :
    AnyAsksIn file name t.trees := by
  cases h with
  | first => exact .inl (anyAsksIn_singleton.1 ha)
  | others => exact .inr ha
  | inside hk htag =>
    rw [trees, Document.tree, hk, Node.Kind.tree, anyAsksIn_element htag, ht.2.1.below_eq]
    exact ha
  | items hk htag =>
    rw [trees, Document.tree, hk, Node.Kind.tree, anyAsksIn_element htag]
    exact ha
  | item =>
    rw [trees, ht.2.below_eq]
    exact ha
  | next => exact ha
  | attach => exact absurd ha (by simp [trees, AnyAsksIn])

/-- What is left to do nests as deeply as the includes that are open below it leave room for. -/
structure Task.Nests (library : Library) (k : Nat) (source : String) (files : List String)
    (t : Task) : Prop where
  inFile : t.InFile (files.headD source)
  length_le : files.length ≤ k
  nests : NestsWithin library (k - files.length) (files.headD source) t.trees

namespace Walk

/-- The include that asks for a name is one of the trees that are expanded. -/
theorem Asks.nests {scope : Scope} (ha : w.Asks scope name)
    (h : Each (Task.Nests library k source) w.tasks) :
    scope.source = w.opened.headD source ∧ w.opened.length ≤ k ∧
      ∃ ts, NestsWithin library (k - w.opened.length) (w.opened.headD source) ts ∧
        AnyAsksIn (w.opened.headD source) name ts := by
  obtain ⟨p, input, n, attributes, rest, -, htasks, hk, hname⟩ := ha
  rw [htasks] at h
  rw [opened, htasks, openFiles_cons_of_none rfl]
  obtain ⟨⟨hfile, -⟩, hle, hnests⟩ := h.1
  refine ⟨hfile, hle, _, hnests, ?_⟩
  rw [Task.trees, Document.tree, hk, Node.Kind.tree, anyAsksIn_singleton, AsksIn, if_pos rfl]
  exact ⟨scope.sub 0, hfile, hname⟩

/-- An include leaves room for one less. -/
theorem Asks.nests_found {scope : Scope} (ha : w.Asks scope name)
    (h : Each (Task.Nests (libraryOf s) k source) w.tasks) (hr : s.Reads w.draft.store)
    {loaded : Loaded} (hf : (w.draft.store.resolve scope.source name).2 = .ok (file, loaded)) :
    w.opened.length < k ∧
      NestsWithin (libraryOf s) (k - (w.opened.length + 1)) file loaded.document.trees := by
  obtain ⟨hsource, hle, ts, hnests, hasks⟩ := ha.nests h
  have hfound : libraryOf s (w.opened.headD source) name = .ok (file, loaded.document.trees) := by
    rw [libraryOf, ← hr.sameAnswers.documentIn_eq, Store.documentIn, ← hsource, ← Store.resolve, hf]
    rfl
  cases hroom : k - w.opened.length with
  | zero =>
    rw [hroom] at hnests
    exact absurd hasks (hnests name)
  | succ j =>
    rw [hroom] at hnests
    refine ⟨by omega, ?_⟩
    have hj : k - (w.opened.length + 1) = j := by omega
    rw [hj]
    exact hnests name hasks file _ hfound

/-- Wherever a walk comes, includes go on to nest as deeply as they may. -/
theorem Sound.nests (hw : w.Sound s source) (hs : s.WellKept)
    (h : Each (Task.Nests (libraryOf s) k source) w.tasks) (hl : Leads w w') :
    Each (Task.Nests (libraryOf s) k source) w'.tasks := by
  induction hl with
  | refl => exact h
  | @tail v v' hv hstep ih =>
    have hsound := hw.leads hs hv
    refine ih.moves (moves_of_step hstep) ?_ ?_
    · rintro files t t' hpart ⟨hfile, hle, hnests⟩
      exact ⟨hpart.inFile hfile, hle, hnests.of_asks fun _ => hpart.asks hfile⟩
    · intro scope name file loaded p attributes hasks _ hf
      obtain ⟨hlt, hnests⟩ := hasks.nests_found ih hsound.reads hf
      have hd := hs.resolve hsound.reads hf
      refine ⟨⟨⟨rfl, hd, root_notMem_children hd _⟩, hlt, ?_⟩, ⟨trivial, hlt.le, .of_nil⟩⟩
      rwa [Task.trees, ← hd.below_eq]

end Walk

/-! ## What an expansion ends with -/

theorem Status.ofError_eq_failing {e e' : TemplateError} (h : ofError e = failing e') : e = e' := by
  cases e <;> simp_all [ofError]

theorem Status.ofError_eq_broken {e : TemplateError} {fault : Markup.Fault}
    (h : ofError e = broken fault) : e = .badMarkup fault := by
  cases e <;> simp_all [ofError]

theorem Status.of_eq_failing {result : Except TemplateError Unit} {e : TemplateError}
    (h : of result = failing e) : result = .error e := by
  cases result with
  | ok _ => simp [of] at h
  | error e' => rw [ofError_eq_failing h]

section Result

variable {apply : Application} {input out : Document} {n p : Nat} {context : Context}
  {path : String}

/-- A walk that has come back takes no more steps. -/
theorem Lands.step_eq_none {result : Except TemplateError Unit × Draft}
    (h : Lands s result 0 [] w) : w.step = none := by
  rcases h.returned with ⟨fault, hfault⟩ | ⟨-, htasks⟩
  · have hbroken : w.status = .broken fault := by
      rw [h.status_eq, hfault]
      rfl
    exact Walk.step_of_broken hbroken
  · exact Walk.step_of_tasks_eq_nil htasks

/-- An expansion comes back. -/
theorem returns_start (apply : Application) (hs : s.WellKept) (hi : input.WellFormed) (n p : Nat)
    (source : String) (context : Context) (out : Document) :
    Returns s (Walk.start apply ⟨s, out⟩ source p input n context)
      ((expandWith apply source p (input.below n) context).run ⟨s, out⟩) 0 [] :=
  does_inside hi (enters_includeWithin hs maxDepth (Nat.zero_add _)) n p
    ⟨source, context, apply, []⟩ ⟨s, out⟩ .refl []

/-- There are too many open includes exactly if an include asks for a name with `maxDepth` others
open, and the file of that include is the one to blame. -/
theorem includeDepth_iff (hs : s.WellKept) (hi : input.WellFormed) :
    ((expandWith apply source p (input.below n) context).run ⟨s, out⟩).1 =
        .error (.includeDepth path) ↔
      ∃ w scope name, Leads (Walk.start apply ⟨s, out⟩ source p input n context) w ∧
        w.Asks scope name ∧ w.opened.length = maxDepth ∧ path = w.opened.headD source := by
  obtain ⟨last, hlast, hlands⟩ := returns_start apply hs hi n p source context out
  have hstart : Walk.Sound s source (Walk.start apply ⟨s, out⟩ source p input n context) :=
    .start apply hi out source p n context
  constructor
  · intro hresult
    -- no file is to blame, so the walk came to an include with too many open
    have hstatus : last.status = .failing (.includeDepth path) := by
      rw [hlands.status_eq, hresult]
      rfl
    obtain ⟨w, scope, name, hw, hasks, hwhy⟩ := hlast.asks rfl (by simp [hstatus])
    have hsound := hstart.leads hs hw
    rw [hstatus] at hwhy
    rcases hwhy with ⟨hd, he⟩ | ⟨e, hr, he⟩
    · refine ⟨w, scope, name, hw, hasks, ?_, ?_⟩
      · rw [← hsound.depth_eq]
        exact Nat.le_antisymm hsound.depth_le hd
      · rw [← hsound.source_eq hasks]
        exact TemplateError.includeDepth.inj (Status.failing.inj he)
    · exact absurd (Status.ofError_eq_failing he.symm) ((Store.resolve_error hr).1 path)
  · rintro ⟨w, scope, name, hw, hasks, hopen, rfl⟩
    have hsound := hstart.leads hs hw
    -- from there the walk can only end with this error, and it has one end
    obtain ⟨w', hw', hfailing⟩ := hasks.leads (hsound.depth_eq.trans hopen).ge
    have hend := Leads.to_end (hw.trans hw') hlast hlands.step_eq_none
    rw [← hsound.source_eq hasks]
    refine Status.of_eq_failing ?_
    rw [← hlands.status_eq, hend.status_eq (by simp [hfailing]), hfailing]

/-- An expansion breaks off at nothing but a file that cannot be read as markup. -/
theorem hasStrayValue_of_badMarkup (hs : s.WellKept) (hi : input.WellFormed)
    {fault : Markup.Fault}
    (h : ((expandWith apply source p (input.below n) context).run ⟨s, out⟩).1 =
      .error (.badMarkup fault)) :
    ∃ written text, s.files.read written = .ok text ∧
      Markup.HasStrayValue (Text.trimmed text).toList := by
  obtain ⟨last, hlast, hlands⟩ := returns_start apply hs hi n p source context out
  have hstatus : last.status = .broken fault := by
    rw [hlands.status_eq, h]
    rfl
  obtain ⟨w, scope, name, hw, -, hwhy⟩ := hlast.asks rfl (by simp [hstatus])
  have hreads := ((Walk.Sound.start apply hi out source p n context).leads hs hw).reads
  rw [hstatus] at hwhy
  rcases hwhy with ⟨-, he⟩ | ⟨e, hr, he⟩
  · simp at he
  · obtain ⟨written, text, hread, hparse⟩ :=
      (Store.resolve_error hr).2 fault (Status.ofError_eq_broken he.symm)
    rw [hreads.sameAnswers.files_eq] at hread
    exact ⟨written, text, hread,
      Markup.hasStrayValue_of_eventsFrom (Markup.error_of_map_error hparse)⟩

/-- Includes that do not nest too deeply are never too many. -/
theorem ne_includeDepth_of_nestsWithin (hs : s.WellKept) (hi : input.WellFormed)
    (hk : k ≤ maxDepth) (h : NestsWithin (libraryOf s) k source (input.below n)) :
    ((expandWith apply source p (input.below n) context).run ⟨s, out⟩).1 ≠
      .error (.includeDepth path) := by
  intro hresult
  obtain ⟨w, scope, name, hw, hasks, hopen, -⟩ := (includeDepth_iff hs hi).1 hresult
  have hstart : Each (Task.Nests (libraryOf s) k source)
      (Walk.start apply ⟨s, out⟩ source p input n context).tasks := by
    refine ⟨⟨⟨rfl, hi, root_notMem_children hi n⟩, Nat.zero_le k, ?_⟩, trivial⟩
    rw [Task.trees, ← hi.below_eq]
    exact h
  have hnests := (Walk.Sound.start apply hi out source p n context).nests hs hstart hw
  obtain ⟨-, -, ts, hts, hname⟩ := hasks.nests hnests
  rw [hopen, Nat.sub_eq_zero_of_le hk] at hts
  exact hts name hname

/-- Where every call yields something, whatever it is, expanding what is inside a node of a template
comes to an end, whatever includes what. The counter of open includes is right at every point and
never more than `maxDepth`, and wherever nodes are expanded it is afterwards what it was before,
with an error or without. There are too many open includes exactly where an include asks for a name
while `maxDepth` others are open, so never where includes nest less deeply, however many there are.
Of the files, only one with a value that makes it no markup keeps an expansion from coming back. -/
theorem expand_counts_includes (apply : Application) (s : Store) (hs : s.WellKept)
    {input : Document} (hi : input.WellFormed) (node : Nat) (out : Document) (parent : Nat)
    (source : String) (context : Context) :
    let first := Walk.start apply ⟨s, out⟩ source parent input node context
    let result := (expandWith apply source parent (input.below node) context).run ⟨s, out⟩
    Returns s first result 0 [] ∧
    (∀ w, Leads first w → w.depth = w.opened.length ∧ w.opened.length ≤ maxDepth) ∧
    (∀ w p scope d ns rest, Leads first w → w.status = .going →
      w.tasks = .siblings p scope d ns :: rest → ∃ r, Returns s w r w.depth rest) ∧
    (∀ path, result.1 = .error (.includeDepth path) ↔
      ∃ w scope name, Leads first w ∧ w.Asks scope name ∧ w.opened.length = maxDepth ∧
        path = w.opened.headD source) ∧
    (∀ k ≤ maxDepth, NestsWithin (libraryOf s) k source (input.below node) →
      ∀ path, result.1 ≠ .error (.includeDepth path)) ∧
    (∀ fault, result.1 = .error (.badMarkup fault) →
      ∃ written text, s.files.read written = .ok text ∧
        Markup.HasStrayValue (Text.trimmed text).toList) := by
  intro first result
  have hsound : ∀ w, Leads first w → w.Sound s source := fun w hw =>
    (Walk.Sound.start apply hi out source parent node context).leads hs hw
  refine ⟨returns_start apply hs hi node parent source context out, fun w hw => ?_,
    fun w p scope d ns rest hw hgoing htasks => (hsound w hw).returns hs hgoing htasks,
    fun path => includeDepth_iff hs hi, fun k hk hn path => ?_,
    fun fault => hasStrayValue_of_badMarkup hs hi⟩
  · have hd := (hsound w hw).depth_eq
    exact ⟨hd, hd ▸ (hsound w hw).depth_le⟩
  · exact ne_includeDepth_of_nestsWithin hs hi hk hn

end Result

open Document (Operation)

/-- A page that includes `a`. -/
def including : List Operation :=
  [.addElement "include", .setAttribute 1 "value" (some "a"), .append 0 1]

/-- A file that includes itself. -/
def selfIncluding : FileSystem := FileSystem.empty.write ["a.html"] "<include value=a>".toUTF8 1

/-- A file that includes itself is included until `maxDepth` includes are open. -/
theorem expand_counts_includes_of_selfIncluding :
    ∃ input, Operation.run? .empty including = some input ∧ input.WellFormed ∧
      (Store.ofFiles selfIncluding).WellKept ∧
      ∃ w scope name,
        Leads (Walk.start Function.apply ⟨.ofFiles selfIncluding, .empty⟩ "page.html" 0 input 0
            .empty) w ∧
          w.Asks scope name ∧ w.opened.length = maxDepth ∧
          "a.html" = w.opened.headD "page.html" := by
  have h : Operation.run? .empty including = some _ := rfl
  have hi := Document.WellFormed.empty.run? h
  have hs : (Store.ofFiles selfIncluding).WellKept := .ofFiles _
  obtain ⟨-, -, -, hdepth, -⟩ :=
    expand_counts_includes Function.apply _ hs hi 0 .empty 0 "page.html" .empty
  exact ⟨_, h, hi, hs, (hdepth "a.html").1 (by decide +kernel)⟩

/-- A file with an attribute value behind which a character of more than one byte stands. -/
def strayFile : FileSystem := FileSystem.empty.write ["a.html"] "<a =\"\"é>".toUTF8 1

/-- An expansion does not come back from such a file. -/
theorem expand_strayFile :
    ∃ input, Operation.run? .empty including = some input ∧ input.WellFormed ∧
      (Store.ofFiles strayFile).WellKept ∧
      ((expandWith Function.apply "page.html" 0 (input.below 0) .empty).run
        ⟨.ofFiles strayFile, .empty⟩).1 = .error (.badMarkup {}) := by
  have h : Operation.run? .empty including = some _ := rfl
  exact ⟨_, h, Document.WellFormed.empty.run? h, .ofFiles _, by decide +kernel⟩

end Stencil.Page
