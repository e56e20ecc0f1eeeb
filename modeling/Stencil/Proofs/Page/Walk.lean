import Mathlib.Logic.Relation
import Stencil.Page.Expand

/-!
# Walking through templates

An expansion as a walk: what is left to do lies on a stack, with the innermost on top, and a counter
tells how many includes are open. An include goes one deeper when it begins and one back when it
ends, and it ends in either case, for an error passes everything that was left to do on its way out.
Only a file that cannot be read as markup breaks the walk off where it is. Expressions are evaluated
at once, with calls that yield what the scope says.

The counter is not part of how expansions are defined. What there is to know about it holds of walks
(`Walk.Moves` says once what a step can do), and a walk does what an expansion does.
-/

namespace Stencil.Page

open Document (root)

/-- Something that is left to do. -/
inductive Task where
  /-- To expand nodes of a template one after the other, at the end of a node of the page. -/
  | siblings (p : Nat) (scope : Scope) (input : Document) (ns : List Nat)
  /-- To expand a node of a template. -/
  | node (p : Nat) (scope : Scope) (input : Document) (n : Nat)
  /-- To expand the inside of a node once for each of the items from the `i`-th on. -/
  | items (p : Nat) (scope : Scope) (input : Document) (n : Nat) (collection : Value) (i : Nat)
    (more : List Value)
  /-- To put an element that was filled in its place. -/
  | attach (p n : Nat)
  /-- To come back from the include of a file. -/
  | leave (file : String)

/-- How a walk gets on. -/
inductive Status where
  | going
  /-- There was an error, and nothing is expanded any more. -/
  | failing (e : TemplateError)
  /-- A file could not be read as markup, and nothing at all is done any more. -/
  | broken (fault : Markup.Fault)

/-- What an error makes of a walk. -/
def Status.ofError : TemplateError → Status
  | .badMarkup fault => broken fault
  | e => failing e

/-- An expansion on its way. -/
structure Walk where
  draft : Draft
  /-- The counter of open includes. -/
  depth : Nat
  tasks : List Task
  status : Status

namespace Walk

/-- Changes the page. -/
def write (w : Walk) (f : Document → Document) : Walk :=
  { w with draft := { w.draft with document := f w.draft.document } }

/-- Puts something on top of what is left to do. -/
def push (w : Walk) (ts : List Task) : Walk := { w with tasks := ts ++ w.tasks }

/-- Begins an include. -/
def enter (w : Walk) (p : Nat) (scope : Scope) (attributes : Attributes) : Walk :=
  match (scope.sub 0).includeName? attributes with
  | none => w
  | some name =>
    if maxDepth ≤ w.depth then { w with status := .ofError (.includeDepth scope.source) }
    else
      let draft := { w.draft with store := (w.draft.store.resolve scope.source name).1 }
      match (w.draft.store.resolve scope.source name).2 with
      | .error e => { w with draft, status := .ofError e }
      | .ok (file, loaded) =>
        { w with
          draft
          depth := w.depth + 1
          tasks :=
            .siblings p (scope.ofInclude file attributes) loaded.document
              (loaded.document.node root).children :: .leave file :: w.tasks }

/-- Begins a node of a template. -/
def visit (w : Walk) (p : Nat) (scope : Scope) (input : Document) (n : Nat) : Walk :=
  let inside := (input.node n).children
  match (input.node n).kind with
  | .document => w
  | .text content =>
    w.write fun d => d.appendText p ((scope.sub 0).interpolate content).text
  | .element tag attributes =>
    if tag = "yes" then
      if (scope.sub 0).holds attributes then w.push [.siblings p (scope.sub 1) input inside] else w
    else if tag = "no" then
      if (scope.sub 0).holds attributes then w else w.push [.siblings p (scope.sub 1) input inside]
    else if tag = "for" then
      match (scope.sub 0).controlValue? attributes with
      | none => w
      | some collection =>
        w.push [.items p (scope.sub 1) input n collection 0 (collection.items?.getD [])]
    else if tag = "include" then w.enter p scope attributes
    else
      let (d, m) := w.draft.document.add (.element tag [])
      let d := ((scope.sub 0).attributesOf attributes).foldl
        (fun d (name, value) => d.setAttribute m name value) d
      (w.write fun _ => d).push [.siblings m (scope.sub 1) input inside, .attach p m]

/-- Does something that was taken from the top of what is left to do. -/
def perform (w : Walk) : Task → Walk
  | .siblings _ _ _ [] => w
  | .siblings p scope input (n :: ns) =>
    w.push [.node p (scope.sub 0) input n, .siblings p (scope.sub 1) input ns]
  | .node p scope input n => w.visit p scope input n
  | .items _ _ _ _ _ _ [] => w
  | .items p scope input n collection i (item :: more) =>
    w.push [.siblings p (scope.ofItem collection i item) input (input.node n).children,
      .items p scope input n collection (i + 1) more]
  | .attach p n => w.write fun d => d.append p n
  | .leave _ => { w with depth := w.depth - 1 }

/-- Passes over something that was taken from the top of what is left to do. -/
def pass (w : Walk) : Task → Walk
  | .leave _ => { w with depth := w.depth - 1 }
  | _ => w

/-- The next step, if there is one. -/
def step (w : Walk) : Option Walk :=
  match w.status, w.tasks with
  | .broken _, _ | _, [] => none
  | .failing _, t :: rest => some (({ w with tasks := rest }).pass t)
  | .going, t :: rest => some (({ w with tasks := rest }).perform t)

/-- One walk becomes another in any number of steps. -/
abbrev Leads : Walk → Walk → Prop := Relation.ReflTransGen fun w w' => w.step = some w'

/-- The walk that expands what is inside a node of a template, at the end of a node of the page. -/
def start (apply : Application) (draft : Draft) (source : String) (p : Nat) (input : Document)
    (n : Nat) (context : Context) : Walk :=
  ⟨draft, 0, [.siblings p ⟨source, context, apply, []⟩ input (input.node n).children], .going⟩

end Walk

/-! ## Open includes -/

/-- The file of an include that ends with the task. -/
def Task.file? : Task → Option String
  | leave file => some file
  | _ => none

/-- The files of the includes that are open, the innermost first. -/
def openFiles (ts : List Task) : List String := ts.filterMap Task.file?

theorem openFiles_cons_of_none {t : Task} {ts : List Task} (h : t.file? = none) :
    openFiles (t :: ts) = openFiles ts :=
  List.filterMap_cons_none h

/-- A file is open as long as the walk has to leave it. -/
theorem openFiles_leave (file : String) (ts : List Task) :
    openFiles (.leave file :: ts) = file :: openFiles ts :=
  rfl

/-- Tasks that leave no file add none to the open files. -/
theorem openFiles_append {new ts : List Task} (h : ∀ t ∈ new, t.file? = none) :
    openFiles (new ++ ts) = openFiles ts := by
  rw [openFiles, List.filterMap_append, List.filterMap_eq_nil_iff.2 h]
  rfl

namespace Walk

variable {w w' w'' : Walk}

/-- The files of the includes that are open, the innermost first. -/
def opened (w : Walk) : List String := openFiles w.tasks

/-- The walk comes to an include that asks for a name in a scope. -/
def Asks (w : Walk) (scope : Scope) (name : String) : Prop :=
  ∃ p input n attributes rest, w.status = .going ∧ w.tasks = .node p scope input n :: rest ∧
    (input.node n).kind = .element "include" attributes ∧
    (scope.sub 0).includeName? attributes = some name

theorem Asks.status_eq {scope : Scope} {name : String} (h : w.Asks scope name) :
    w.status = .going := by
  obtain ⟨_, _, _, _, _, hgoing, -⟩ := h
  exact hgoing

/-- The include itself is not among those that are open. -/
theorem Asks.opened_eq {scope : Scope} {name : String} (h : w.Asks scope name) :
    w.opened = openFiles w.tasks.tail := by
  obtain ⟨_, _, _, _, _, -, htasks, -⟩ := h
  rw [opened, htasks, openFiles_cons_of_none rfl, List.tail_cons]

end Walk

/-! ## What a step can do -/

/-- What has to be done next, in the same file, for something to be done. -/
inductive Task.Part : Task → Task → Prop
  | first {p : Nat} {scope : Scope} {input : Document} {n : Nat} {ns : List Nat} :
    Part (.siblings p scope input (n :: ns)) (.node p (scope.sub 0) input n)
  | others {p : Nat} {scope : Scope} {input : Document} {n : Nat} {ns : List Nat} :
    Part (.siblings p scope input (n :: ns)) (.siblings p (scope.sub 1) input ns)
  | inside {p : Nat} {scope : Scope} {input : Document} {n : Nat} {tag : String}
    {attributes : Attributes} (h : (input.node n).kind = .element tag attributes)
    (ht : tag ≠ "include") (m : Nat) :
    Part (.node p scope input n) (.siblings m (scope.sub 1) input (input.node n).children)
  | items {p : Nat} {scope : Scope} {input : Document} {n : Nat} {tag : String}
    {attributes : Attributes} (h : (input.node n).kind = .element tag attributes)
    (ht : tag ≠ "include") (collection : Value) (more : List Value) :
    Part (.node p scope input n) (.items p (scope.sub 1) input n collection 0 more)
  | item {p : Nat} {scope : Scope} {input : Document} {n : Nat} {collection : Value} {i : Nat}
    {item : Value} {more : List Value} :
    Part (.items p scope input n collection i (item :: more))
      (.siblings p (scope.ofItem collection i item) input (input.node n).children)
  | next {p : Nat} {scope : Scope} {input : Document} {n : Nat} {collection : Value} {i : Nat}
    {item : Value} {more : List Value} :
    Part (.items p scope input n collection i (item :: more))
      (.items p scope input n collection (i + 1) more)
  | attach {t : Task} (p n : Nat) : Part t (.attach p n)

theorem Task.Part.file?_eq {t t' : Task} (h : t.Part t') : t'.file? = none := by
  cases h <;> rfl

namespace Walk

variable {w w' w'' : Walk}

/-- What a step can do. -/
inductive Moves : Walk → Walk → Prop
  /-- Something is done in the file where the walk is, or is replaced by its parts. -/
  | part {draft : Draft} {depth : Nat} {t : Task} {rest : List Task} (document : Document)
    {new : List Task} (ht : t.file? = none) (h : ∀ t' ∈ new, t.Part t') :
    Moves ⟨draft, depth, t :: rest, .going⟩ ⟨{ draft with document }, depth, new ++ rest, .going⟩
  /-- There are too many open includes for one more. -/
  | tooDeep {w : Walk} {scope : Scope} {name : String} (h : w.Asks scope name)
    (hd : maxDepth ≤ w.depth) :
    Moves w { w with tasks := w.tasks.tail, status := .failing (.includeDepth scope.source) }
  /-- The file that an include asks for is not there. -/
  | missing {w : Walk} {scope : Scope} {name : String} {e : TemplateError} (h : w.Asks scope name)
    (hr : (w.draft.store.resolve scope.source name).2 = .error e) :
    Moves w ⟨{ w.draft with store := (w.draft.store.resolve scope.source name).1 }, w.depth,
      w.tasks.tail, .ofError e⟩
  /-- An include begins. -/
  | enter {w : Walk} {scope : Scope} {name file : String} {loaded : Loaded}
    (h : w.Asks scope name) (hd : w.depth < maxDepth)
    (hr : (w.draft.store.resolve scope.source name).2 = .ok (file, loaded)) (p : Nat)
    (attributes : Attributes) :
    Moves w ⟨{ w.draft with store := (w.draft.store.resolve scope.source name).1 }, w.depth + 1,
      .siblings p (scope.ofInclude file attributes) loaded.document
        (loaded.document.node root).children :: .leave file :: w.tasks.tail, .going⟩
  /-- An include ends, be it with an error. -/
  | leave {draft : Draft} {depth : Nat} {file : String} {rest : List Task} {status : Status} :
    Moves ⟨draft, depth, .leave file :: rest, status⟩ ⟨draft, depth - 1, rest, status⟩
  /-- An error passes something that was left to do. -/
  | pass {draft : Draft} {depth : Nat} {t : Task} {rest : List Task} {e : TemplateError}
    (h : t.file? = none) :
    Moves ⟨draft, depth, t :: rest, .failing e⟩ ⟨draft, depth, rest, .failing e⟩

/-- A task that has no parts changes at most the page. -/
theorem Moves.done {draft : Draft} {depth : Nat} {t : Task} {rest : List Task}
    (document : Document) (ht : t.file? = none) :
    Moves ⟨draft, depth, t :: rest, .going⟩ ⟨{ draft with document }, depth, rest, .going⟩ :=
  have hnone : ∀ t' ∈ ([] : List Task), t.Part t' := by simp
  .part document ht hnone

/-- Beginning an include, or passing over one that asks for nothing. -/
theorem moves_enter {draft : Draft} {depth : Nat} {rest : List Task} {p : Nat} {scope : Scope}
    {input : Document} {n : Nat} {attributes : Attributes}
    (hk : (input.node n).kind = .element "include" attributes) :
    Moves ⟨draft, depth, .node p scope input n :: rest, .going⟩
      ((⟨draft, depth, rest, .going⟩ : Walk).enter p scope attributes) := by
  rw [enter]
  split
  · exact .done draft.document rfl
  · next name hname =>
    have hasks : Asks ⟨draft, depth, .node p scope input n :: rest, .going⟩ scope name :=
      ⟨p, input, n, attributes, rest, rfl, rfl, hk, hname⟩
    split
    · next hd => exact .tooDeep hasks hd
    · next hd =>
      dsimp only
      split
      · next e he => exact .missing hasks he
      · next file loaded hr => exact .enter hasks (Nat.lt_of_not_le hd) hr p attributes

theorem moves_visit {draft : Draft} {depth : Nat} {rest : List Task} {p : Nat} {scope : Scope}
    {input : Document} {n : Nat} :
    Moves ⟨draft, depth, .node p scope input n :: rest, .going⟩
      ((⟨draft, depth, rest, .going⟩ : Walk).visit p scope input n) := by
  have hinside : ∀ {tag attributes}, (input.node n).kind = .element tag attributes →
      tag ≠ "include" → Moves ⟨draft, depth, .node p scope input n :: rest, .going⟩
        ((⟨draft, depth, rest, .going⟩ : Walk).push
          [.siblings p (scope.sub 1) input (input.node n).children]) := fun hk ht =>
    .part draft.document rfl (by simpa using .inside hk ht p)
  rw [visit]
  split
  · exact .done draft.document rfl
  · exact .done _ rfl
  · next tag attributes hk =>
    split
    · next htag =>
      split
      · exact hinside hk (by simp [htag])
      · exact .done draft.document rfl
    split
    · next htag =>
      split
      · exact .done draft.document rfl
      · exact hinside hk (by simp [htag])
    split
    · next htag =>
      split
      · exact .done draft.document rfl
      · exact .part draft.document rfl (by simpa using .items hk (by simp [htag]) _ _)
    split
    · next htag =>
      subst htag
      exact moves_enter hk
    · next htag =>
      refine .part _ rfl ?_
      simp only [List.mem_cons, List.not_mem_nil, or_false]
      rintro t' (rfl | rfl)
      · exact .inside hk htag _
      · exact .attach p _

/-- Every step is one of these. -/
theorem moves_of_step (h : w.step = some w') : Moves w w' := by
  obtain ⟨draft, depth, tasks, status⟩ := w
  rw [step] at h
  dsimp only at h
  split at h
  · simp at h
  · simp at h
  · next t rest =>
    obtain rfl := Option.some.inj h
    cases t with
    | leave file => exact .leave
    | _ => exact .pass rfl
  · next t rest =>
    obtain rfl := Option.some.inj h
    cases t with
    | siblings p scope input ns =>
      cases ns with
      | nil => exact .done draft.document rfl
      | cons n ns =>
        refine .part draft.document rfl ?_
        simp only [List.mem_cons, List.not_mem_nil, or_false]
        rintro t' (rfl | rfl)
        · exact .first
        · exact .others
    | node p scope input n => exact moves_visit
    | items p scope input n collection i more =>
      cases more with
      | nil => exact .done draft.document rfl
      | cons item more =>
        refine .part draft.document rfl ?_
        simp only [List.mem_cons, List.not_mem_nil, or_false]
        rintro t' (rfl | rfl)
        · exact .item
        · exact .next
    | attach p n => exact .done _ rfl
    | leave file => exact .leave

/-! ## Whole walks -/

/-- Of two walks that come from one, one comes from the other. -/
theorem Leads.total (h : Leads w w') (h' : Leads w w'') : Leads w' w'' ∨ Leads w'' w' :=
  Relation.ReflTransGen.total_of_right_unique
    (fun _ _ _ h h' => Option.some.inj (h.symm.trans h')) h h'

/-- All walks that come from one come to the point where it ends. -/
theorem Leads.to_end (h : Leads w w') (h' : Leads w w'') (hend : w''.step = none) :
    Leads w' w'' := by
  rcases h.total h' with h | h
  · exact h
  · rcases Relation.ReflTransGen.cases_head h with rfl | ⟨v, hv, -⟩
    · exact .refl
    · simp [hend] at hv

/-- A walk that met bad markup goes no further. -/
theorem step_of_broken {fault : Markup.Fault} (h : w.status = .broken fault) : w.step = none := by
  rw [step, h]

theorem step_of_tasks_eq_nil (h : w.tasks = []) : w.step = none := by
  rw [step, h]
  split <;> simp_all

/-- A walk that does not go on as before never does again. -/
theorem Moves.status_eq (h : Moves w w') (hw : w.status ≠ .going) : w'.status = w.status := by
  cases h with
  | part => exact absurd rfl hw
  | tooDeep h => exact absurd h.status_eq hw
  | missing h => exact absurd h.status_eq hw
  | enter h => exact absurd h.status_eq hw
  | leave => rfl
  | pass => rfl

/-- A walk that does not go on as before keeps its status, however far it goes. -/
theorem Leads.status_eq (h : Leads w w') (hw : w.status ≠ .going) : w'.status = w.status := by
  induction h with
  | refl => rfl
  | tail _ hstep ih => rw [(moves_of_step hstep).status_eq (ih ▸ hw), ih]

/-- Why a step is the last one that goes on as before. -/
theorem Moves.asks (h : Moves w w') (hw : w.status = .going) (hw' : w'.status ≠ .going) :
    ∃ scope name, w.Asks scope name ∧
      (maxDepth ≤ w.depth ∧ w'.status = .failing (.includeDepth scope.source) ∨
        ∃ e, (w.draft.store.resolve scope.source name).2 = .error e ∧ w'.status = .ofError e) := by
  cases h with
  | part => exact absurd rfl hw'
  | tooDeep h hd => exact ⟨_, _, h, .inl ⟨hd, rfl⟩⟩
  | missing h hr => exact ⟨_, _, h, .inr ⟨_, hr, rfl⟩⟩
  | enter => exact absurd rfl hw'
  | leave => exact absurd hw hw'
  | pass => simp at hw

/-- A walk that does not go on as before came to an include that is the reason. -/
theorem Leads.asks (h : Leads w w') (hw : w.status = .going) (hw' : w'.status ≠ .going) :
    ∃ v scope name, Leads w v ∧ v.Asks scope name ∧
      (maxDepth ≤ v.depth ∧ w'.status = .failing (.includeDepth scope.source) ∨
        ∃ e, (v.draft.store.resolve scope.source name).2 = .error e ∧ w'.status = .ofError e) := by
  induction h with
  | refl => exact absurd hw hw'
  | @tail v v' hv hstep ih =>
    by_cases hgoing : v.status = .going
    · obtain ⟨scope, name, hasks, hwhy⟩ := (moves_of_step hstep).asks hgoing hw'
      exact ⟨v, scope, name, hv, hasks, hwhy⟩
    · rw [(moves_of_step hstep).status_eq hgoing]
      exact ih hgoing

/-- An include that asks for a name where too many are open makes the walk fail. -/
theorem Asks.leads {scope : Scope} {name : String} (h : w.Asks scope name)
    (hd : maxDepth ≤ w.depth) :
    ∃ w', Leads w w' ∧ w'.status = .failing (.includeDepth scope.source) := by
  obtain ⟨p, input, n, attributes, rest, hgoing, htasks, hk, hname⟩ := h
  have hstep : w.step =
      some { w with tasks := rest, status := .failing (.includeDepth scope.source) } := by
    rw [step, hgoing, htasks]
    simp [perform, visit, hk, enter, hname, hd, Status.ofError]
  exact ⟨_, .single hstep, rfl⟩

end Walk

end Stencil.Page
