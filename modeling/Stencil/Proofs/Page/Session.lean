import Mathlib.Data.List.Induction
import Stencil.Proofs.Page.Rendering

/-!
# Sessions

One store serves many calls while files come and go, and what it keeps may outlive the file that it
was read from. Yet every document it keeps is what its file held when it was read (`Sound`). As long
as a file that has the time of a kept document is the file that was read (`Trusted`), the store
answers as if it kept nothing.
-/

namespace Stencil.Session

open FileSystem (Entry)

/-! ## Steps -/

/-- What may be asked of a store. -/
inductive Call where
  | resolve (source name : String)
  | resolveIn (directory name : String)
  | load (written : String)
  /-- Any renderer may ask for a page, whatever the calls on it yield. -/
  | render (apply : Application) (r : Renderer) (name : String) (request : Request)
    (bindings : Bindings Value)

/-- What is answered: a template with its plain path, a document, or a page. -/
inductive Answer where
  | template (result : Except TemplateError (String × Document))
  | document (result : Except TemplateError Document)
  | page (result : Except TemplateError String)
deriving DecidableEq

/-- The store after a call. -/
def Call.after (s : Store) : Call → Store
  | resolve source name => (s.resolve source name).1
  | resolveIn directory name => (s.resolveIn directory name).1
  | load written => (s.load written).1
  | render apply r name request bindings => (r.renderWith apply s name request bindings).1

/-- The answer to a call. It does not tell when a document was read. -/
def Call.answer (s : Store) : Call → Answer
  | resolve source name =>
    .template ((s.resolve source name).2.map fun (path, loaded) => (path, loaded.document))
  | resolveIn directory name =>
    .template ((s.resolveIn directory name).2.map fun (path, loaded) => (path, loaded.document))
  | load written => .document ((s.load written).2.map Loaded.document)
  | render apply r name request bindings => .page (r.renderWith apply s name request bindings).2

/-- What happens in a session. -/
inductive Step where
  | write (parts : List String) (content : ByteArray) (modified : Int)
  | makeDirectory (parts : List String)
  | remove (parts : List String)
  | call (c : Call)
  | invalidate (written : String)
  | clear

namespace Step

/-- The files after a step. -/
def filesAfter (files : FileSystem) : Step → FileSystem
  | write parts content modified => files.write parts content modified
  | makeDirectory parts => files.makeDirectory parts
  | remove parts => files.remove parts
  | call _ | invalidate _ | clear => files

/-- The store after a step. -/
def after (s : Store) : Step → Store
  | call c => c.after s
  | invalidate written => (s.invalidate written).1
  | clear => s.clear
  | step => { s with files := step.filesAfter s.files }

/-- The answer of a step, if it asks for something. -/
def answer? (s : Store) : Step → Option Answer
  | call c => some (c.answer s)
  | _ => none

end Step

/-- The answers of one store, from step to step. -/
def answers (s : Store) : List Step → List Answer
  | [] => []
  | step :: steps => (step.answer? s).toList ++ answers (step.after s) steps

/-- The answers of stores that keep nothing, a new one for every step. -/
def plainAnswers (files : FileSystem) : List Step → List Answer
  | [] => []
  | step :: steps =>
    (step.answer? (.ofFiles files)).toList ++ plainAnswers (step.filesAfter files) steps

/-! ## What is kept -/

/-- The store of a session, and what the files were when each of its documents was read. -/
structure State where
  store : Store
  /-- The files, by the number of the document. -/
  origin : Nat → FileSystem

namespace State

/-- Nothing is kept at first. -/
def start (files : FileSystem) : State := ⟨.ofFiles files, fun _ => files⟩

/-- The documents that are read in a step are read from the files as they are then. -/
def next (σ : State) (step : Step) : State where
  store := step.after σ.store
  origin n := if n < σ.store.count then σ.origin n else σ.store.files

/-- The state after steps. -/
def run (σ : State) (steps : List Step) : State := steps.foldl next σ

/-- If the file at a path has the time of the document kept for it, then it is the file that the
document was read from. -/
def Trusted (σ : State) : Prop :=
  ∀ path e, σ.store.cache.lookup path = some e → σ.store.time? path = e.modified →
    σ.store.files.at? path = (σ.origin e.loaded.number).at? path

variable {σ : State} {n : Nat}

/-- It is enough to look at everything that is kept. -/
theorem trusted_of_mem
    (h : ∀ x ∈ σ.store.cache, σ.store.time? x.1 = x.2.modified →
      σ.store.files.at? x.1 = (σ.origin x.2.loaded.number).at? x.1) : σ.Trusted := by
  intro path e he
  obtain ⟨before, after, hc, -⟩ := List.lookup_eq_some_iff.1 he
  exact h (path, e) (by simp [hc])

/-- It is enough to look at every step. -/
theorem trusted_of_take {steps : List Step}
    (h : ∀ i < steps.length, (σ.run (steps.take i)).Trusted) {before : List Step} {c : Call}
    (hb : before ++ [.call c] <+: steps) : (σ.run before).Trusted := by
  have hlen : before.length < steps.length := Nat.lt_of_lt_of_le (by simp) hb.length_le
  have htake := List.prefix_iff_eq_take.1 ((List.prefix_append before _).trans hb)
  rw [htake]
  exact h _ hlen

theorem next_store (σ : State) (step : Step) : (σ.next step).store = step.after σ.store := rfl

theorem next_origin_of_lt (h : n < σ.store.count) (step : Step) :
    (σ.next step).origin n = σ.origin n :=
  if_pos h

theorem next_origin_of_le (h : σ.store.count ≤ n) (step : Step) :
    (σ.next step).origin n = σ.store.files :=
  if_neg (Nat.not_lt.2 h)

end State

/-- Among these files, what is kept for a path is the document of the text of its file, with the
time of the file. -/
def Held (files : FileSystem) (path : Path) (e : CacheEntry) : Prop :=
  ∃ content modified text, files.at? path = some (.file content modified) ∧
    e.modified = some modified ∧ String.fromUTF8? content = some text ∧
    Markup.parse (Text.trimmed text) = .ok e.loaded.document

/-- Everything that a store keeps was held by its file when it was read. -/
structure Sound (s : Store) (origin : Nat → FileSystem) : Prop where
  number_lt : ∀ path e, s.cache.lookup path = some e → e.loaded.number < s.count
  held : ∀ path e, s.cache.lookup path = some e → Held (origin e.loaded.number) path e

variable {s s' : Store} {origin origin' : Nat → FileSystem} {files : FileSystem} {σ : State}

/-- What a file is read as is held by it. -/
theorem held_of_filed {written : String} {d : Document} {n : Nat} (h : s.filed written = .ok d) :
    Held s.files (Path.ofString written) ⟨s.time? (Path.ofString written), ⟨n, d⟩⟩ := by
  obtain ⟨content, modified, text, hf, ht, hp⟩ := Store.filed_eq_ok.1 h
  exact ⟨content, modified, text, hf, by rw [Store.time?, hf]; rfl, ht, hp⟩

/-- What is held by a file is what it is read as. -/
theorem filed_of_held {written : String} {e : CacheEntry}
    (h : Held s.files (Path.ofString written) e) : s.filed written = .ok e.loaded.document := by
  obtain ⟨content, modified, text, hf, -, ht, hp⟩ := h
  exact Store.filed_eq_ok.2 ⟨content, modified, text, hf, ht, hp⟩

namespace Sound

theorem ofFiles : Sound (.ofFiles files) origin where
  number_lt _ _ h := by simp [Store.ofFiles] at h
  held _ _ h := by simp [Store.ofFiles] at h

/-- Only what is kept counts. -/
theorem of_lookup (h : Sound s origin) (hc : s'.count = s.count)
    (hl : ∀ path e, s'.cache.lookup path = some e → s.cache.lookup path = some e) :
    Sound s' origin where
  number_lt path e he := hc ▸ h.number_lt path e (hl path e he)
  held path e he := h.held path e (hl path e he)

/-- Only the origins of documents that were read count. -/
theorem of_origin (h : Sound s origin) (ho : ∀ n < s.count, origin' n = origin n) :
    Sound s origin' where
  number_lt := h.number_lt
  held path e he := ho _ (h.number_lt path e he) ▸ h.held path e he

/-- A new document comes from the files as they are. -/
theorem load (h : Sound s origin) (ho : origin s.count = s.files) (written : String) :
    Sound (s.load written).1 origin := by
  rcases s.load_cases written with ⟨e, hl⟩ | ⟨loaded, -, hl⟩ | ⟨d, -, hd, hl⟩
  · rwa [hl]
  · rwa [hl]
  · rw [hl]
    have hkeep : ∀ path e,
        (s.keep (Path.ofString written) (s.time? (Path.ofString written)) d).cache.lookup path =
          some e → e.loaded.number < s.count + 1 ∧ Held (origin e.loaded.number) path e := by
      intro path e he
      rw [Store.lookup_keep] at he
      split at he
      · next hp =>
        obtain rfl := Option.some.inj he
        refine ⟨Nat.lt_succ_self _, ?_⟩
        rw [hp, ho]
        exact held_of_filed hd
      · exact ⟨(h.number_lt path e he).trans (Nat.lt_succ_self _), h.held path e he⟩
    exact ⟨fun path e he => (hkeep path e he).1, fun path e he => (hkeep path e he).2⟩

/-- However much is read, it comes from the files as they are. -/
theorem reads (h : Sound s origin) (hr : s.Reads s') (ho : ∀ n, s.count ≤ n → origin n = s.files) :
    Sound s' origin := by
  suffices Sound s' origin ∧ s.count ≤ s'.count from this.1
  induction hr with
  | refl => exact ⟨h, Nat.le_refl _⟩
  | @load s' hr written ih =>
    obtain ⟨hs, hc⟩ := ih
    refine ⟨hs.load ?_ written, hc.trans ?_⟩
    · rw [ho _ hc, hr.sameAnswers.files_eq]
    · rcases s'.load_cases written with ⟨e, hl⟩ | ⟨loaded, -, hl⟩ | ⟨d, -, hd, hl⟩
      all_goals rw [hl]
      exact Nat.le_succ _

end Sound

/-! ## From step to step -/

/-- All that a call does to a store is reading. -/
theorem Call.reads (c : Call) (s : Store) : s.Reads (c.after s) := by
  cases c with
  | resolve source name => exact Store.Reads.refl.resolveIn (Path.directory source) name
  | resolveIn directory name => exact Store.Reads.refl.resolveIn directory name
  | load written => exact Store.Reads.refl.load written
  | render apply r name request bindings => exact r.render_reads apply s name request bindings

theorem Call.answer_congr (h : s.SameAnswers s') (c : Call) : c.answer s' = c.answer s := by
  cases c with
  | resolve source name =>
    exact congrArg Answer.template (h.documentIn_eq (Path.directory source) name)
  | resolveIn directory name => exact congrArg Answer.template (h.documentIn_eq directory name)
  | load written => exact congrArg Answer.document (h.document_eq written)
  | render apply r name request bindings =>
    exact congrArg Answer.page (Renderer.render_congr h apply r name request bindings)

theorem Step.files_after (step : Step) (s : Store) :
    (step.after s).files = step.filesAfter s.files := by
  cases step with
  | call c => exact (c.reads s).sameAnswers.files_eq
  | _ => rfl

/-- What is kept stays sound in every step. -/
theorem Sound.next (h : Sound σ.store σ.origin) (step : Step) :
    Sound (σ.next step).store (σ.next step).origin := by
  have hold : Sound σ.store (σ.next step).origin :=
    h.of_origin fun n hn => State.next_origin_of_lt hn step
  cases step with
  | write | makeDirectory | remove => exact hold.of_lookup rfl fun _ _ he => he
  | call c =>
    exact hold.reads (c.reads σ.store) fun n hn => State.next_origin_of_le hn (.call c)
  | invalidate written =>
    refine hold.of_lookup rfl fun path e he => ?_
    rw [State.next_store, Step.after, Store.invalidate, Store.lookup_filter] at he
    split at he
    · simp at he
    · exact he
  | clear =>
    refine hold.of_lookup rfl fun path e he => ?_
    simp [State.next_store, Step.after, Store.clear] at he

/-- What is kept is sound in every session. -/
theorem Sound.run (h : Sound σ.store σ.origin) (steps : List Step) :
    Sound (σ.run steps).store (σ.run steps).origin := by
  induction steps generalizing σ with
  | nil => exact h
  | cons step steps ih => exact ih (h.next step)

/-- If times can be trusted, what is kept does not show. -/
theorem Sound.sameAnswers (h : Sound σ.store σ.origin) (ht : σ.Trusted) :
    (Store.ofFiles σ.store.files).SameAnswers σ.store := by
  refine ⟨rfl, fun written => ?_⟩
  cases hl : σ.store.files.locate written with
  | error e =>
    rw [Store.document_of_locate_error hl]
    exact (Store.document_of_locate_error (s := .ofFiles σ.store.files) hl).symm
  | ok pos =>
    have hfiled := Store.document_of_stale (s := .ofFiles σ.store.files) hl rfl
    rw [hfiled]
    cases hf : σ.store.fresh? (Path.ofString written) (σ.store.time? (Path.ofString written)) with
    | none => exact Store.document_of_stale hl hf
    | some loaded =>
      obtain ⟨e, he, hm, rfl⟩ := Store.fresh?_eq_some.1 hf
      have hheld := h.held _ e he
      rw [Held, ← ht _ e he hm.symm] at hheld
      rw [Store.document_of_fresh hl hf]
      exact (filed_of_held hheld).symm

/-- From where what is kept is sound on, a session answers as if nothing were kept. -/
theorem answers_eq (h : Sound σ.store σ.origin) (steps : List Step)
    (ht : ∀ before c, before ++ [.call c] <+: steps → (σ.run before).Trusted) :
    answers σ.store steps = plainAnswers σ.store.files steps := by
  induction steps generalizing σ with
  | nil => rfl
  | cons step steps ih =>
    have hrest := ih (h.next step) fun before c hb =>
      ht (step :: before) c (List.cons_prefix_cons.2 ⟨rfl, hb⟩)
    have hanswer : step.answer? σ.store = step.answer? (.ofFiles σ.store.files) := by
      cases step with
      | call c =>
        have htrusted := ht [] c (List.cons_prefix_cons.2 ⟨rfl, List.nil_prefix⟩)
        exact congrArg some (c.answer_congr (h.sameAnswers htrusted))
      | _ => rfl
    rw [answers, plainAnswers, hanswer, ← step.files_after]
    exact congrArg _ hrest

/-- Documents come from files as they were at some time. -/
theorem exists_origin (files : FileSystem) (steps : List Step) {n : Nat}
    (hn : n < ((State.start files).run steps).store.count) :
    ∃ before, before <+: steps ∧
      ((State.start files).run steps).origin n = ((State.start files).run before).store.files := by
  induction steps using List.reverseRecOn with
  | nil => simp [State.run, State.start, Store.ofFiles] at hn
  | append_singleton steps step ih =>
    have hrun : (State.start files).run (steps ++ [step]) =
        ((State.start files).run steps).next step := List.foldl_append
    rw [hrun]
    by_cases hold : n < ((State.start files).run steps).store.count
    · obtain ⟨before, hb, ho⟩ := ih hold
      refine ⟨before, hb.trans (List.prefix_append _ _), ?_⟩
      rw [State.next_origin_of_lt hold, ho]
    · exact ⟨steps, List.prefix_append _ _, State.next_origin_of_le (Nat.le_of_not_lt hold) step⟩

/-- If whenever something is asked a file that has the time of a kept document is the file that the
document was read from, then everything that is asked in a session is answered as a store that
keeps nothing would; and every document that is kept is what its file held at some time of the
session, the time that it is kept with. -/
theorem answers_eq_plainAnswers (files : FileSystem) (steps : List Step)
    (ht : ∀ before c, before ++ [.call c] <+: steps →
      ((State.start files).run before).Trusted) :
    answers (.ofFiles files) steps = plainAnswers files steps ∧
      ∀ path e, ((State.start files).run steps).store.cache.lookup path = some e →
        ∃ before, before <+: steps ∧
          Held ((State.start files).run before).store.files path e := by
  have hstart : Sound (State.start files).store (State.start files).origin := .ofFiles
  refine ⟨answers_eq hstart steps ht, fun path e he => ?_⟩
  have h := hstart.run steps
  obtain ⟨before, hb, ho⟩ := exists_origin files steps (h.number_lt path e he)
  exact ⟨before, hb, ho ▸ h.held path e he⟩

/-- A page is asked for, written anew, asked for again, removed, and asked for once more. -/
def rewriting : List Step :=
  let page := .call (.render Function.apply ⟨"", [], ""⟩ "a" .none [])
  [.write ["a.html"] "a".toUTF8 1, page, .write ["a.html"] "b".toUTF8 2, page,
    .remove ["a.html"], page]

theorem answers_eq_plainAnswers_of_rewriting :
    (∀ before c, before ++ [.call c] <+: rewriting → ((State.start .empty).run before).Trusted) ∧
      answers (.ofFiles .empty) rewriting =
        [.page (.ok "a"), .page (.ok "b"), .page (.error (.notFound "a.html" .missing))] := by
  have ht : ∀ i < rewriting.length, ((State.start .empty).run (rewriting.take i)).Trusted :=
    fun i hi => State.trusted_of_mem (by
      revert i
      decide +kernel)
  have h : ∀ before c, before ++ [.call c] <+: rewriting →
      ((State.start .empty).run before).Trusted :=
    fun before c hb => State.trusted_of_take ht hb
  refine ⟨h, (answers_eq_plainAnswers .empty rewriting h).1.trans ?_⟩
  decide +kernel

end Stencil.Session
