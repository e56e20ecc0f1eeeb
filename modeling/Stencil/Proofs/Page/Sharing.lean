import Stencil.Proofs.Page.Session
import Stencil.Proofs.Store.Plain

/-!
# Which document is found

What happens to kept documents in a session is noted down: which file was read, and what was dropped
(`notes`). The notes tell what a store keeps (`Noted`), so they tell which document is found for a
path: the one that was read last, unless it was dropped or the file has another time, and a new one
otherwise.
-/

namespace Stencil

namespace Store

variable {s s' : Store} {path : Path} {e : CacheEntry}

/-- Where no path has two entries, an entry is the one that is found. -/
theorem lookup_of_mem {cache : Cache} (h : (cache.map Prod.fst).Nodup) (he : (path, e) ∈ cache) :
    cache.lookup path = some e := by
  obtain ⟨before, after, rfl⟩ := List.append_of_mem he
  refine List.lookup_eq_some_iff.2 ⟨before, after, rfl, fun x hx => ?_⟩
  rw [List.map_append, List.nodup_append'] at h
  have hne : path ≠ x.1 := fun hpath =>
    h.2.2 (List.mem_map.2 ⟨x, hx, rfl⟩) (hpath ▸ by simp)
  simpa using hne

theorem nodup_filter {cache : Cache} (h : (cache.map Prod.fst).Nodup) (path : Path) :
    ((cache.filter fun (p, _) => p ≠ path).map Prod.fst).Nodup :=
  h.sublist (List.filter_sublist.map _)

/-- Keeping a document for a path drops what was kept for it, so no path has two entries. -/
theorem nodup_keep (h : (s.cache.map Prod.fst).Nodup) (path : Path) (modified : Option Int)
    (d : Document) : ((s.keep path modified d).cache.map Prod.fst).Nodup := by
  rw [keep, List.map_cons, List.nodup_cons]
  refine ⟨fun hp => ?_, nodup_filter h path⟩
  obtain ⟨x, hx, hpath⟩ := List.mem_map.1 hp
  simpa [hpath] using List.of_mem_filter hx

/-- What is kept and was not at first, the last first. -/
def newer (s s' : Store) : Cache := s'.cache.filter fun x => s.count ≤ x.2.loaded.number

/-- A document that is kept is newer than the store was, and so is what was newer before. -/
theorem newer_keep (hc : s.count ≤ s'.count) (hne : ∀ x ∈ s.newer s', x.1 ≠ path)
    (modified : Option Int) (d : Document) :
    s.newer (s'.keep path modified d) =
      (path, ⟨modified, ⟨s'.count, d⟩⟩) :: s.newer s' := by
  rw [newer, keep, List.filter_cons_of_pos (by simpa using hc), List.filter_filter, newer]
  refine congrArg _ (List.filter_congr fun x hx => ?_)
  by_cases hx' : s.count ≤ x.2.loaded.number
  · simp [hx', hne x (List.mem_filter.2 ⟨hx, by simpa using hx'⟩)]
  · simp [hx']

end Store

namespace Session

/-! ## Notes -/

/-- What may happen to a kept document: it is read, dropped, or dropped with all others. -/
inductive Note where
  | read (path : Path) (e : CacheEntry)
  | dropped (path : Path)
  | cleared

namespace Note

/-- The number of a document that was read. -/
def number? : Note → Option Nat
  | read _ e => some e.loaded.number
  | dropped _ | cleared => none

end Note

/-- What is noted down of a step, the last first. -/
def Step.notes (s : Store) : Step → List Note
  | call c => (s.newer (c.after s)).map fun (path, e) => .read path e
  | invalidate written => [.dropped (s.key written)]
  | clear => [.cleared]
  | write .. | makeDirectory _ | remove _ => []

/-- What is noted down of steps, on top of what was noted down before. -/
def notes (s : Store) (log : List Note) : List Step → List Note
  | [] => log
  | step :: steps => notes (step.after s) (step.notes s ++ log) steps

/-- What was kept for a path when its file was read last. -/
def lastRead? (path : Path) : List Note → Option CacheEntry
  | [] => none
  | .read p e :: log => if p = path then some e else lastRead? path log
  | .dropped _ :: log | .cleared :: log => lastRead? path log

/-- Whether what was kept for a path was dropped since its file was read last. -/
def isDropped (path : Path) : List Note → Bool
  | [] => false
  | .read p _ :: log => p ≠ path && isDropped path log
  | .dropped p :: log => p = path || isDropped path log
  | .cleared :: _ => true

variable {s s' : Store} {log : List Note} {path : Path} {e : CacheEntry}

/-- The document read last for a path is noted. -/
theorem mem_of_lastRead? (h : lastRead? path log = some e) : Note.read path e ∈ log := by
  fun_induction lastRead? path log with
  | case1 => simp at h
  | case2 e' log => simp_all
  | case3 p e' log hp ih => exact List.mem_cons_of_mem _ (ih h)
  | case4 p log ih => exact List.mem_cons_of_mem _ (ih h)
  | case5 log ih => exact List.mem_cons_of_mem _ (ih h)

/-! ## What the notes tell -/

/-- Each path has one kept document at most, which is what the notes say. -/
structure Noted (s : Store) (log : List Note) : Prop where
  nodup : (s.cache.map Prod.fst).Nodup
  lookup_eq : ∀ path, s.cache.lookup path = if isDropped path log then none else lastRead? path log
  numbers_eq : log.filterMap Note.number? = (List.range s.count).reverse

namespace Noted

theorem ofFiles (files : FileSystem) : Noted (.ofFiles files) [] where
  nodup := List.nodup_nil
  lookup_eq path := by simp [Store.ofFiles, isDropped, lastRead?]
  numbers_eq := rfl

/-- All that was read has a number already. -/
theorem number_lt (h : Noted s log) (he : lastRead? path log = some e) :
    e.loaded.number < s.count := by
  have hmem : e.loaded.number ∈ log.filterMap Note.number? :=
    List.mem_filterMap.2 ⟨_, mem_of_lastRead? he, rfl⟩
  rw [h.numbers_eq] at hmem
  simpa using hmem

/-- What is kept for a path is what was read last for it, and was not dropped since. -/
theorem lastRead?_of_lookup (h : Noted s log) (he : s.cache.lookup path = some e) :
    isDropped path log = false ∧ lastRead? path log = some e := by
  rw [h.lookup_eq] at he
  split at he
  · simp at he
  · next hd => exact ⟨by simpa using hd, he⟩

/-- What was read last and not dropped is good as long as the file has the time. -/
theorem fresh?_eq_some (h : Noted s log) (he : lastRead? path log = some e)
    (hd : isDropped path log = false) (hm : e.modified = s.time? path) :
    s.fresh? path (s.time? path) = some e.loaded := by
  have hlookup := h.lookup_eq path
  rw [if_neg (by simp [hd]), he] at hlookup
  exact Store.fresh?_eq_some.2 ⟨e, hlookup, hm, rfl⟩

/-- Reading a file that is not kept, or is kept no longer. -/
theorem keep (h : Noted s log) (path : Path) (modified : Option Int) (d : Document) :
    Noted (s.keep path modified d) (.read path ⟨modified, ⟨s.count, d⟩⟩ :: log) where
  nodup := Store.nodup_keep h.nodup path modified d
  lookup_eq path' := by
    rw [Store.lookup_keep, isDropped, lastRead?, h.lookup_eq]
    by_cases hp : path' = path
    · simp [hp]
    · simp [hp, Ne.symm hp]
  numbers_eq := by
    change s.count :: log.filterMap Note.number? = (List.range (s.count + 1)).reverse
    rw [h.numbers_eq, List.range_succ, List.reverse_append]
    rfl

theorem invalidate (h : Noted s log) (written : String) :
    Noted (s.invalidate written).1 (.dropped (s.key written) :: log) where
  nodup := Store.nodup_filter h.nodup _
  lookup_eq path := by
    rw [Store.invalidate, Store.lookup_filter, isDropped, lastRead?, h.lookup_eq]
    by_cases hp : path = s.key written
    · simp [hp]
    · simp [hp, Ne.symm hp]
  numbers_eq := h.numbers_eq

theorem clear (h : Noted s log) : Noted s.clear (.cleared :: log) where
  nodup := by simp [Store.clear]
  lookup_eq path := by simp [Store.clear, isDropped]
  numbers_eq := h.numbers_eq

theorem files (h : Noted s log) (files : FileSystem) : Noted { s with files } log :=
  ⟨h.nodup, h.lookup_eq, h.numbers_eq⟩

/-- Nothing in a store is newer than the store. -/
theorem newer_self (h : Noted s log) : s.newer s = [] := by
  refine List.filter_eq_nil_iff.2 fun x hx => ?_
  have hlast := (h.lastRead?_of_lookup (Store.lookup_of_mem h.nodup hx)).2
  simpa using h.number_lt hlast

/-- What is read in one step is not read again in that step, so all of it is noted. -/
theorem reads (h : Noted s log) (hr : s.Reads s') :
    Noted s' (((s.newer s').map fun (path, e) => .read path e) ++ log) := by
  suffices Noted s' (((s.newer s').map fun (path, e) => .read path e) ++ log) ∧
      s.count ≤ s'.count ∧ ∀ x ∈ s.newer s', x.2.modified = s'.time? x.1 from this.1
  induction hr with
  | refl =>
    rw [h.newer_self]
    exact ⟨h, Nat.le_refl _, by simp⟩
  | @load s' hr written ih =>
    obtain ⟨hs, hcount, htimes⟩ := ih
    rcases s'.load_cases written with ⟨e, hl⟩ | ⟨loaded, -, hl⟩ | ⟨d, hf, -, hl⟩
    · rw [hl]
      exact ⟨hs, hcount, htimes⟩
    · rw [hl]
      exact ⟨hs, hcount, htimes⟩
    · rw [hl]
      generalize Path.ofString written = path at hf
      -- what was read in this step has the time of its file, so it is good for the rest of it
      have hother : ∀ x ∈ s.newer s', x.1 ≠ path := by
        rintro ⟨p, e⟩ hx rfl
        have hlookup := Store.lookup_of_mem hs.nodup (List.mem_of_mem_filter hx)
        have hfresh := Store.fresh?_eq_some.2 ⟨e, hlookup, htimes _ hx, rfl⟩
        simp [hf] at hfresh
      rw [Store.newer_keep hcount hother]
      exact ⟨hs.keep path (s'.time? path) d, hcount.trans (Nat.le_succ _),
        List.forall_mem_cons.2 ⟨rfl, htimes⟩⟩

/-- The notes tell what is kept after every step. -/
theorem next (h : Noted s log) (step : Step) : Noted (step.after s) (step.notes s ++ log) := by
  cases step with
  | write | makeDirectory | remove => exact h.files _
  | call c => exact h.reads (c.reads s)
  | invalidate written => exact h.invalidate written
  | clear => exact h.clear

/-- The notes tell what is kept in every session. -/
theorem run {σ : State} (h : Noted σ.store log) (steps : List Step) :
    Noted (σ.run steps).store (notes σ.store log steps) := by
  induction steps generalizing σ log with
  | nil => exact h
  | cons step steps ih => exact ih (h.next step)

end Noted

/-! ## What a call finds -/

/-- What a call that looks for a name is looking for, as it is written. -/
def Call.target? : Call → Option String
  | resolve source name =>
    if Text.trimmed name = "" then none
    else some (Path.join (Path.directory source) (name ++ Store.ending))
  | resolveIn directory name =>
    if Text.trimmed name = "" then none else some (Path.join directory (name ++ Store.ending))
  | load _ | render .. => none

/-- All that looking for a document may come to, with what is left of the store. -/
inductive Finds (s : Store) : Except TemplateError (Path × Loaded) → Store → Prop
  | error (e : TemplateError) : Finds s (.error e) s
  | kept {path : Path} {loaded : Loaded} (h : s.fresh? path (s.time? path) = some loaded) :
    Finds s (.ok (path, loaded)) s
  | new {written : String} {d : Document}
    (hf : s.fresh? (.ofString written) (s.time? (.ofString written)) = none)
    (hd : s.filed written = .ok d) :
    Finds s (.ok (.ofString written, ⟨s.count, d⟩))
      (s.keep (.ofString written) (s.time? (.ofString written)) d)

/-- What was found at a path, where `s'` is left of the store `s` with its notes. -/
structure Found (s s' : Store) (log : List Note) (path : Path) (loaded : Loaded) : Prop where
  /-- Nothing happens to what is kept for other paths. -/
  lookup_eq : ∀ path', path' ≠ path → s'.cache.lookup path' = s.cache.lookup path'
  /-- It is what was read last, if that was not dropped and the time of the file is the same. -/
  number_eq_iff : ∀ e, lastRead? path log = some e →
    (loaded.number = e.loaded.number ↔ isDropped path log = false ∧ e.modified = s.time? path)
  /-- If it is not, it is a new document of the file as it is, and is kept instead. -/
  kept_or_new : (∃ e, lastRead? path log = some e ∧ loaded = e.loaded ∧ s' = s) ∨
    (loaded.number = s.count ∧ Held s.files path ⟨s.time? path, loaded⟩ ∧
      s'.cache.lookup path = some ⟨s.time? path, loaded⟩)

/-- The document that a call finds is the one that was read last, as long as it is good, or a new
one. -/
theorem Noted.found (h : Noted s log) {loaded : Loaded} (hf : Finds s (.ok (path, loaded)) s') :
    Found s s' log path loaded := by
  cases hf with
  | kept hfresh =>
    obtain ⟨e, hlookup, hm, rfl⟩ := Store.fresh?_eq_some.1 hfresh
    obtain ⟨hd, hlast⟩ := h.lastRead?_of_lookup hlookup
    refine ⟨fun _ _ => rfl, fun e' he' => ?_, .inl ⟨e, hlast, rfl, rfl⟩⟩
    obtain rfl := Option.some.inj (hlast.symm.trans he')
    exact iff_of_true rfl ⟨hd, hm⟩
  | @new written d hfresh hfiled =>
    refine ⟨fun path' hp => ?_, fun e he => ?_, .inr ⟨rfl, held_of_filed hfiled, ?_⟩⟩
    · rw [Store.lookup_keep, if_neg hp]
    · refine iff_of_false (h.number_lt he).ne' fun ⟨hd, hm⟩ => ?_
      simp [h.fresh?_eq_some he hd hm] at hfresh
    · rw [Store.lookup_keep, if_pos rfl]

/-- Every document is kept under the names that lead to its file. -/
def KeysNamed (s : Store) : Prop :=
  ∀ x ∈ s.cache, ∃ parts, x.1 = ⟨false, parts⟩ ∧ ∀ part ∈ parts, FileSystem.IsName part

namespace KeysNamed

theorem ofFiles (files : FileSystem) : KeysNamed (.ofFiles files) := by
  simp [KeysNamed, Store.ofFiles]

/-- Dropping entries leaves the others under their plain paths. -/
theorem of_subset (h : KeysNamed s) (hs : s'.cache ⊆ s.cache) : KeysNamed s' :=
  fun x hx => h x (hs hx)

/-- Whatever directory and name lead to a file, its document is kept under the names of the file. -/
theorem resolveIn (h : KeysNamed s) (directory name : String) :
    KeysNamed (s.resolveIn directory name).1 := by
  rcases s.resolveIn_cases directory name with ⟨e, hr⟩ | ⟨pos, hpos, hr⟩
  · rwa [hr]
  rw [hr]
  rcases s.load_cases pos.path.toString with ⟨e, hl⟩ | ⟨loaded, -, hl⟩ | ⟨d, -, hd, hl⟩
  · rwa [hl]
  · rwa [hl]
  rw [hl]
  have hknown := FileSystem.Known.of_locate hpos
  rw [hknown.isPlain.ofString_toString]
  obtain ⟨content, modified, text, hfile, -⟩ := Store.filed_eq_ok.1 hd
  rw [hknown.isPlain.ofString_toString] at hfile
  obtain ⟨parts, rfl⟩ := hknown.exists_eq_inside hfile
  refine List.forall_mem_cons.2 ⟨⟨parts, rfl, hknown.isNamed⟩, fun x hx => ?_⟩
  exact h x (List.mem_of_mem_filter hx)

/-- Looking for names keeps documents under plain paths only. -/
theorem resolves (h : KeysNamed s) (hr : s.Resolves s') : KeysNamed s' := by
  induction hr with
  | refl => exact h
  | resolveIn _ directory name ih => exact ih.resolveIn directory name

/-- Every step but loading a path as it is written keeps documents under plain paths only. -/
theorem next (h : KeysNamed s) {step : Step} (hs : ∀ written, step ≠ .call (.load written)) :
    KeysNamed (step.after s) := by
  cases step with
  | write | makeDirectory | remove => exact h.of_subset (List.Subset.refl _)
  | call c =>
    cases c with
    | resolve source name => exact h.resolveIn (Path.directory source) name
    | resolveIn directory name => exact h.resolveIn directory name
    | load written => exact absurd rfl (hs written)
    | render apply r name request bindings =>
      exact h.resolves (r.render_resolves apply s name request bindings)
  | invalidate written => exact h.of_subset fun x hx => List.mem_of_mem_filter hx
  | clear => exact h.of_subset (List.nil_subset _)

/-- So does a session without such steps. -/
theorem run {σ : State} (h : KeysNamed σ.store) {steps : List Step}
    (hs : ∀ written, Step.call (.load written) ∉ steps) : KeysNamed (σ.run steps).store := by
  induction steps generalizing σ with
  | nil => exact h
  | cons step steps ih =>
    have hstep : ∀ written, step ≠ .call (.load written) := fun written heq =>
      hs written (heq ▸ List.mem_cons_self)
    exact ih (σ := σ.next step) (h.next hstep) fun written hw =>
      hs written (List.mem_cons_of_mem _ hw)

end KeysNamed

end Session

end Stencil
