import Stencil.Proofs.Store.Place

/-!
# What a store answers

The document of a path is what is kept for it, if that is still good, and what its file holds
otherwise (`document_of_fresh`, `document_of_stale`). Reading does not change what a store answers,
it only keeps the answers (`sameAnswers_load`), however often it is done (`Reads.sameAnswers`), and
looking for names is reading (`Resolves.reads`).
-/

namespace Stencil

open FileSystem (Entry)

/-- The document of a text that a file holds. -/
def Markup.ofFile (written : String) (text : Except FileError String) :
    Except TemplateError Document :=
  match text with
  | .error e => .error (.unreadable written e)
  | .ok text =>
    match Markup.parse (Text.trimmed text) with
    | .error fault => .error (.badMarkup fault)
    | .ok d => .ok d

namespace Store

variable {s s' s'' : Store} {path path' : Path} {written : String}

/-- The document that a store answers for a path. -/
def document (s : Store) (written : String) : Except TemplateError Document :=
  (s.load written).2.map Loaded.document

/-- The time that counts for a path. -/
def time? (s : Store) (path : Path) : Option Int := (s.files.at? path).bind Entry.time?

/-- What the file of a path holds as a document. -/
def filed (s : Store) (written : String) : Except TemplateError Document :=
  Markup.ofFile written (Entry.text (s.files.at? (Path.ofString written)))

/-- A path holds a document if it leads to a file with a text that can be parsed. -/
theorem filed_eq_ok {d : Document} :
    s.filed written = .ok d ↔
      ∃ content modified text,
        s.files.at? (Path.ofString written) = some (.file content modified) ∧
        String.fromUTF8? content = some text ∧ Markup.parse (Text.trimmed text) = .ok d := by
  unfold filed Markup.ofFile
  constructor
  · intro h
    cases hf : s.files.at? (Path.ofString written) with
    | none => simp [hf, Entry.text] at h
    | some entry =>
      cases entry with
      | directory => simp [hf, Entry.text] at h
      | file content modified =>
        cases ht : String.fromUTF8? content with
        | none => simp [hf, Entry.text, ht] at h
        | some text =>
          cases hp : Markup.parse (Text.trimmed text) with
          | error fault => simp [hf, Entry.text, ht, hp] at h
          | ok d' =>
            obtain rfl : d' = d := by simpa [hf, Entry.text, ht, hp] using h
            exact ⟨content, modified, text, rfl, ht, hp⟩
  · rintro ⟨content, modified, text, hf, ht, hp⟩
    simp [hf, Entry.text, ht, hp]

/-- Two ways to write one path hold the same document. -/
theorem filed_congr {w : String} (h : Path.ofString w = Path.ofString written) {d : Document}
    (hd : s.filed written = .ok d) : s.filed w = .ok d := by
  rw [filed_eq_ok] at hd ⊢
  rwa [h]

/-- A path that leads nowhere is answered with that, whatever is kept. -/
theorem load_of_locate_error {e : FileError} (h : s.files.locate written = .error e) :
    s.load written = (s, .error (.unreadable written e)) := by
  simp [load, FileSystem.modified?, h, bind, Except.bind]

/-- What is kept under a path is answered as long as its time stays; else the file counts. -/
theorem load_of_locate {pos : FileSystem.Position} (h : s.files.locate written = .ok pos) :
    s.load written =
      match s.fresh? (Path.ofString written) (s.time? (Path.ofString written)) with
      | some loaded => (s, .ok loaded)
      | none =>
        match s.filed written with
        | .error e => (s, .error e)
        | .ok d =>
          (s.keep (Path.ofString written) (s.time? (Path.ofString written)) d,
            .ok ⟨s.count, d⟩) := by
  simp only [load, FileSystem.modified?_eq h, FileSystem.read_eq h, filed, time?]
  cases s.fresh? (Path.ofString written)
    ((s.files.at? (Path.ofString written)).bind Entry.time?) with
  | some loaded => rfl
  | none =>
    cases Entry.text (s.files.at? (Path.ofString written)) with
    | error e => rfl
    | ok text =>
      simp only [Markup.ofFile]
      cases Markup.parse (Text.trimmed text) <;> rfl

theorem document_of_locate_error {e : FileError} (h : s.files.locate written = .error e) :
    s.document written = .error (.unreadable written e) := by
  rw [document, load_of_locate_error h]
  rfl

/-- What is kept and good is answered. -/
theorem document_of_fresh {pos : FileSystem.Position} {loaded : Loaded}
    (h : s.files.locate written = .ok pos)
    (hf : s.fresh? (Path.ofString written) (s.time? (Path.ofString written)) = some loaded) :
    s.document written = .ok loaded.document := by
  rw [document, load_of_locate h, hf]
  rfl

/-- Otherwise what the file holds is answered. -/
theorem document_of_stale {pos : FileSystem.Position} (h : s.files.locate written = .ok pos)
    (hf : s.fresh? (Path.ofString written) (s.time? (Path.ofString written)) = none) :
    s.document written = s.filed written := by
  rw [document, load_of_locate h, hf]
  cases hd : s.filed written with
  | error e => rfl
  | ok d => rfl

/-- All that reading a path may do: fail, answer what is kept, or keep what the file holds. -/
theorem load_cases (s : Store) (written : String) :
    (∃ e, s.load written = (s, .error e)) ∨
    (∃ loaded, s.fresh? (Path.ofString written) (s.time? (Path.ofString written)) = some loaded ∧
      s.load written = (s, .ok loaded)) ∨
    (∃ d, s.fresh? (Path.ofString written) (s.time? (Path.ofString written)) = none ∧
      s.filed written = .ok d ∧
      s.load written =
        (s.keep (Path.ofString written) (s.time? (Path.ofString written)) d,
          .ok ⟨s.count, d⟩)) := by
  cases hl : s.files.locate written with
  | error e => exact .inl ⟨_, load_of_locate_error hl⟩
  | ok pos =>
    rw [load_of_locate hl]
    cases hf : s.fresh? (Path.ofString written) (s.time? (Path.ofString written)) with
    | some loaded => exact .inr (.inl ⟨loaded, rfl, rfl⟩)
    | none =>
      cases hd : s.filed written with
      | error e => exact .inl ⟨e, rfl⟩
      | ok d => exact .inr (.inr ⟨d, rfl, rfl, rfl⟩)

/-! ## Keeping a document -/

/-- What is kept for a path is still good if it has the time of the file. -/
theorem fresh?_eq_some {modified : Option Int} {loaded : Loaded} :
    s.fresh? path modified = some loaded ↔
      ∃ e, s.cache.lookup path = some e ∧ e.modified = modified ∧ e.loaded = loaded := by
  unfold fresh?
  cases s.cache.lookup path with
  | none => simp
  | some e => simp

/-- What is kept without what is kept under a path. -/
theorem lookup_filter {cache : Cache} :
    (cache.filter fun (p, _) => p ≠ path).lookup path' =
      if path' = path then none else cache.lookup path' := by
  induction cache with
  | nil => simp
  | cons entry cache ih =>
    obtain ⟨p, e⟩ := entry
    by_cases hp : p = path
    · rw [List.filter_cons_of_neg (by simpa using hp), ih, List.lookup_cons]
      by_cases hpath : path' = path
      · rw [if_pos hpath, if_pos hpath]
      · have hne : (path' == p) = false := by simpa [hp] using hpath
        rw [hne]
    · rw [List.filter_cons_of_pos (by simpa using hp), List.lookup_cons, List.lookup_cons, ih]
      by_cases hpath : path' = p
      · have hne : path' ≠ path := fun h => hp (hpath ▸ h)
        rw [if_neg hne, if_neg hne]
      · have hne : (path' == p) = false := by simpa using hpath
        rw [hne]

/-- A document that is kept is found under its path, and all others are found as before. -/
theorem lookup_keep {modified : Option Int} {d : Document} :
    (s.keep path modified d).cache.lookup path' =
      if path' = path then some ⟨modified, ⟨s.count, d⟩⟩ else s.cache.lookup path' := by
  by_cases h : path' = path
  · simp [keep, h]
  · have hp : (path' == path) = false := by simpa using h
    simp only [keep, List.lookup_cons, hp, lookup_filter, if_neg h]

theorem fresh?_keep {modified : Option Int} {d : Document} :
    (s.keep path modified d).fresh? path modified = some ⟨s.count, d⟩ := by
  simp [fresh?, lookup_keep]

theorem fresh?_keep_of_ne (s : Store) (modified : Option Int) (d : Document) (h : path' ≠ path)
    (modified' : Option Int) :
    (s.keep path modified d).fresh? path' modified' = s.fresh? path' modified' := by
  simp only [fresh?, lookup_keep, if_neg h]

/-! ## The same answers -/

/-- Two stores over the same files that answer the same for every path. -/
structure SameAnswers (s s' : Store) : Prop where
  files_eq : s'.files = s.files
  document_eq : ∀ written, s'.document written = s.document written

namespace SameAnswers

theorem refl (s : Store) : s.SameAnswers s := ⟨rfl, fun _ => rfl⟩

theorem trans (h : s.SameAnswers s') (h' : s'.SameAnswers s'') : s.SameAnswers s'' :=
  ⟨h'.files_eq.trans h.files_eq, fun w => (h'.document_eq w).trans (h.document_eq w)⟩

end SameAnswers

/-- Reading a path does not change the answers. -/
theorem sameAnswers_load (s : Store) (written : String) :
    s.SameAnswers (s.load written).1 := by
  rcases s.load_cases written with ⟨e, h⟩ | ⟨loaded, -, h⟩ | ⟨d, hf, hd, h⟩
  · rw [h]
    exact .refl s
  · rw [h]
    exact .refl s
  · rw [h]
    refine ⟨rfl, fun w => ?_⟩
    -- Keeping changes neither files nor times.
    generalize hk : s.keep (Path.ofString written) (s.time? (Path.ofString written)) d = s'
    have hfiles : s'.files = s.files := by rw [← hk]; rfl
    have htime : s'.time? = s.time? := by funext path; rw [time?, time?, hfiles]
    cases hl : s.files.locate w with
    | error e => rw [document_of_locate_error hl, document_of_locate_error (by rw [hfiles, hl])]
    | ok pos =>
      have hl' : s'.files.locate w = .ok pos := by rw [hfiles, hl]
      by_cases hw : Path.ofString w = Path.ofString written
      · have hkept : s'.fresh? (Path.ofString w) (s'.time? (Path.ofString w)) =
            some ⟨s.count, d⟩ := by
          rw [htime, hw, ← hk, fresh?_keep]
        rw [document_of_fresh hl' hkept, document_of_stale hl (by rw [hw, hf]), filed_congr hw hd]
      · have hother : s'.fresh? (Path.ofString w) (s'.time? (Path.ofString w)) =
            s.fresh? (Path.ofString w) (s.time? (Path.ofString w)) := by
          rw [htime, ← hk, fresh?_keep_of_ne _ _ _ hw]
        cases hf' : s.fresh? (Path.ofString w) (s.time? (Path.ofString w)) with
        | some loaded =>
          rw [document_of_fresh hl hf', document_of_fresh hl' (hother.trans hf')]
        | none =>
          rw [document_of_stale hl hf', document_of_stale hl' (hother.trans hf'), filed, filed,
            hfiles]

/-- Looking for a name is loading the plain path of where it leads, if it leads anywhere. -/
theorem resolveIn_eq (s : Store) (directory name : String) :
    s.resolveIn directory name =
      if Text.trimmed name = "" then (s, .error (.invalidName name))
      else
        match s.files.canonical (Path.join directory (name ++ ending)) with
        | .error e => (s, .error (.notFound (Path.join directory (name ++ ending)) e))
        | .ok path =>
          ((s.load path.toString).1,
            (s.load path.toString).2.map fun loaded => (path.toString, loaded)) := by
  rw [resolveIn]
  split
  · rfl
  · simp only
    cases s.files.canonical (Path.join directory (name ++ ending)) with
    | error e => rfl
    | ok path =>
      simp only
      rcases s.load path.toString with ⟨s', e | loaded⟩ <;> rfl

/-- The document that a name in a directory leads to, with its plain path. -/
def documentIn (s : Store) (directory name : String) : Except TemplateError (String × Document) :=
  (s.resolveIn directory name).2.map fun (path, loaded) => (path, loaded.document)

/-- A name is looked for in a directory, with the ending of templates behind it, and the document of
the plain path is answered. -/
theorem documentIn_eq (s : Store) (directory name : String) :
    s.documentIn directory name =
      if Text.trimmed name = "" then .error (.invalidName name)
      else
        match s.files.canonical (Path.join directory (name ++ ending)) with
        | .error e => .error (.notFound (Path.join directory (name ++ ending)) e)
        | .ok path => (s.document path.toString).map fun d => (path.toString, d) := by
  rw [documentIn, resolveIn_eq]
  split
  · rfl
  · cases s.files.canonical (Path.join directory (name ++ ending)) with
    | error e => rfl
    | ok path =>
      simp only [document]
      cases (s.load path.toString).2 <;> rfl

/-- Stores that answer the same for paths answer the same for names. -/
theorem SameAnswers.documentIn_eq (h : s.SameAnswers s') (directory name : String) :
    s'.documentIn directory name = s.documentIn directory name := by
  rw [Store.documentIn_eq, Store.documentIn_eq, h.files_eq]
  simp only [h.document_eq]

/-- Looking for a name loads one path at most. -/
theorem resolveIn_fst (s : Store) (directory name : String) :
    (s.resolveIn directory name).1 = s ∨
      ∃ written, (s.resolveIn directory name).1 = (s.load written).1 := by
  rw [resolveIn_eq]
  split
  · exact .inl rfl
  · cases s.files.canonical (Path.join directory (name ++ ending)) with
    | error e => exact .inl rfl
    | ok path => exact .inr ⟨path.toString, rfl⟩

/-! ## Reading again and again -/

/-- What a store may become by reading paths. -/
inductive Reads (s : Store) : Store → Prop
  | refl : Reads s s
  | load {s' : Store} (h : Reads s s') (written : String) : Reads s (s'.load written).1

namespace Reads

/-- However much is read, the answers stay. -/
theorem sameAnswers (h : s.Reads s') : s.SameAnswers s' := by
  induction h with
  | refl => exact .refl s
  | load _ written ih => exact ih.trans (sameAnswers_load _ written)

/-- Looking for a name is reading. -/
theorem resolveIn (h : s.Reads s') (directory name : String) :
    s.Reads (s'.resolveIn directory name).1 := by
  rcases s'.resolveIn_fst directory name with hr | ⟨written, hr⟩
  · rw [hr]
    exact h
  · rw [hr]
    exact h.load written

end Reads

/-- What a store may become by looking for names. -/
inductive Resolves (s : Store) : Store → Prop
  | refl : Resolves s s
  | resolveIn {s' : Store} (h : Resolves s s') (directory name : String) :
    Resolves s (s'.resolveIn directory name).1

namespace Resolves

theorem reads (h : s.Resolves s') : s.Reads s' := by
  induction h with
  | refl => exact .refl
  | resolveIn _ directory name ih => exact ih.resolveIn directory name

theorem sameAnswers (h : s.Resolves s') : s.SameAnswers s' := h.reads.sameAnswers

end Resolves

end Store

end Stencil
