import Stencil.Store.Cache

/-!
# Where paths lead

Documents are kept by `Path`, files are read by the path as it is written, and one path may be
written in many ways. They are not the same: a slash at the end of a file leads nowhere. But two
ways to write a path that both lead somewhere lead to the same place (`follow_of_locate`), so what
was read under the one is what is found under the other.
-/

namespace Stencil

namespace FileSystem

variable {fs : FileSystem} {pos pos' : Position} {written part : String}

/-- Where a path leads, apart from how it is written. -/
def follow (fs : FileSystem) (path : Path) : Except FileError Position :=
  path.parts.foldlM fs.step (if path.absolute then .top else .inside [])

/-- What a path leads to, if it leads to anything below the working directory. -/
def at? (fs : FileSystem) (path : Path) : Option Entry :=
  match fs.follow path with
  | .ok (.inside parts) => fs.entry? parts
  | _ => none

/-- The time of the last change of an entry; directories have none. -/
def Entry.time? : Entry → Option Int
  | .directory => none
  | .file _ modified => some modified

/-- A part that leads nowhere else stays where it is, if it can be followed at all. -/
theorem step_of_isIdle (h : Path.isIdle part = true) (hs : fs.step pos part = .ok pos') :
    pos' = pos := by
  have hidle : part = "" ∨ part = "." := by simpa [Path.isIdle] using h
  cases pos with
  | inside parts =>
    simp only [step, hidle, if_true] at hs
    split at hs
    · exact (Except.ok.inj hs).symm
    · simp at hs
  | above levels =>
    simp only [step, hidle, if_true] at hs
    exact (Except.ok.inj hs).symm
  | top =>
    have hidle' : part = "" ∨ part = "." ∨ part = ".." := by
      rcases hidle with h | h
      · exact .inl h
      · exact .inr (.inl h)
    simp only [step, hidle', if_true] at hs
    exact (Except.ok.inj hs).symm

/-- Parts that lead nowhere else may be left out. -/
theorem foldlM_filter_isIdle {parts : List String} (h : parts.foldlM fs.step pos = .ok pos') :
    (parts.filter fun p => !Path.isIdle p).foldlM fs.step pos = .ok pos' := by
  induction parts generalizing pos with
  | nil => exact h
  | cons part parts ih =>
    rw [List.foldlM_cons] at h
    cases hs : fs.step pos part with
    | error e => simp [hs, bind, Except.bind] at h
    | ok next =>
      rw [hs] at h
      cases hidle : Path.isIdle part with
      | true =>
        rw [List.filter_cons_of_neg (by simp [hidle]), ← step_of_isIdle hidle hs]
        exact ih h
      | false =>
        rw [List.filter_cons_of_pos (by simp [hidle]), List.foldlM_cons, hs]
        exact ih h

/-- A written path that leads somewhere leads where the path does. -/
theorem follow_of_locate (h : fs.locate written = .ok pos) :
    fs.follow (Path.ofString written) = .ok pos := by
  unfold locate at h
  split at h
  · simp at h
  · simpa [follow, Path.ofString] using foldlM_filter_isIdle h

/-- What is known of a written path that leads somewhere, by its place. -/
theorem modified?_eq (h : fs.locate written = .ok pos) :
    fs.modified? written = .ok ((fs.at? (Path.ofString written)).bind Entry.time?) := by
  rw [modified?, h, at?, follow_of_locate h]
  cases pos with
  | inside parts =>
    simp only [bind, Except.bind]
    cases fs.entry? parts with
    | none => rfl
    | some e => cases e <;> rfl
  | above levels => rfl
  | top => rfl

/-- Files are the same if their bytes and times are. -/
instance : DecidableEq Entry
  | .directory, .directory => isTrue rfl
  | .directory, .file .. => isFalse Entry.noConfusion
  | .file .., .directory => isFalse Entry.noConfusion
  | .file content modified, .file content' modified' =>
    decidable_of_iff (content.data = content'.data ∧ modified = modified')
      (by rw [← ByteArray.ext_iff, Entry.file.injEq])

/-- The text of an entry. -/
def Entry.text : Option Entry → Except FileError String
  | some (.file content _) =>
    match String.fromUTF8? content with
    | some text => .ok text
    | none => .error .notText
  | _ => .error .isDirectory

theorem read_eq (h : fs.locate written = .ok pos) :
    fs.read written = Entry.text (fs.at? (Path.ofString written)) := by
  rw [read, h, at?, follow_of_locate h]
  cases pos with
  | inside parts =>
    simp only [bind, Except.bind]
    cases fs.entry? parts with
    | none => rfl
    | some e =>
      cases e with
      | directory => rfl
      | file content modified => simp only [Entry.text]; cases String.fromUTF8? content <;> rfl
  | above levels => rfl
  | top => rfl

end FileSystem

end Stencil
