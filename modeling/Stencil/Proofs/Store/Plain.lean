import Mathlib.Data.List.Induction
import Stencil.Proofs.Store.Answer

/-!
# Plain paths

Every place has one plain path, which is the canonical form of all that leads there
(`canonical_eq`). A plain path is read as it is written (`Path.IsPlain.ofString_toString`), leads
back to its place (`Known.locate_toString_path`) and, below the working directory, to no other one
(`eq_of_follow`). So a name in a directory finds the document of its file, however the name and the
directory are written (`Store.exists_resolveIn`).
-/

namespace Stencil

namespace Path

variable {p : Path} {parts : List String} {part written : String}

/-- A path that is written with nothing but its parts. -/
def IsPlain (p : Path) : Prop :=
  ∀ part ∈ p.parts, '/' ∉ part.toList ∧ '\x00' ∉ part.toList ∧ isIdle part = false

theorem notMem_of_mem_splitOn {c : Char} {cs l : List Char} (h : l ∈ cs.splitOn c) :
    c ∉ l ∧ l ⊆ cs := by
  induction cs generalizing l with
  | nil => simp_all
  | cons d cs ih =>
    rw [List.splitOn_cons_eq_if_modifyHead] at h
    obtain ⟨first, others, hs⟩ := List.exists_cons_of_ne_nil (List.splitOn_ne_nil c cs)
    rw [hs] at h ih
    split at h
    · rcases List.mem_cons.1 h with rfl | h
      · simp
      · exact ⟨(ih h).1, List.subset_cons_of_subset d (ih h).2⟩
    · next hd =>
      have hne : c ≠ d := fun hc => hd (by simp [hc])
      rcases List.mem_cons.1 h with rfl | h
      · obtain ⟨hc, hsub⟩ := ih List.mem_cons_self
        exact ⟨List.not_mem_cons_of_ne_of_not_mem hne hc, List.cons_subset_cons d hsub⟩
      · obtain ⟨hc, hsub⟩ := ih (List.mem_cons_of_mem _ h)
        exact ⟨hc, List.subset_cons_of_subset d hsub⟩

/-- The parts between slashes hold no slash and nothing that is not written. -/
theorem notMem_of_mem_split (h : part ∈ split written) :
    '/' ∉ part.toList ∧ part.toList ⊆ written.toList := by
  obtain ⟨l, hl, rfl⟩ := List.mem_map.1 h
  simpa using notMem_of_mem_splitOn hl

theorem split_slash (written : String) : split ("/" ++ written) = "" :: split written := by
  simp [split, List.splitOn_cons_eq_if_modifyHead]

/-- Parts without slashes are what they are written as together. -/
theorem split_intercalate (h : ∀ part ∈ parts, '/' ∉ part.toList) (hne : parts ≠ []) :
    split ("/".intercalate parts) = parts := by
  have hlist : ("/".intercalate parts).toList = ['/'].intercalate (parts.map String.toList) := by
    rw [String.toList_intercalate]
    rfl
  rw [split, hlist, List.splitOn_intercalate '/' (by simpa using h) (by simpa using hne),
    List.map_map]
  exact List.map_id'' (fun _ => String.ofList_toList) parts

/-- A relative plain path does not start with a slash. -/
theorem head?_intercalate (h : ∀ part ∈ parts, '/' ∉ part.toList ∧ part ≠ "") :
    ("/".intercalate parts).toList.head? ≠ some '/' := by
  cases parts with
  | nil => simp
  | cons part parts =>
    obtain ⟨hslash, hne⟩ := h part List.mem_cons_self
    have hpart : part.toList ≠ [] := by simpa using hne
    obtain ⟨c, cs, hcs⟩ := List.exists_cons_of_ne_nil hpart
    have hc : c ≠ '/' := fun hc => hslash (by simp [hcs, hc])
    cases parts <;> simp [String.toList_intercalate, List.intercalate, hcs, hc]

theorem IsPlain.ne_empty (h : p.IsPlain) (hp : part ∈ p.parts) : part ≠ "" := by
  rintro rfl
  simpa [isIdle] using h "" hp

theorem IsPlain.notMem_slash (h : p.IsPlain) : ∀ part ∈ p.parts, '/' ∉ part.toList :=
  fun part hp => (h part hp).1

/-- What stands between the slashes of a written plain path, if there are any. -/
theorem IsPlain.split_toString (h : p.IsPlain) :
    split p.toString =
      (if p.absolute then [""] else []) ++ if p.parts = [] then [""] else p.parts := by
  have hparts : split ("/".intercalate p.parts) = if p.parts = [] then [""] else p.parts := by
    split
    · next hp =>
      rw [hp]
      rfl
    · next hp => exact split_intercalate h.notMem_slash hp
  rw [toString]
  split
  · rw [split_slash, hparts]
    rfl
  · rw [String.empty_append, hparts]
    rfl

theorem IsPlain.head?_toString (h : p.IsPlain) :
    p.toString.toList.head? = some '/' ↔ p.absolute = true := by
  rw [toString]
  split
  · next ha => simp [ha]
  · next ha =>
    have hhead := head?_intercalate fun part hp => ⟨(h part hp).1, h.ne_empty hp⟩
    simpa [ha] using hhead

/-- A plain path is read as it is written. -/
theorem IsPlain.ofString_toString (h : p.IsPlain) : ofString p.toString = p := by
  have habsolute : decide (p.toString.toList.head? = some '/') = p.absolute := by
    rw [Bool.eq_iff_iff, decide_eq_true_iff]
    exact h.head?_toString
  have hidle : (if p.absolute then [""] else []).filter (fun part => !isIdle part) = [] := by
    split <;> rfl
  have hparts : (if p.parts = [] then [""] else p.parts).filter (fun part => !isIdle part) =
      p.parts := by
    split
    · next hp =>
      rw [hp]
      rfl
    · exact List.filter_eq_self.2 fun part hp => by simp [(h part hp).2.2]
  rw [ofString, habsolute, h.split_toString, List.filter_append, hidle, List.nil_append, hparts]

theorem notMem_intercalate {c : Char} (hc : c ≠ '/') (h : ∀ part ∈ parts, c ∉ part.toList) :
    c ∉ ("/".intercalate parts).toList := by
  rw [String.toList_intercalate]
  change c ∉ ['/'].intercalate _
  induction parts with
  | nil => simp
  | cons part parts ih =>
    have hpart := h part List.mem_cons_self
    have hrest := ih fun part hp => h part (List.mem_cons_of_mem _ hp)
    cases parts with
    | nil => simpa using hpart
    | cons next parts =>
      rw [List.map_cons, List.map_cons, List.intercalate_cons_cons, ← List.map_cons]
      simp only [List.mem_append, List.mem_singleton, not_or]
      exact ⟨⟨hpart, hc⟩, hrest⟩

theorem IsPlain.notMem_null (h : p.IsPlain) : '\x00' ∉ p.toString.toList := by
  have hparts := notMem_intercalate (c := '\x00') (by decide) fun part hp => (h part hp).2.1
  rw [toString, String.toList_append, List.mem_append, not_or]
  exact ⟨by split <;> simp, hparts⟩

end Path

namespace FileSystem

variable {fs : FileSystem} {pos pos' : Position} {p : Path} {parts : List String}
  {part written : String}

/-- The plain path of a place. -/
def Position.path : Position → Path
  | inside parts => ⟨false, parts⟩
  | above levels => ⟨false, List.replicate levels ".."⟩
  | top => ⟨true, []⟩

theorem canonical_eq (fs : FileSystem) (written : String) :
    fs.canonical written = (fs.locate written).map Position.path := by
  rw [canonical]
  cases fs.locate written with
  | error e => rfl
  | ok pos => cases pos <;> rfl

/-- A plain path leads, as it is written, where it leads as a path. -/
theorem locate_toString (h : p.IsPlain) : fs.locate p.toString = fs.follow p := by
  have hstart : fs.step (if p.absolute then .top else .inside []) "" =
      .ok (if p.absolute then .top else .inside []) := by
    cases p.absolute <;> rfl
  have hnull : p.toString.toList.contains '\x00' = false := by simpa using h.notMem_null
  simp only [locate, hnull, h.head?_toString, h.split_toString, follow, List.foldlM_append,
    Bool.false_eq_true, if_false]
  generalize (if p.absolute then Position.top else .inside []) = start at hstart ⊢
  have hempty : [""].foldlM fs.step start = .ok start := by
    rw [List.foldlM_cons, hstart]
    rfl
  have hbefore : (if p.absolute then [""] else []).foldlM fs.step start = .ok start := by
    split
    · exact hempty
    · rfl
  rw [hbefore]
  change (if p.parts = [] then [""] else p.parts).foldlM fs.step start = _
  split
  · next hp =>
    rw [hp]
    exact hempty
  · rfl

/-! ## Places that are known -/

/-- A part that an entry may have for its name. -/
def IsName (part : String) : Prop :=
  '/' ∉ part.toList ∧ '\x00' ∉ part.toList ∧ Path.isIdle part = false ∧ part ≠ ".."

/-- A name leads from a directory to what is in it. -/
theorem step_of_isName (h : IsName part) (hs : fs.step pos part = .ok pos') :
    ∃ parts, pos = .inside parts ∧ pos' = .inside (parts ++ [part]) := by
  obtain ⟨-, -, hidle, hup⟩ := h
  have hidle' : ¬(part = "" ∨ part = ".") := by simpa [Path.isIdle] using hidle
  cases pos with
  | inside parts =>
    refine ⟨parts, rfl, ?_⟩
    simp only [step, hidle', hup, if_false] at hs
    split at hs
    · split at hs
      · simp at hs
      · split at hs
        · exact (Except.ok.inj hs).symm
        · simp at hs
    · simp at hs
  | above levels =>
    simp only [step, hidle', hup, if_false] at hs
    split at hs <;> simp at hs
  | top =>
    have hidle'' : ¬(part = "" ∨ part = "." ∨ part = "..") := by tauto
    simp only [step, hidle'', if_false] at hs
    split at hs <;> simp at hs

/-- The parts of a place below the working directory are names. -/
def Position.IsNamed : Position → Prop
  | inside parts => ∀ part ∈ parts, IsName part
  | above _ | top => True

theorem follow_append_singleton (fs : FileSystem) (parts : List String) (part : String) :
    fs.follow ⟨false, parts ++ [part]⟩ = fs.follow ⟨false, parts⟩ >>= (fs.step · part) := by
  simp [follow]

/-- What leads somewhere and further leads somewhere at first. -/
theorem exists_follow (hf : fs.follow ⟨false, parts ++ [part]⟩ = .ok pos) :
    ∃ pos', fs.follow ⟨false, parts⟩ = .ok pos' ∧ fs.step pos' part = .ok pos := by
  rw [follow_append_singleton] at hf
  cases hparts : fs.follow ⟨false, parts⟩ with
  | error e => simp [hparts, bind, Except.bind] at hf
  | ok pos' => exact ⟨pos', rfl, by rwa [hparts] at hf⟩

/-- A path of names leads to the place of these names, if it leads anywhere. -/
theorem eq_of_follow (h : ∀ part ∈ parts, IsName part) (hf : fs.follow ⟨false, parts⟩ = .ok pos) :
    pos = .inside parts := by
  induction parts using List.reverseRecOn generalizing pos with
  | nil => exact (Except.ok.inj hf).symm
  | append_singleton parts part ih =>
    obtain ⟨pos', hparts, hstep⟩ := exists_follow hf
    have hpos' := ih (fun part hp => h part (List.mem_append_left _ hp)) hparts
    obtain ⟨parts', rfl, rfl⟩ := step_of_isName (h part (by simp)) hstep
    rw [Position.inside.inj hpos']

/-- A place that a path can lead to. -/
structure Known (fs : FileSystem) (pos : Position) : Prop where
  isNamed : pos.IsNamed
  follow_eq : fs.follow pos.path = .ok pos

namespace Known

theorem isPlain (h : Known fs pos) : pos.path.IsPlain := by
  intro part hp
  cases pos with
  | inside parts =>
    obtain ⟨hslash, hnull, hidle, -⟩ := h.isNamed part hp
    exact ⟨hslash, hnull, hidle⟩
  | above levels =>
    obtain rfl := List.eq_of_mem_replicate hp
    decide
  | top => simp [Position.path] at hp

/-- What leads to an entry leads through the directory it is in. -/
theorem parent (h : Known fs (.inside (parts ++ [part]))) : Known fs (.inside parts) := by
  have hnamed : ∀ part ∈ parts, IsName part := fun part hp =>
    h.isNamed part (List.mem_append_left _ hp)
  obtain ⟨pos', hparts, -⟩ := exists_follow h.follow_eq
  obtain rfl := eq_of_follow hnamed hparts
  exact ⟨hnamed, hparts⟩

theorem up (h : Known fs pos) (hs : fs.step pos ".." = .ok pos') : Known fs pos' := by
  cases pos with
  | inside parts =>
    simp only [FileSystem.step] at hs
    split at hs
    · simp only [String.reduceEq, or_self, if_false, if_true] at hs
      rcases parts.eq_nil_or_concat with rfl | ⟨parts, part, rfl⟩
      · obtain rfl : Position.above 1 = pos' := by simpa using hs
        exact ⟨trivial, rfl⟩
      · obtain rfl : Position.inside parts = pos' := by simpa using hs
        exact parent (List.concat_eq_append ▸ h)
    · simp at hs
  | above levels =>
    obtain rfl : Position.above (levels + 1) = pos' := by simpa [FileSystem.step] using hs
    have hlevels : fs.follow ⟨false, List.replicate levels ".."⟩ = .ok (.above levels) :=
      h.follow_eq
    refine ⟨trivial, ?_⟩
    rw [Position.path, List.replicate_succ', follow_append_singleton, hlevels]
    rfl
  | top =>
    obtain rfl : Position.top = pos' := by simpa [FileSystem.step] using hs
    exact h

/-- From one place to the next. -/
theorem step (h : Known fs pos) (hslash : '/' ∉ part.toList) (hnull : '\x00' ∉ part.toList)
    (hs : fs.step pos part = .ok pos') : Known fs pos' := by
  by_cases hidle : Path.isIdle part = true
  · rwa [step_of_isIdle hidle hs]
  by_cases hup : part = ".."
  · exact h.up (hup ▸ hs)
  have hname : IsName part := ⟨hslash, hnull, by simpa using hidle, hup⟩
  obtain ⟨parts, rfl, rfl⟩ := step_of_isName hname hs
  have hparts : fs.follow ⟨false, parts⟩ = .ok (.inside parts) := h.follow_eq
  refine ⟨List.forall_mem_append.2 ⟨h.isNamed, by simpa using hname⟩, ?_⟩
  rw [Position.path, follow_append_singleton, hparts]
  exact hs

/-- However many parts are followed. -/
theorem foldlM (h : Known fs pos)
    (hparts : ∀ part ∈ parts, '/' ∉ part.toList ∧ '\x00' ∉ part.toList)
    (hf : parts.foldlM fs.step pos = .ok pos') : Known fs pos' := by
  induction parts generalizing pos with
  | nil => exact Except.ok.inj hf ▸ h
  | cons part parts ih =>
    rw [List.foldlM_cons] at hf
    cases hs : fs.step pos part with
    | error e => simp [hs, bind, Except.bind] at hf
    | ok next =>
      rw [hs] at hf
      obtain ⟨hslash, hnull⟩ := hparts part List.mem_cons_self
      exact ih (h.step hslash hnull hs) (fun part hp => hparts part (List.mem_cons_of_mem _ hp)) hf

/-- What a written path leads to is a place that is known. -/
theorem of_locate (h : fs.locate written = .ok pos) : Known fs pos := by
  unfold locate at h
  split at h
  · simp at h
  · next hnull =>
    have hstart : Known fs (if written.toList.head? = some '/' then .top else .inside []) := by
      split
      · exact ⟨trivial, rfl⟩
      · exact ⟨by simp [Position.IsNamed], rfl⟩
    refine hstart.foldlM (fun part hp => ?_) h
    obtain ⟨hslash, hsub⟩ := Path.notMem_of_mem_split hp
    exact ⟨hslash, fun hp => hnull (by simpa using hsub hp)⟩

/-- The plain path of a place leads there, as it is written. -/
theorem locate_toString_path (h : Known fs pos) : fs.locate pos.path.toString = .ok pos := by
  rw [locate_toString h.isPlain, h.follow_eq]

/-- Only below the working directory are there entries. -/
theorem exists_eq_inside (h : Known fs pos) {e : Entry} (he : fs.at? pos.path = some e) :
    ∃ parts, pos = .inside parts := by
  rw [at?, h.follow_eq] at he
  cases pos with
  | inside parts => exact ⟨parts, rfl⟩
  | above levels => simp at he
  | top => simp at he

end Known

end FileSystem

namespace Store

variable {s : Store}

/-- Looking for a name fails, or loads the plain path of where the name leads. -/
theorem resolveIn_cases (s : Store) (directory name : String) :
    (∃ e, s.resolveIn directory name = (s, .error e)) ∨
    ∃ pos, s.files.locate (Path.join directory (name ++ ending)) = .ok pos ∧
      s.resolveIn directory name =
        ((s.load pos.path.toString).1,
          (s.load pos.path.toString).2.map fun loaded => (pos.path.toString, loaded)) := by
  rw [resolveIn_eq, FileSystem.canonical_eq]
  split
  · exact .inl ⟨_, rfl⟩
  · cases s.files.locate (Path.join directory (name ++ ending)) with
    | error e => exact .inl ⟨_, rfl⟩
    | ok pos => exact .inr ⟨pos, rfl, rfl⟩

/-- What a path holds is loaded, if what is kept for it is no other document. -/
theorem exists_load {written : String} {pos : FileSystem.Position} {d : Document}
    (h : s.files.locate written = .ok pos) (hd : s.filed written = .ok d)
    (hkept : ∀ loaded, s.fresh? (.ofString written) (s.time? (.ofString written)) = some loaded →
      loaded.document = d) :
    ∃ s' loaded, s.load written = (s', .ok loaded) ∧ loaded.document = d := by
  rw [load_of_locate h, hd]
  cases hf : s.fresh? (.ofString written) (s.time? (.ofString written)) with
  | some loaded => exact ⟨s, loaded, rfl, hkept loaded hf⟩
  | none => exact ⟨_, _, rfl, rfl⟩

/-- Every name that leads to a file finds the document of the file, if what is kept for it is no
other document. -/
theorem exists_resolveIn {directory name : String} {parts : List String} {content : ByteArray}
    {modified : Int} {text : String} {d : Document} (hname : Text.trimmed name ≠ "")
    (hpath : s.files.locate (Path.join directory (name ++ ending)) = .ok (.inside parts))
    (hfile : s.files.entry? parts = some (.file content modified))
    (htext : String.fromUTF8? content = some text)
    (hparse : Markup.parse (Text.trimmed text) = .ok d)
    (hkept : ∀ loaded, s.fresh? ⟨false, parts⟩ (some modified) = some loaded →
      loaded.document = d) :
    ∃ s' loaded,
      s.resolveIn directory name = (s', .ok (Path.toString ⟨false, parts⟩, loaded)) ∧
        loaded.document = d := by
  have hknown := FileSystem.Known.of_locate hpath
  have hfollow : s.files.follow ⟨false, parts⟩ = .ok (.inside parts) := hknown.follow_eq
  have hat : s.files.at? ⟨false, parts⟩ = some (.file content modified) := by
    rw [FileSystem.at?, hfollow]
    exact hfile
  have htime : s.time? ⟨false, parts⟩ = some modified := by
    rw [time?, hat]
    rfl
  have hread : Path.ofString (Path.toString ⟨false, parts⟩) = ⟨false, parts⟩ :=
    hknown.isPlain.ofString_toString
  obtain ⟨s', loaded, hload, hd⟩ := exists_load (s := s) hknown.locate_toString_path
    (filed_eq_ok.2 ⟨content, modified, text, by rw [← hat, ← hread]; rfl, htext, hparse⟩)
    fun loaded hl => hkept loaded (by rw [← htime, ← hread]; exact hl)
  refine ⟨s', loaded, ?_, hd⟩
  rw [resolveIn_eq, if_neg hname, FileSystem.canonical_eq, hpath]
  change (_, Except.map _ _) = _
  rw [hload]
  rfl

end Store

end Stencil
