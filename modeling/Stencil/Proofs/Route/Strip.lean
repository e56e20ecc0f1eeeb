import Mathlib.Data.List.DropRight
import Stencil.Proofs.Route.Address
import Stencil.Proofs.Segment.Braces

/-!
# Slashes at the end

Slashes at the end of a path do not count (`strip_append_slashes`). A template whose captures are
names does not end inside of an expression, because no name holds a slash. So slashes behind it are
plain text: they change none of its captures, and of what is filled in only the end
(`filled_append_slashes`).
-/

namespace Stencil

theorem Text.mem_trim {c : Char} {cs : List Char} (h : c ∈ cs) (hc : isBlank c = false) :
    c ∈ trim cs := by
  have hdrop : ∀ {l : List Char}, c ∈ l → c ∈ l.dropWhile isBlank := by
    intro l hl
    rw [← List.takeWhile_append_dropWhile (p := isBlank) (l := l), List.mem_append] at hl
    exact hl.resolve_left fun ht => by simp [List.mem_takeWhile_imp ht] at hc
  rw [trim, trimEnd, List.mem_reverse]
  exact hdrop (List.mem_reverse.2 (hdrop h))

/-- No name has a slash in it. -/
theorem Expr.IsName.slash_notMem {n : String} (h : IsName n) : '/' ∉ n.toList := by
  obtain ⟨c, cs, hn, hc, hcs⟩ := h.chars
  rw [hn]
  intro hm
  rcases List.mem_cons.1 hm with rfl | hm
  · exact absurd hc (by decide)
  · exact absurd (hcs _ hm) (by decide)

namespace Segment

variable {c : Char} {t : String} {segments : List Segment} {s : String → String}

theorem marks_append (n : Nat) (cs ds : List Char) :
    marks n (cs ++ ds) = marks n cs ++ marks (cs.foldl nest n) ds := by
  induction cs generalizing n with
  | nil => rfl
  | cons c cs ih =>
    rw [List.cons_append, marks_cons, marks_cons, ih, List.foldl_cons]
    split <;> rfl

/-- Segments with one more plain character behind them. -/
def snoc (c : Char) : List Segment → List Segment
  | [] => [.literal (.singleton c)]
  | [.literal t] => [.literal (t.push c)]
  | s :: segments => s :: snoc c segments

theorem characters_snoc : characters (snoc c segments) = characters segments ++ [(false, c)] := by
  fun_induction snoc c segments with
  | case1 => simp [characters, text, isExpression]
  | case2 => simp [characters, text, isExpression]
  | case3 s segments _ ih =>
    rw [characters, List.flatMap_cons, ← characters, ih, ← List.append_assoc]
    rfl

theorem isExpression_of_head?_snoc {s s' : Segment} (h : s' ∈ (snoc c (s :: segments)).head?) :
    s'.isExpression = s.isExpression := by
  match s, segments with
  | .literal _, [] | .literal _, _ :: _ | .expression _, [] | .expression _, _ :: _ =>
    obtain rfl := Option.some.inj h
    rfl

/-- Segments still alternate when a plain character is added at the end. -/
theorem Alternate.snoc (h : Alternate segments) : Alternate (snoc c segments) := by
  fun_induction Segment.snoc c segments with
  | case1 => exact ⟨.singleton _, by simp [text]⟩
  | case2 => exact ⟨.singleton _, by simp [text]⟩
  | case3 s segments hno ih =>
    have hrest := ih h.of_cons
    have hchain := List.isChain_cons.1 h.isChain
    refine ⟨List.isChain_cons.2 ⟨fun s' hs' => ?_, hrest.isChain⟩, ?_⟩
    · cases segments with
      | nil =>
        obtain rfl := Option.some.inj hs'
        cases s with
        | literal t => exact (hno t rfl rfl).elim
        | expression e => simp [isExpression]
      | cons s'' segments =>
        rw [isExpression_of_head?_snoc hs']
        exact hchain.1 s'' rfl
    · intro s' hs'
      rcases List.mem_cons.1 hs' with rfl | hs'
      · exact h.text_ne _ List.mem_cons_self
      · exact hrest.text_ne s' hs'

/-- A character that is added is said at the end. -/
theorem join_saying_snoc :
    String.join ((snoc c segments).map (saying s)) =
      String.join (segments.map (saying s)) ++ .singleton c := by
  fun_induction snoc c segments with
  | case1 => simp [saying]
  | case2 t => simp [saying]
  | case3 s segments _ ih => simp only [List.map_cons, String.join_cons, ih, String.append_assoc]

/-- A plain character that is added leaves the names of the captures as they are. -/
theorem names_snoc : names (snoc c segments) = names segments := by
  fun_induction snoc c segments with
  | case1 => rfl
  | case2 => rfl
  | case3 s segments _ ih =>
    cases s with
    | literal t => exact ih
    | expression e => exact congrArg (Text.trimmed e :: ·) ih

/-- A slash behind a text that does not end inside of an expression is plain. -/
theorem parse_append_slash (h : depth t.toList = 0) : parse (t ++ "/") = snoc '/' (parse t) := by
  refine parse_eq_iff.2 ⟨(alternate_parse t).snoc, ?_⟩
  rw [characters_snoc, characters_parse, String.toList_append, marks_append, ← depth, h]
  rfl

/-- A text that ends in a slash inside of an expression has an expression that is no name. -/
theorem depth_eq_zero_of_names (h : ∀ n ∈ names (parse (t ++ "/")), Expr.IsName n) :
    depth t.toList = 0 := by
  by_contra hdepth
  have hmem : (true, '/') ∈ characters (parse (t ++ "/")) := by
    have hmarks : marks (depth t.toList) ['/'] = [(true, '/')] := by
      simp [marks, Nat.pos_of_ne_zero hdepth]
    rw [characters_parse, String.toList_append, marks_append, ← depth,
      show "/".toList = ['/'] from rfl, hmarks]
    simp
  obtain ⟨s, hs, hslash⟩ := List.mem_flatMap.1 hmem
  obtain ⟨c, hc, hsc⟩ := List.mem_map.1 hslash
  obtain ⟨hexpr, rfl⟩ := Prod.mk.inj hsc
  have hname : Text.trimmed s.text ∈ names (parse (t ++ "/")) :=
    List.mem_map.2 ⟨s, List.mem_filter.2 ⟨hs, hexpr⟩, rfl⟩
  refine (h _ hname).slash_notMem ?_
  rw [Text.trimmed, String.toList_ofList]
  exact Text.mem_trim hc (by decide)

end Segment

namespace Route

variable {path : String} {n : Nat} {s : String → String}

/-! ## Paths -/

/-- This many slashes. -/
def slashes (n : Nat) : String := String.ofList (List.replicate n '/')

@[simp] theorem slashes_zero : slashes 0 = "" := rfl

theorem slashes_succ (n : Nat) : slashes (n + 1) = slashes n ++ "/" := by
  refine String.ext ?_
  simp [slashes, List.replicate_succ']

/-- Slashes that are added at the end of a path are stripped again. -/
theorem strip_append_slashes (path : String) (n : Nat) :
    strip (path ++ slashes n) = strip path := by
  have hdrop : ∀ cs : List Char,
      ((List.replicate n '/') ++ cs).dropWhile (· = '/') = cs.dropWhile (· = '/') := fun cs =>
    List.dropWhile_append_of_pos fun c hc => by simp [List.eq_of_mem_replicate hc]
  simp [strip, slashes, hdrop]

/-- A path is what is left of it with slashes behind it, unless it is made of slashes. -/
theorem exists_eq_strip_append (h : ∃ c ∈ path.toList, c ≠ '/') :
    ∃ n, path = strip path ++ slashes n := by
  have hslash : ∀ c ∈ path.toList.rtakeWhile (· = '/'), c = '/' := fun c hc => by
    simpa using List.mem_rtakeWhile_imp hc
  have hsplit :
      path.toList.rdropWhile (· = '/') ++ path.toList.rtakeWhile (· = '/') = path.toList :=
    List.rdropWhile_append_rtakeWhile
  refine ⟨(path.toList.rtakeWhile (· = '/')).length, String.ext ?_⟩
  have hne : (path.toList.reverse.dropWhile (· = '/')).reverse ≠ [] := by
    obtain ⟨c, hc, hcs⟩ := h
    simp only [ne_eq, List.reverse_eq_nil_iff, List.dropWhile_eq_nil_iff, not_forall]
    exact ⟨c, List.mem_reverse.2 hc, by simpa using hcs⟩
  rw [strip, if_neg hne, String.toList_append, String.toList_ofList, slashes, String.toList_ofList,
    ← List.eq_replicate_of_mem hslash]
  exact hsplit.symm

/-! ## Templates -/

namespace Template

/-- Slashes behind a template whose captures are names are no part of a capture. -/
theorem filled_append_slashes
    (h : ∀ k ∈ (ofString (path ++ slashes n)).names, Expr.IsName k) :
    (ofString (path ++ slashes n)).names = (ofString path).names ∧
      (ofString (path ++ slashes n)).filled ((ofString path).names.map s) =
        (ofString path).filled ((ofString path).names.map s) ++ slashes n := by
  induction n with
  | zero => simp
  | succ n ih =>
    rw [slashes_succ, ← String.append_assoc] at h ⊢
    have hparse := Segment.parse_append_slash (Segment.depth_eq_zero_of_names h)
    have hnames : (ofString (path ++ slashes n ++ "/")).names =
        (ofString (path ++ slashes n)).names := by
      rw [names, ofString, hparse, Segment.names_snoc]
      rfl
    obtain ⟨hnames', hfilled⟩ := ih (hnames ▸ h)
    refine ⟨hnames.trans hnames', ?_⟩
    rw [← String.append_assoc, ← hfilled, ← hnames', ← hnames,
      filled_map_names (Segment.alternate_parse _), hnames,
      filled_map_names (Segment.alternate_parse _), ofString, hparse, Segment.join_saying_snoc]
    rfl

/-- A template with captures that are names is the template without the slashes at its end, as far
as captures go. -/
theorem exists_filled_eq_strip (hc : (ofString path).captures ≠ [])
    (h : ∀ k ∈ (ofString path).names, Expr.IsName k) :
    (ofString path).names = (ofString (strip path)).names ∧
      ∃ n, (ofString path).filled ((ofString path).names.map s) =
        (ofString (strip path)).filled ((ofString path).names.map s) ++ slashes n := by
  have hne : ∃ c ∈ path.toList, c ≠ '/' := by
    by_contra hall
    push Not at hall
    have hpath : path = "" ++ slashes path.toList.length := String.ext <| by
      simpa [slashes] using List.eq_replicate_of_mem hall
    have hslashes : ∀ k ∈ (ofString ("" ++ slashes path.toList.length)).names, Expr.IsName k := by
      rwa [← hpath]
    have hnames := (filled_append_slashes (s := id) hslashes).1
    rw [← hpath, names_eq] at hnames
    exact hc (List.map_eq_nil_iff.1 hnames)
  obtain ⟨n, hn⟩ := exists_eq_strip_append hne
  have hslashes : ∀ k ∈ (ofString (strip path ++ slashes n)).names, Expr.IsName k := by
    rwa [← hn]
  obtain ⟨hnames, hfilled⟩ := filled_append_slashes (s := s) hslashes
  rw [← hn] at hnames hfilled
  rw [hnames]
  exact ⟨rfl, n, hfilled⟩

end Template

end Route

end Stencil
