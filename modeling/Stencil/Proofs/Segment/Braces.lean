import Mathlib.Data.List.Infix
import Stencil.Proofs.Segment

/-!
# Segments are cut at outermost braces

Which characters of a text are braces around an expression, and which stand inside of one, depends
on how many braces are open before them (`depth`). A list of segments is the one that a text is cut
into exactly if its segments alternate and hold what is kept of the text, character by character
(`kept`). What an expression holds never closes a brace that was opened outside of it, and a printed
list is cut into itself again.
-/

namespace Stencil.Segment

variable {n k m : Nat} {c : Char} {cs t : List Char} {s : String} {segments : List Segment}

/-! ## How many braces are open -/

/-- How many braces are open behind a character. A `}` where none is open does not count. -/
def nest (n : Nat) (c : Char) : Nat := if c = '{' then n + 1 else if c = '}' then n - 1 else n

/-- How many braces are open behind a text. -/
def depth (cs : List Char) : Nat := cs.foldl nest 0

/-- What is open behind a text is closed by what comes next: there is a `}` for the last brace that
is open, and some brace is open up to there. -/
def Closes (before after : List Char) : Prop :=
  ∃ inside rest, after = inside ++ '}' :: rest ∧ depth (before ++ inside) = 1 ∧
    ∀ p, p <+: inside → 0 < depth (before ++ p)

/-- Whether a character behind a text is a brace around an expression. -/
def Delimits (before : List Char) (c : Char) : Prop :=
  c = '{' ∧ depth before = 0 ∨ c = '}' ∧ depth before = 1

instance (before : List Char) (c : Char) : Decidable (Delimits before c) :=
  inferInstanceAs (Decidable (_ ∨ _))

/-- What is kept of a character behind a text: nothing if it is a brace around an expression, else
the character, with whether a brace is open behind it. -/
def keep? (before : List Char) (c : Char) : Option (Bool × Char) :=
  if Delimits before c then none else some (decide (0 < depth (before ++ [c])), c)

/-- What is kept of a text, where every character is taken with the text before it. -/
def kept (cs : List Char) : List (Bool × Char) :=
  (cs.inits.zip cs).filterMap fun x => keep? x.1 x.2

/-- The characters of segments, each with whether it is in an expression. -/
def characters (segments : List Segment) : List (Bool × Char) :=
  segments.flatMap fun s => s.text.toList.map (s.isExpression, ·)

/-- If no brace is open in the end, what is open before is closed. -/
theorem closes_of_depth_eq {before after : List Char} (h : depth (before ++ after) = 0)
    (hb : 0 < depth before) : Closes before after := by
  induction after generalizing before with
  | nil =>
    rw [List.append_nil] at h
    omega
  | cons c after ih =>
    have hsplit : before ++ c :: after = before ++ [c] ++ after := by simp
    have hstep : depth (before ++ [c]) = nest (depth before) c := by simp [depth]
    by_cases hc : depth (before ++ [c]) = 0
    · have hclose : c = '}' ∧ depth before = 1 := by
        rw [hstep, nest] at hc
        split at hc
        · omega
        · split at hc
          · next hne => exact ⟨hne, by omega⟩
          · omega
      obtain ⟨rfl, hone⟩ := hclose
      refine ⟨[], after, rfl, by rwa [List.append_nil], fun p hp => ?_⟩
      rw [List.prefix_nil.1 hp, List.append_nil]
      exact hb
    · obtain ⟨inside, rest, rfl, hone, hopen⟩ := ih (hsplit ▸ h) (Nat.pos_of_ne_zero hc)
      refine ⟨c :: inside, rest, rfl, by simpa using hone, fun p hp => ?_⟩
      rcases List.prefix_cons_iff.1 hp with rfl | ⟨p, rfl, hinside⟩
      · rwa [List.append_nil]
      · simpa using hopen p hinside

/-- One step of scanning: a brace around an expression is dropped, and any other character is inside
an expression if a brace is open behind it. -/
theorem marks_cons (n : Nat) (c : Char) (cs : List Char) :
    marks n (c :: cs) =
      if c = '{' ∧ n = 0 ∨ c = '}' ∧ n = 1 then marks (nest n c) cs
      else (decide (0 < nest n c), c) :: marks (nest n c) cs := by
  rw [marks.eq_def]
  by_cases hopen : c = '{'
  · subst hopen
    by_cases hn : n = 0 <;> simp [nest, hn]
  by_cases hclose : c = '}'
  · subst hclose
    match n with
    | 0 => simp [nest]
    | 1 => simp [nest]
    | n + 2 => simp [nest]
  · simp [nest, hopen, hclose]

theorem marks_depth_cons (before : List Char) (c : Char) (cs : List Char) :
    marks (depth before) (c :: cs) =
      (keep? before c).toList ++ marks (depth (before ++ [c])) cs := by
  have hdepth : nest (depth before) c = depth (before ++ [c]) := by simp [depth]
  rw [marks_cons, hdepth, keep?]
  by_cases hd : Delimits before c
  · rw [if_pos hd]
    exact if_pos hd
  · rw [if_neg hd]
    exact if_neg hd

theorem marks_depth (before cs : List Char) :
    marks (depth before) cs =
      ((cs.inits.map (before ++ ·)).zip cs).filterMap fun x => keep? x.1 x.2 := by
  induction cs generalizing before with
  | nil => rfl
  | cons c cs ih =>
    have hinits : (cs.inits.map (c :: ·)).map (before ++ ·) =
        cs.inits.map (before ++ [c] ++ ·) := by
      rw [List.map_map]
      exact List.map_congr_left fun p _ => by simp
    rw [marks_depth_cons, ih, List.inits_cons, List.map_cons, hinits, List.append_nil,
      List.zip_cons_cons, List.filterMap_cons]
    cases keep? before c <;> rfl

/-- Scanning keeps what is not a brace around an expression. -/
theorem marks_eq_kept (cs : List Char) : marks 0 cs = kept cs := by
  have h := marks_depth [] cs
  simpa [kept, depth] using h

/-! ## Runs and characters -/

theorem flatMap_consRun (mark : Bool × Char) (rs : List (Bool × List Char)) :
    (consRun mark rs).flatMap (fun r => r.2.map (r.1, ·)) =
      mark :: rs.flatMap fun r => r.2.map (r.1, ·) := by
  cases rs with
  | nil => simp [consRun]
  | cons r rs =>
    obtain ⟨inside, cs⟩ := r
    rw [consRun]
    split
    · next h => simp [← h]
    · simp

/-- Nothing gets lost where neighbours are joined. -/
theorem flatMap_runs (marked : List (Bool × Char)) :
    (runs marked).flatMap (fun r => r.2.map (r.1, ·)) = marked := by
  induction marked with
  | nil => rfl
  | cons mark marked ih => rw [runs_cons, flatMap_consRun, ih]

theorem characters_parse (s : String) : characters (parse s) = marks 0 s.toList := by
  rw [characters, parse, List.flatMap_map]
  simpa using flatMap_runs (marks 0 s.toList)

/-- Characters of one kind are one run in front of a run of the other kind. -/
theorem foldr_consRun {b : Bool} (hcs : cs ≠ []) {rs : List (Bool × List Char)}
    (hrs : ∀ r ∈ rs.head?, b ≠ r.1) : (cs.map (b, ·)).foldr consRun rs = (b, cs) :: rs := by
  induction cs with
  | nil => exact absurd rfl hcs
  | cons c cs ih =>
    rw [List.map_cons, List.foldr_cons]
    cases cs with
    | nil =>
      cases rs with
      | nil => rfl
      | cons r rs => exact if_neg (hrs r rfl)
    | cons c' cs =>
      rw [ih (List.cons_ne_nil _ _)]
      exact if_pos rfl

/-- Segments that alternate are the runs of their characters. -/
theorem Alternate.runs_characters (h : Alternate segments) :
    runs (characters segments) = segments.map fun s => (s.isExpression, s.text.toList) := by
  induction segments with
  | nil => rfl
  | cons s segments ih =>
    have htext : s.text.toList ≠ [] := fun he =>
      h.text_ne s List.mem_cons_self (String.toList_eq_nil_iff.1 he)
    rw [characters, List.flatMap_cons, ← characters, runs, List.foldr_append, ← runs, ih h.of_cons,
      List.map_cons]
    refine foldr_consRun htext fun r hr => ?_
    cases segments with
    | nil => simp at hr
    | cons s' segments =>
      obtain rfl := Option.some.inj hr
      cases h.isChain with
      | cons_cons hne _ => exact hne

/-- A text is cut into the only segments that alternate and hold what is kept of it. -/
theorem parse_eq_iff :
    parse s = segments ↔ Alternate segments ∧ characters segments = marks 0 s.toList := by
  constructor
  · rintro rfl
    exact ⟨alternate_parse s, characters_parse s⟩
  · rintro ⟨h, hc⟩
    rw [parse, ← hc, h.runs_characters, List.map_map]
    refine (List.map_congr_left fun s _ => ?_).trans (List.map_id _)
    cases s <;> simp [ofRun, text, isExpression]

/-! ## What expressions hold -/

/-- With this many braces open before it, no part of the text from its front on closes more than are
open. -/
def Guarded (n : Nat) (cs : List Char) : Prop := ∀ p, p <+: cs → p.count '}' ≤ p.count '{' + n

/-- Braces in a text close each other. -/
structure Balanced (cs : List Char) : Prop where
  guarded : Guarded 0 cs
  count_eq : cs.count '{' = cs.count '}'

theorem count_cons_eq_add (b c : Char) (cs : List Char) :
    (c :: cs).count b = [c].count b + cs.count b := by
  rw [← List.count_append, List.singleton_append]

/-- One more character in front, and as many open braces more or less as it makes. -/
theorem guarded_cons (h : m + [c].count '}' = n + [c].count '{') :
    Guarded n (c :: cs) ↔ Guarded m cs := by
  constructor
  · intro hg p hp
    have := hg (c :: p) (List.cons_prefix_cons.2 ⟨rfl, hp⟩)
    rw [count_cons_eq_add '}', count_cons_eq_add '{'] at this
    omega
  · intro hg p hp
    cases p with
    | nil => simp
    | cons d p =>
      obtain ⟨rfl, hpcs⟩ := List.cons_prefix_cons.1 hp
      have := hg p hpcs
      rw [count_cons_eq_add '}', count_cons_eq_add '{']
      omega

theorem guarded_nil : Guarded n [] := by
  intro p hp
  simp [List.prefix_nil.1 hp]

/-- Where a brace is open and stays so, counting braces is what scanning does. -/
theorem nest_add_count (hc : ¬ (c = '}' ∧ n = 0)) :
    ∃ m, nest (n + 1) c = m + 1 ∧ m + [c].count '}' = n + [c].count '{' := by
  by_cases hopen : c = '{'
  · subst hopen
    exact ⟨n + 1, rfl, rfl⟩
  by_cases hclose : c = '}'
  · subst hclose
    obtain ⟨m, rfl⟩ := Nat.exists_eq_succ_of_ne_zero fun hn => hc ⟨rfl, hn⟩
    exact ⟨m, rfl, rfl⟩
  · exact ⟨n, by simp [nest, hopen, hclose], by simp [hopen, hclose]⟩

/-- What may be said of the runs of a text before which this many braces are open inside of an
expression: plain texts open nothing, and expressions close what is open, where only the last one
may leave some to be closed, if `k` are open behind it all. -/
def Nests (k : Nat) : (n : Nat) → List (Bool × List Char) → Prop
  | n, [] => n = 0 ∨ 0 < k
  | n, (false, t) :: rs => n = 0 ∧ '{' ∉ t ∧ Nests k 0 rs
  | n, (true, t) :: rs =>
    Guarded n t ∧ (t.count '}' = t.count '{' + n ∨ rs = [] ∧ 0 < k) ∧ Nests k 0 rs

/-- A character outside of expressions in front. -/
theorem Nests.cons_literal {rs : List (Bool × List Char)} (h : Nests k 0 rs) (hc : c ≠ '{') :
    Nests k 0 (consRun (false, c) rs) := by
  match rs with
  | [] => exact ⟨rfl, by simpa using hc.symm, .inl rfl⟩
  | (true, t) :: rs => exact ⟨rfl, by simpa using hc.symm, h⟩
  | (false, t) :: rs =>
    obtain ⟨-, ht, hrs⟩ := h
    exact ⟨rfl, by simpa [ht] using hc.symm, hrs⟩

/-- A character of an expression in front. -/
theorem Nests.cons_expression {rs : List (Bool × List Char)} (h : Nests k m rs)
    (hm : m + [c].count '}' = n + [c].count '{') : Nests k n (consRun (true, c) rs) := by
  match rs with
  | [] =>
    refine ⟨(guarded_cons hm).2 guarded_nil, ?_, .inl rfl⟩
    rcases h with rfl | hk
    · exact .inl (by simpa [Nat.add_comm] using hm)
    · exact .inr ⟨rfl, hk⟩
  | (false, t) :: rs =>
    obtain ⟨rfl, h⟩ := h
    exact ⟨(guarded_cons hm).2 guarded_nil, .inl (by simpa [Nat.add_comm] using hm), rfl, h⟩
  | (true, t) :: rs =>
    obtain ⟨hg, htotal, hrs⟩ := h
    refine ⟨(guarded_cons hm).2 hg, htotal.imp_left fun ht => ?_, hrs⟩
    show (c :: t).count '}' = (c :: t).count '{' + n
    rw [count_cons_eq_add '}', count_cons_eq_add '{']
    omega

/-- Scanning makes runs like these, whatever is open before the text. -/
theorem nests_runs (n : Nat) (cs : List Char) :
    Nests (cs.foldl nest n) (n - 1) (runs (marks n cs)) := by
  induction cs generalizing n with
  | nil =>
    rw [List.foldl_nil]
    rcases n with _ | n
    · exact .inl rfl
    · exact .inr (Nat.succ_pos n)
  | cons c cs ih =>
    have ih := ih (nest n c)
    rw [List.foldl_cons, marks_cons]
    split
    · next hd =>
      have : nest n c - 1 = n - 1 := by
        rcases hd with ⟨rfl, rfl⟩ | ⟨rfl, rfl⟩ <;> rfl
      rwa [← this]
    · next hd =>
      rw [not_or] at hd
      rw [runs_cons]
      cases n with
      | zero =>
        have hc : c ≠ '{' := fun hc => hd.1 ⟨hc, rfl⟩
        have hnest : nest 0 c = 0 := by simp [nest, hc]
        rw [hnest] at ih ⊢
        exact ih.cons_literal hc
      | succ n =>
        obtain ⟨m, hnest, hm⟩ := nest_add_count (c := c) (n := n) fun h => hd.2 (by simpa using h)
        rw [hnest] at ih ⊢
        exact ih.cons_expression hm

theorem Nests.of_append {before after : List (Bool × List Char)}
    (h : Nests k 0 (before ++ after)) : Nests k 0 after := by
  induction before with
  | nil => exact h
  | cons r before ih =>
    match r with
    | (true, _) => exact ih h.2.2
    | (false, _) => exact ih h.2.2

/-- Plain text does not open braces. -/
theorem notMem_of_literal_mem {text : String} (h : .literal text ∈ parse s) :
    '{' ∉ text.toList := by
  obtain ⟨r, hr, hrt⟩ := List.mem_map.1 h
  obtain ⟨before, after, hruns⟩ := List.append_of_mem hr
  have hn := nests_runs 0 s.toList
  rw [hruns] at hn
  match r with
  | (true, _) => simp [ofRun] at hrt
  | (false, t) =>
    obtain rfl := Segment.literal.inj hrt
    rw [String.toList_ofList]
    exact hn.of_append.2.1

/-- An expression closes what it opens and nothing else, and only at the end of a text may it leave
something to be closed. -/
theorem guarded_of_parse_eq {before after : List Segment} {text : String}
    (h : parse s = before ++ .expression text :: after) :
    Guarded 0 text.toList ∧
      (text.toList.count '{' = text.toList.count '}' ∨ after = [] ∧ 0 < depth s.toList) := by
  obtain ⟨rs, rest, hruns, rfl, hrest⟩ := List.map_eq_append_iff.1 h
  obtain ⟨r, rs', rfl, hr, rfl⟩ := List.map_eq_cons_iff.1 hrest
  have hn := nests_runs 0 s.toList
  rw [hruns] at hn
  match r with
  | (false, _) => simp [ofRun] at hr
  | (true, t) =>
    obtain rfl := Segment.expression.inj hr
    rw [String.toList_ofList]
    obtain ⟨hg, htotal, -⟩ := hn.of_append
    refine ⟨hg, htotal.imp Eq.symm fun ⟨hnil, hk⟩ => ⟨?_, hk⟩⟩
    rw [hnil, List.map_nil]

/-! ## Printing -/

/-- Plain texts that open nothing and expressions that close what they open. -/
structure Printable (segments : List Segment) : Prop where
  literal : ∀ t, .literal t ∈ segments → '{' ∉ t.toList
  expression : ∀ t, .expression t ∈ segments → Balanced t.toList

/-- What segments are cut from where a last expression is not closed. -/
def printOpen (segments : List Segment) : String :=
  match segments.getLast? with
  | some (.expression t) => print segments.dropLast ++ "\x7b" ++ t
  | _ => print segments

theorem marks_literal (h : '{' ∉ t) : marks 0 (t ++ cs) = t.map (false, ·) ++ marks 0 cs := by
  induction t with
  | nil => rfl
  | cons c t ih =>
    rw [List.mem_cons, not_or] at h
    have hnest : nest 0 c = 0 := by simp [nest, Ne.symm h.1]
    rw [List.cons_append, marks_cons, if_neg (by simp [Ne.symm h.1]), hnest, ih h.2]
    rfl

theorem marks_guarded (h : Guarded n t) :
    marks (n + 1) (t ++ cs) =
      t.map (true, ·) ++ marks (n + t.count '{' - t.count '}' + 1) cs := by
  induction t generalizing n with
  | nil => rfl
  | cons c t ih =>
    have hfront := h [c] ((List.cons_prefix_cons).2 ⟨rfl, List.nil_prefix⟩)
    have hc : ¬ (c = '}' ∧ n = 0) := by
      rintro ⟨rfl, rfl⟩
      simp at hfront
    obtain ⟨m, hnest, hm⟩ := nest_add_count hc
    have hrest : n + (c :: t).count '{' - (c :: t).count '}' =
        m + t.count '{' - t.count '}' := by
      rw [count_cons_eq_add '{', count_cons_eq_add '}']
      omega
    rw [List.cons_append, marks_cons, if_neg (by simpa using hc), hnest,
      ih ((guarded_cons hm).1 h), hrest]
    simp

theorem marks_expression (h : Balanced t) :
    marks 0 ('{' :: (t ++ '}' :: cs)) = t.map (true, ·) ++ marks 0 cs := by
  have hzero : 0 + t.count '{' - t.count '}' = 0 := by
    rw [h.count_eq]
    omega
  rw [marks_cons, if_pos (.inl ⟨rfl, rfl⟩)]
  refine (marks_guarded h.guarded).trans ?_
  rw [hzero, marks_cons, if_pos (.inr ⟨rfl, rfl⟩)]
  rfl

/-- Printed segments are scanned into their characters, whatever follows them. -/
theorem Printable.marks_print (h : Printable segments) (cs : List Char) :
    marks 0 ((print segments).toList ++ cs) = characters segments ++ marks 0 cs := by
  induction segments with
  | nil => simp [print, characters]
  | cons s segments ih =>
    have ih := ih ⟨fun t ht => h.literal t (List.mem_cons_of_mem s ht),
      fun t ht => h.expression t (List.mem_cons_of_mem s ht)⟩
    have hprint : (print (s :: segments)).toList ++ cs =
        (print [s]).toList ++ ((print segments).toList ++ cs) := by
      simp [print, String.join_cons]
    rw [hprint, characters, List.flatMap_cons, ← characters, List.append_assoc, ← ih]
    cases s with
    | literal t =>
      have hlist : (print [.literal t]).toList = t.toList := by simp [print]
      rw [hlist]
      exact marks_literal (h.literal t List.mem_cons_self)
    | expression t =>
      have hlist : (print [.expression t]).toList = '{' :: (t.toList ++ ['}']) := by simp [print]
      rw [hlist, List.cons_append, List.append_assoc, List.singleton_append]
      exact marks_expression (h.expression t List.mem_cons_self)

theorem parse_print (h : Alternate segments) (hp : Printable segments) :
    parse (print segments) = segments :=
  parse_eq_iff.2 ⟨h, by simpa [marks] using (hp.marks_print []).symm⟩

/-- An expression at the end need not be closed, and need not close all that it opens. -/
theorem parse_printOpen {last : Segment} (h : Alternate (segments ++ [last]))
    (hp : Printable segments) (hliteral : ∀ t, last = .literal t → '{' ∉ t.toList)
    (hexpression : ∀ t, last = .expression t → Guarded 0 t.toList) :
    parse (printOpen (segments ++ [last])) = segments ++ [last] := by
  have hcharacters : characters (segments ++ [last]) =
      characters segments ++ last.text.toList.map (last.isExpression, ·) := by
    simp [characters]
  refine parse_eq_iff.2 ⟨h, ?_⟩
  rw [hcharacters, printOpen, List.getLast?_concat]
  cases last with
  | literal t =>
    have hprint : (print (segments ++ [.literal t])).toList =
        (print segments).toList ++ (t.toList ++ []) := by
      simp [print, String.join_append]
    simp only [hprint]
    rw [hp.marks_print, marks_literal (hliteral t rfl)]
    simp [marks, text, isExpression]
  | expression t =>
    have hprint : (print segments ++ "\x7b" ++ t).toList =
        (print segments).toList ++ '{' :: (t.toList ++ []) := by
      simp
    simp only [List.dropLast_concat, hprint]
    rw [hp.marks_print, marks_cons, if_pos (.inl ⟨rfl, rfl⟩)]
    refine congrArg _ ((marks_guarded (hexpression t rfl)).trans ?_).symm
    simp [marks, text, isExpression]

/-- All but the last segment of a text can be printed as they are. -/
theorem printable_of_parse_eq {last : Segment} (h : parse s = segments ++ [last]) :
    Printable segments where
  literal t ht := notMem_of_literal_mem (h ▸ List.mem_append_left _ ht)
  expression t ht := by
    obtain ⟨before, after, rfl⟩ := List.append_of_mem ht
    rw [List.append_assoc, List.cons_append] at h
    obtain ⟨hg, htotal⟩ := guarded_of_parse_eq h
    exact ⟨hg, htotal.resolve_right fun hlast => by simp at hlast⟩

/-- If no brace is open behind a text, all of its segments can be printed as they are. -/
theorem printable_parse (h : depth s.toList = 0) : Printable (parse s) where
  literal t ht := notMem_of_literal_mem ht
  expression t ht := by
    obtain ⟨before, after, hparse⟩ := List.append_of_mem ht
    obtain ⟨hg, htotal⟩ := guarded_of_parse_eq hparse
    exact ⟨hg, htotal.resolve_right fun hopen => by omega⟩

/-- Printing without a brace behind a last expression is good for all segments of a text. -/
theorem parse_printOpen_parse (s : String) : parse (printOpen (parse s)) = parse s := by
  rcases List.eq_nil_or_concat' (parse s) with h | ⟨segments, last, h⟩
  · rw [h]
    exact parse_print ⟨.nil, by simp⟩ ⟨by simp, by simp⟩
  · have halternate := alternate_parse s
    rw [h] at halternate ⊢
    refine parse_printOpen halternate (printable_of_parse_eq h) ?_ ?_
    · rintro t rfl
      exact notMem_of_literal_mem (h ▸ List.mem_append_right _ List.mem_cons_self)
    · rintro t rfl
      exact (guarded_of_parse_eq h).1

/-- The segments of a text are the only ones that are not empty, alternate and hold character by
character what is kept of the text. Plain texts open no brace, and expressions close what they open,
no more and no less, but that the last segment may leave braces open if the text does. Whatever
segments alternate and are like this are what their printed form is cut into; and what a text is cut
into is cut into the same again when it is printed, where a brace is left out behind an expression
that the text does not close. -/
theorem parse_cuts_at_braces (s : String) :
    (∀ segments, parse s = segments ↔
        Alternate segments ∧ characters segments = kept s.toList) ∧
      (∀ t, .literal t ∈ parse s → '{' ∉ t.toList) ∧
      (∀ before t after, parse s = before ++ .expression t :: after →
        Guarded 0 t.toList ∧
          (t.toList.count '{' = t.toList.count '}' ∨ after = [] ∧ 0 < depth s.toList)) ∧
      (∀ segments, Alternate segments → Printable segments → parse (print segments) = segments) ∧
      parse (printOpen (parse s)) = parse s ∧
      (depth s.toList = 0 → parse (print (parse s)) = parse s) := by
  refine ⟨fun segments => ?_, fun t ht => ?_, fun before t after h => ?_,
    fun segments => parse_print, parse_printOpen_parse s, fun h => ?_⟩
  · rw [← marks_eq_kept]
    exact parse_eq_iff
  · exact notMem_of_literal_mem ht
  · exact guarded_of_parse_eq h
  · exact parse_print (alternate_parse s) (printable_parse h)

/-- A plain text may close what nobody opened, and an expression may hold braces of its own. -/
theorem parse_cuts_at_braces_of_nested :
    Alternate [literal "a\x7d", expression " {1} ", literal "b"] ∧
      Printable [literal "a\x7d", expression " {1} ", literal "b"] ∧
      parse "a\x7d\x7b \x7b1\x7d \x7db" = [literal "a\x7d", expression " {1} ", literal "b"] := by
  have h : Alternate [literal "a\x7d", expression " {1} ", literal "b"] :=
    ⟨by simp [isExpression], by simp [text]⟩
  have hguarded : ∀ p ∈ " {1} ".toList.inits, p.count '}' ≤ p.count '{' + 0 := by decide
  have hbalanced : Balanced " {1} ".toList :=
    ⟨fun p hp => hguarded p ((List.mem_inits ..).2 hp), by decide⟩
  have hp : Printable [literal "a\x7d", expression " {1} ", literal "b"] :=
    ⟨by simp, by simpa using hbalanced⟩
  exact ⟨h, hp, (parse_cuts_at_braces "").2.2.2.1 _ h hp⟩

/-- Nothing but braces is kept of nothing, and an expression that is not closed goes to the end. -/
example : parse "\x7b\x7d" = [] ∧ parse "x\x7ba\x7bb" = [.literal "x", .expression "a\x7bb"] := by cbv

end Stencil.Segment
