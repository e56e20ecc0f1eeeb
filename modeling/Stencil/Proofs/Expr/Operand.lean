import Stencil.Proofs.Expr.Items

/-!
# Reading operands

Atoms, and accesses and calls behind them. What is in parentheses and brackets is read by the
readers of the nesting level below (`Nests`).
-/

namespace Stencil.Expr

open Stencil.Expr.Parser

variable {stop : Nat} {inner : Option Grammar} {below : Option Language} {L : Language}
  {target e : Expr} {ks : List Token.Kind} {t : Token} {ts us r : List Token}

/-- Tokens that spell something in brackets are an opening one, what is inside, and a closing one.
-/
theorem exists_of_words_eq_bracketed {k k' : Token.Kind} (h : words us = k :: ks ++ [k']) :
    ∃ p p' vs, us = ⟨k, p⟩ :: vs ++ [⟨k', p'⟩] ∧ words vs = ks := by
  obtain ⟨vs, ws, rfl, hv, hws⟩ := List.map_eq_append_iff.1 h
  obtain ⟨p, vs', rfl, hv'⟩ := exists_of_words_eq_cons hv
  obtain ⟨p', ws', rfl, hnil⟩ := exists_of_words_eq_cons hws
  obtain rfl := List.map_eq_nil_iff.1 hnil
  exact ⟨p, p', vs', rfl, hv'⟩

/-- The readers of a nesting level read its phrases. -/
structure Parser.Grammar.Reads (g : Grammar) (L : Language) : Prop where
  conditional : Expr.Reads 7 g.conditional L.conditional
  disjunction : Expr.Reads 6 g.disjunction L.disjunction
  negation : Expr.Reads 4 g.negation L.negation
  signed : Expr.Reads 1 g.signed L.signed
  begins : Begins opens L.conditional
  name : ∀ n, L.conditional [.name n] (.name n)

/-- There are readers for the level below if there is one. -/
inductive Nests : Option Grammar → Option Language → Prop
  | bottom : Nests none none
  | down {g : Grammar} {L : Language} (h : g.Reads L) : Nests (some g) (some L)

/-- Where the language goes one level deeper, the parser does too. -/
theorem Nests.of_language (h : Nests inner below) (hL : below = some L) :
    ∃ g, inner = some g ∧ g.Reads L := by
  cases h with
  | bottom => simp at hL
  | down h =>
    cases hL
    exact ⟨_, rfl, h⟩

/-- Where the parser goes one level deeper, the language does too. -/
theorem Nests.of_grammar {g : Grammar} (h : Nests inner below) (hg : inner = some g) :
    ∃ L, below = some L ∧ g.Reads L := by
  cases h with
  | bottom => simp at hg
  | down h =>
    cases hg
    exact ⟨_, rfl, h⟩

/-! ## Atoms -/

/-- Texts are joined as far as they go. -/
theorem moreText_spec (ts : List Token) :
    ∃ us more, ts = us ++ (moreText ts).2.1 ∧ words us = more.map .str ∧
      (moreText ts).1 = String.join more := by
  induction ts with
  | nil => exact ⟨[], [], rfl, rfl, rfl⟩
  | cons t ts ih =>
    obtain ⟨k, position⟩ := t
    cases k with
    | str s =>
      obtain ⟨us, more, hts, hw, hjoin⟩ := ih
      refine ⟨⟨.str s, position⟩ :: us, s :: more, ?_, ?_, ?_⟩
      · simpa [moreText] using hts
      · rw [words_cons, hw]
        rfl
      · simp [moreText, hjoin]
    | _ => exact ⟨[], [], rfl, rfl, rfl⟩

/-- Adjacent strings are taken together, up to the first token that is none. -/
theorem moreText_append {more : List String} (hw : words us = more.map .str) (hr : Stops 0 r) :
    (moreText (us ++ r)).1 = String.join more ∧ (moreText (us ++ r)).2.1 = r := by
  induction more generalizing us with
  | nil =>
    obtain rfl := List.map_eq_nil_iff.1 hw
    rcases r with _ | ⟨⟨k, position⟩, r⟩
    · exact ⟨rfl, rfl⟩
    · cases k with
      | str s => simp [Token.Kind.rank] at hr
      | _ => exact ⟨rfl, rfl⟩
  | cons s more ih =>
    obtain ⟨position, vs, rfl, hv⟩ := exists_of_words_eq_cons hw
    obtain ⟨hjoin, hrest⟩ := ih hv
    simp [moreText, hjoin, hrest]

/-- A single word is read as what it stands for. -/
theorem exists_of_yields_word {phrase : Phrase Expr} {e' : Expr} {h : ts.length < (t :: ts).length}
    (hp : phrase [t.kind] e') (he : Yields (.ok (e', (⟨ts, h⟩ : Rest (t :: ts)))) e r) :
    ∃ us, t :: ts = us ++ r ∧ phrase (words us) e := by
  obtain ⟨rfl, rfl⟩ := yields_ok.1 he
  exact ⟨[t], rfl, hp⟩

/-- An opening parenthesis needs a whole expression and a closing one. -/
theorem yields_parentheses {p : Nat} :
    Yields (atom stop inner (⟨.mark .leftParen, p⟩ :: ts)) e r ↔
      ∃ g, inner = some g ∧ ∃ e' r', Yields (g.conditional ts) e' r' ∧
        ∃ t s, r' = t :: s ∧ t.kind = .mark .rightParen ∧ e' = e ∧ s = r := by
  refine yields_enter.trans (exists_congr fun g => and_congr_right fun _ => ?_)
  exact yields_bind_iff fun _ _ _ => yields_expectMark fun _ _ => yields_ok

/-- An opening bracket needs the items of a list and a closing one. -/
theorem yields_brackets {p : Nat} :
    Yields (atom stop inner (⟨.mark .leftBracket, p⟩ :: ts)) e r ↔
      ∃ g, inner = some g ∧ ∃ es, Yields (listItems stop g.conditional ts) es r ∧ .list es = e := by
  refine yields_enter.trans (exists_congr fun g => and_congr_right fun _ => ?_)
  exact yields_bind_map Expr.list fun _ _ _ => ⟨_, rfl⟩

/-- The parser of atoms reads what the grammar calls an atom. -/
theorem reads_atom (hn : Nests inner below) : Reads 0 (atom stop inner) (Atom below) where
  sound {ts e r} h := by
    rcases ts with _ | ⟨⟨k, position⟩, ts⟩
    · exact absurd h not_yields_error
    · cases k with
      | int n => exact exists_of_yields_word (.int n) h
      | float x => exact exists_of_yields_word (.float x) h
      | str s =>
        obtain ⟨us, more, hts, hw, hjoin⟩ := moreText_spec ts
        obtain ⟨rfl, rfl⟩ := yields_ok.1 h
        refine ⟨⟨.str s, position⟩ :: us, congrArg _ hts, ?_⟩
        rw [words_cons, hw, hjoin, ← String.join_cons]
        exact .str s more
      | name n => exact exists_of_yields_word (.name n) h
      | keyword w =>
        cases w with
        | true => exact exists_of_yields_word .true h
        | false => exact exists_of_yields_word .false h
        | none => exact exists_of_yields_word .none h
        | _ => exact absurd h not_yields_error
      | mark m =>
        cases m with
        | leftParen =>
          obtain ⟨g, hg, e, r', he, t, s, rfl, ht, rfl, rfl⟩ := yields_parentheses.1 h
          obtain ⟨L, hL, hr⟩ := hn.of_grammar hg
          obtain ⟨us, rfl, he'⟩ := hr.conditional.sound he
          refine ⟨⟨.mark .leftParen, position⟩ :: us ++ [t], by simp, ?_⟩
          rw [words_append, words_cons, words_cons, ht]
          exact .parentheses hL he'
        | leftBracket =>
          obtain ⟨g, hg, es, hes, rfl⟩ := yields_brackets.1 h
          obtain ⟨L, hL, hr⟩ := hn.of_grammar hg
          obtain ⟨us, t, rfl, ht, hes'⟩ := Items.of_yields_listItems hr.conditional hes
          refine ⟨⟨.mark .leftBracket, position⟩ :: us ++ [t], by simp, ?_⟩
          rw [words_append, words_cons, words_cons, ht]
          exact .list hL hes'
        | _ => exact absurd h not_yields_error
  complete {us e r} h hstop := by
    generalize hw : words us = ks at h
    cases h with
    | str s more =>
      obtain ⟨p, vs, rfl, hv⟩ := exists_of_words_eq_cons hw
      obtain ⟨hjoin, hrest⟩ := moreText_append hv hstop
      refine yields_ok.2 ⟨?_, hrest⟩
      show Expr.literal (.str (s ++ (moreText (vs ++ r)).1)) = _
      rw [hjoin, String.join_cons]
    | parentheses hL he =>
      obtain ⟨p, p', vs, rfl, rfl⟩ := exists_of_words_eq_bracketed hw
      obtain ⟨g, hg, hr⟩ := hn.of_language hL
      rw [List.append_assoc]
      have he' := hr.conditional.complete he (r := ⟨.mark .rightParen, p'⟩ :: r)
        (by simp [Token.Kind.rank])
      exact yields_parentheses.2 ⟨g, hg, e, _, he', _, _, rfl, rfl, rfl, rfl⟩
    | list hL hes =>
      obtain ⟨p, p', vs, rfl, rfl⟩ := exists_of_words_eq_bracketed hw
      obtain ⟨g, hg, hr⟩ := hn.of_language hL
      rw [List.append_assoc]
      exact yields_brackets.2 ⟨g, hg, _, hes.yields_listItems hr.conditional hr.begins rfl rfl, rfl⟩
    | _ =>
      obtain ⟨p, vs, rfl, hnil⟩ := exists_of_words_eq_cons hw
      obtain rfl := List.map_eq_nil_iff.1 hnil
      exact yields_ok.2 ⟨rfl, rfl⟩

/-! ## Accesses and calls -/

/-- Before a token that is no access, the operand stays as it is. -/
theorem yields_accesses_of_stops (hr : Stops 1 ts) :
    Yields (accesses stop inner target ts) e r ↔ target = e ∧ ts = r := by
  rw [accesses]
  · exact yields_ok
  · rintro p field p' ts rfl
    simp [Token.Kind.rank] at hr
  all_goals
    rintro p ts rfl
    simp [Token.Kind.rank] at hr

/-- A dot and a name give a field of what stands before them. -/
theorem yields_accesses_dot {field : String} {p p' : Nat} :
    Yields (accesses stop inner target (⟨.mark .dot, p⟩ :: ⟨.name field, p'⟩ :: ts)) e r ↔
      Yields (accesses stop inner (.access target field) ts) e r := by
  rw [accesses]
  exact yields_bind_self fun _ _ _ => ⟨_, rfl⟩

/-- An index is a whole expression in brackets. -/
theorem yields_accesses_index {p : Nat} :
    Yields (accesses stop inner target (⟨.mark .leftBracket, p⟩ :: ts)) e r ↔
      ∃ g, inner = some g ∧ ∃ i r', Yields (g.conditional ts) i r' ∧
        ∃ t s, r' = t :: s ∧ t.kind = .mark .rightBracket ∧
          Yields (accesses stop inner (.index target i) s) e r := by
  rw [accesses]
  refine yields_enter.trans (exists_congr fun g => and_congr_right fun _ => ?_)
  exact yields_bind_iff fun _ _ _ => yields_expectMark fun _ _ =>
    yields_bind_self fun _ _ _ => ⟨_, rfl⟩

/-- A call is a list of arguments in parentheses. -/
theorem yields_accesses_call {p : Nat} :
    Yields (accesses stop inner target (⟨.mark .leftParen, p⟩ :: ts)) e r ↔
      ∃ g, inner = some g ∧ ∃ args s, Yields (callArguments stop g.conditional false ts) args s ∧
        Yields (accesses stop inner (.call target args.positional args.keywords) s) e r := by
  rw [accesses]
  refine yields_enter.trans (exists_congr fun g => and_congr_right fun _ => ?_)
  exact yields_bind_iff fun _ _ _ => yields_bind_self fun _ _ _ => ⟨_, rfl⟩

theorem yields_accessed :
    Yields (accessed stop inner ts) e r ↔
      ∃ first r', Yields (atom stop inner ts) first r' ∧
        Yields (accesses stop inner first r') e r :=
  yields_bind_iff fun _ _ _ => yields_bind_self fun _ _ _ => ⟨_, rfl⟩

/-- What is read behind an operand goes on with it. -/
theorem Accessed.of_yields (hn : Nests inner below) (ht : Accessed below ks target)
    (h : Yields (accesses stop inner target ts) e r) :
    ∃ us, ts = us ++ r ∧ Accessed below (ks ++ words us) e := by
  induction hlen : ts.length using Nat.strongRecOn generalizing ks target ts with
  | ind n ih =>
    have hcases := h
    rw [accesses.eq_def] at hcases
    split at hcases
    · next p field p' ts =>
      have hlt : ts.length < n := by
        simp only [List.length_cons] at hlen
        omega
      obtain ⟨us, rfl, he⟩ := ih _ hlt (ht.access field) (yields_accesses_dot.1 h) rfl
      exact ⟨⟨.mark .dot, p⟩ :: ⟨.name field, p'⟩ :: us, rfl, by simpa using he⟩
    · exact absurd hcases not_yields_error
    · next p ts =>
      obtain ⟨g, hg, i, r', hi, t, s, rfl, hk, hrest⟩ := yields_accesses_index.1 h
      obtain ⟨L, hL, hr⟩ := hn.of_grammar hg
      obtain ⟨us, rfl, hi'⟩ := hr.conditional.sound hi
      have hlt : s.length < n := by
        simp only [List.length_cons, List.length_append] at hlen
        omega
      obtain ⟨vs, rfl, he⟩ := ih _ hlt (ht.index hL hi') hrest rfl
      exact ⟨⟨.mark .leftBracket, p⟩ :: us ++ t :: vs, by simp, by simpa [hk] using he⟩
    · next p ts =>
      obtain ⟨g, hg, args, s, hargs, hrest⟩ := yields_accesses_call.1 h
      obtain ⟨L, hL, hr⟩ := hn.of_grammar hg
      obtain ⟨us, t, rfl, hk, hitems, -⟩ := Items.of_yields_callArguments hr.conditional hargs
      have hlt : s.length < n := by
        simp only [List.length_cons, List.length_append] at hlen
        omega
      obtain ⟨vs, rfl, he⟩ := ih _ hlt (ht.call hL hitems) hrest rfl
      exact ⟨⟨.mark .leftParen, p⟩ :: us ++ t :: vs, by simp, by simpa [hk] using he⟩
    · obtain ⟨rfl, rfl⟩ := yields_ok.1 hcases
      exact ⟨[], rfl, by simpa using ht⟩

/-- What a loop makes of an operand that was read, it makes of the atom before. -/
theorem Accessed.step (hn : Nests inner below) (h : Accessed below ks e) (hw : words us = ks)
    (hr : Stops 0 r) :
    ∃ first r', Yields (Parser.atom stop inner (us ++ r)) first r' ∧
      ∀ {e' s}, Yields (accesses stop inner e r) e' s →
        Yields (accesses stop inner first r') e' s := by
  induction h generalizing us r with
  | atom h => exact ⟨_, _, (reads_atom hn).complete (hw ▸ h) hr, id⟩
  | access _ field ih =>
    obtain ⟨us, vs, rfl, hus, hv⟩ := List.map_eq_append_iff.1 hw
    obtain ⟨p, vs, rfl, hvs⟩ := exists_of_words_eq_cons hv
    obtain ⟨p', ws, rfl, hnil⟩ := exists_of_words_eq_cons hvs
    obtain rfl := List.map_eq_nil_iff.1 hnil
    obtain ⟨first, r', hfirst, hstep⟩ :=
      ih hus (r := ⟨.mark .dot, p⟩ :: ⟨.name field, p'⟩ :: r) (by simp [Token.Kind.rank])
    rw [List.append_assoc]
    exact ⟨first, r', hfirst, fun he => hstep (yields_accesses_dot.2 he)⟩
  | index _ hL hi ih =>
    obtain ⟨us, vs, rfl, hus, hv⟩ := List.map_eq_append_iff.1 hw
    obtain ⟨p, p', vs, rfl, rfl⟩ := exists_of_words_eq_bracketed hv
    obtain ⟨g, hg, hread⟩ := hn.of_language hL
    obtain ⟨first, r', hfirst, hstep⟩ :=
      ih hus (r := ⟨.mark .leftBracket, p⟩ :: (vs ++ ⟨.mark .rightBracket, p'⟩ :: r))
        (by simp [Token.Kind.rank])
    rw [show us ++ (⟨.mark .leftBracket, p⟩ :: vs ++ [⟨.mark .rightBracket, p'⟩]) ++ r =
      us ++ ⟨.mark .leftBracket, p⟩ :: (vs ++ ⟨.mark .rightBracket, p'⟩ :: r) by simp]
    have hi' := hread.conditional.complete hi (r := ⟨.mark .rightBracket, p'⟩ :: r)
      (by simp [Token.Kind.rank])
    exact ⟨first, r', hfirst, fun he => hstep
      (yields_accesses_index.2 ⟨g, hg, _, _, hi', _, _, rfl, rfl, he⟩)⟩
  | call _ hL ha ih =>
    obtain ⟨us, vs, rfl, hus, hv⟩ := List.map_eq_append_iff.1 hw
    obtain ⟨p, p', vs, rfl, rfl⟩ := exists_of_words_eq_bracketed hv
    obtain ⟨g, hg, hread⟩ := hn.of_language hL
    obtain ⟨first, r', hfirst, hstep⟩ :=
      ih hus (r := ⟨.mark .leftParen, p⟩ :: (vs ++ ⟨.mark .rightParen, p'⟩ :: r))
        (by simp [Token.Kind.rank])
    rw [show us ++ (⟨.mark .leftParen, p⟩ :: vs ++ [⟨.mark .rightParen, p'⟩]) ++ r =
      us ++ ⟨.mark .leftParen, p⟩ :: (vs ++ ⟨.mark .rightParen, p'⟩ :: r) by simp]
    have ha' : Yields (callArguments stop g.conditional false
        (vs ++ ⟨.mark .rightParen, p'⟩ :: r)) ⟨_, _⟩ r :=
      ha.yields_callArguments hread.conditional hread.begins hread.name rfl (by simp) rfl rfl
    exact ⟨first, r', hfirst, fun he => hstep (yields_accesses_call.2 ⟨g, hg, _, _, ha', he⟩)⟩

/-- The parser of operands reads what the grammar calls one: an atom and the accesses behind it. -/
theorem reads_accessed (hn : Nests inner below) :
    Reads 1 (accessed stop inner) (Accessed below) where
  sound h := by
    obtain ⟨first, r', hfirst, hrest⟩ := yields_accessed.1 h
    obtain ⟨us, rfl, he⟩ := (reads_atom hn).sound hfirst
    obtain ⟨vs, rfl, he⟩ := Accessed.of_yields hn (.atom he) hrest
    exact ⟨us ++ vs, by simp, by simpa using he⟩
  complete h hr := by
    obtain ⟨first, r', hfirst, hstep⟩ := h.step hn rfl (hr.mono (Nat.zero_le 1))
    exact yields_accessed.2 ⟨first, r', hfirst, hstep ((yields_accesses_of_stops hr).2 ⟨rfl, rfl⟩)⟩

end Stencil.Expr
