import Mathlib
import Stencil.Proofs.Expr.Chain
import Stencil.Proofs.Expr.Comparison
import Stencil.Proofs.Expr.Nesting
import Stencil.Proofs.Expr.Operand

/-!
# Parsing is deriving

The readers of a nesting level read its phrases if those of the level below do
(`Grammar.reads_above`), so they do on all levels. A text is parsed if and only if its tokens, as a
whole, stand for an expression, and that is the one (`ofTokens_eq_ok`).
-/

namespace Stencil.Expr

open Stencil.Expr.Parser

variable {stop : Nat} {inner : Option Grammar} {below : Option Language} {e : Expr}
  {ks : List Token.Kind} {t : Token} {ts us r : List Token}

/-! ## Signs and negations -/

/-- A sign stands before something that is signed again, one level deeper. -/
theorem yields_signed_sign {m : Mark} {op : UnaryOp} {p : Nat}
    (hm : m = .minus ∧ op = .neg ∨ m = .plus ∧ op = .pos) :
    Yields (signed stop inner (⟨.mark m, p⟩ :: ts)) e r ↔
      ∃ g, inner = some g ∧ ∃ e', Yields (g.signed ts) e' r ∧ .unary op e' = e := by
  rcases hm with ⟨rfl, rfl⟩ | ⟨rfl, rfl⟩
  all_goals
    refine yields_enter.trans (exists_congr fun g => and_congr_right fun _ => ?_)
    exact yields_bind_map (Expr.unary _) fun _ _ _ => ⟨_, rfl⟩

/-- A `not` stands before another negation, one level deeper. -/
theorem yields_negation_not {p : Nat} :
    Yields (negation stop inner (⟨.keyword .not, p⟩ :: ts)) e r ↔
      ∃ g, inner = some g ∧ ∃ e', Yields (g.negation ts) e' r ∧ .unary .not e' = e := by
  refine yields_enter.trans (exists_congr fun g => and_congr_right fun _ => ?_)
  exact yields_bind_map (Expr.unary _) fun _ _ _ => ⟨_, rfl⟩

/-- Without a sign, there is just an operand. -/
theorem signed_eq_accessed (hm : ∀ t ∈ ts.head?, t.kind ≠ .mark .minus)
    (hp : ∀ t ∈ ts.head?, t.kind ≠ .mark .plus) :
    signed stop inner ts = accessed stop inner ts := by
  unfold signed
  split
  · exact absurd rfl (hm _ rfl)
  · exact absurd rfl (hp _ rfl)
  · rfl

theorem negation_eq_compared (h : ∀ t ∈ ts.head?, t.kind ≠ .keyword .not) :
    negation stop inner ts =
      compared (chained (chained (signed stop inner) productJoiner) sumJoiner) ts := by
  unfold negation
  split
  · exact absurd rfl (h _ rfl)
  · rfl

/-- The parser of signs reads what the grammar calls signed. -/
theorem reads_signed (hn : Nests inner below) : Reads 1 (signed stop inner) (Signed below) where
  sound {ts e r} h := by
    have hcases := h
    unfold signed at hcases
    split at hcases
    · next p ts =>
      obtain ⟨g, hg, e', he, rfl⟩ := (yields_signed_sign (.inl ⟨rfl, rfl⟩)).1 h
      obtain ⟨L, hL, hr⟩ := hn.of_grammar hg
      obtain ⟨us, rfl, he'⟩ := hr.signed.sound he
      exact ⟨⟨.mark .minus, p⟩ :: us, rfl, .neg hL he'⟩
    · next p ts =>
      obtain ⟨g, hg, e', he, rfl⟩ := (yields_signed_sign (.inr ⟨rfl, rfl⟩)).1 h
      obtain ⟨L, hL, hr⟩ := hn.of_grammar hg
      obtain ⟨us, rfl, he'⟩ := hr.signed.sound he
      exact ⟨⟨.mark .plus, p⟩ :: us, rfl, .pos hL he'⟩
    · obtain ⟨us, rfl, he⟩ := (reads_accessed hn).sound hcases
      exact ⟨us, rfl, .plain he⟩
  complete {us e r} h hstop := by
    generalize hw : words us = ks at h
    cases h with
    | plain he =>
      subst hw
      rw [signed_eq_accessed (begins_accessed.ne he (by simp [opensAtom]))
        (begins_accessed.ne he (by simp [opensAtom]))]
      exact (reads_accessed hn).complete he hstop
    | neg hL he =>
      obtain ⟨p, vs, rfl, rfl⟩ := exists_of_words_eq_cons hw
      obtain ⟨g, hg, hr⟩ := hn.of_language hL
      exact (yields_signed_sign (.inl ⟨rfl, rfl⟩)).2 ⟨g, hg, _, hr.signed.complete he hstop, rfl⟩
    | pos hL he =>
      obtain ⟨p, vs, rfl, rfl⟩ := exists_of_words_eq_cons hw
      obtain ⟨g, hg, hr⟩ := hn.of_language hL
      exact (yields_signed_sign (.inr ⟨rfl, rfl⟩)).2 ⟨g, hg, _, hr.signed.complete he hstop, rfl⟩

/-- The parser of comparisons reads what the grammar calls a comparison of sums. -/
theorem reads_compared (hn : Nests inner below) :
    Reads 4 (compared (chained (chained (signed stop inner) productJoiner) sumJoiner))
      (Compared (Additive below)) :=
  (((reads_signed hn).chained joins_product).chained joins_sum).compared begins_additive

/-- The parser of negations reads what the grammar calls one. -/
theorem reads_negation (hn : Nests inner below) :
    Reads 4 (negation stop inner) (Negation below) where
  sound {ts e r} h := by
    have hcases := h
    unfold negation at hcases
    split at hcases
    · next p ts =>
      obtain ⟨g, hg, e', he, rfl⟩ := yields_negation_not.1 h
      obtain ⟨L, hL, hr⟩ := hn.of_grammar hg
      obtain ⟨us, rfl, he'⟩ := hr.negation.sound he
      exact ⟨⟨.keyword .not, p⟩ :: us, rfl, .not hL he'⟩
    · obtain ⟨us, rfl, he⟩ := (reads_compared hn).sound hcases
      exact ⟨us, rfl, .plain he⟩
  complete {us e r} h hstop := by
    generalize hw : words us = ks at h
    cases h with
    | plain he =>
      subst hw
      rw [negation_eq_compared (begins_additive.compared.ne he (by simp [opensOperand, opensAtom]))]
      exact (reads_compared hn).complete he hstop
    | not hL he =>
      obtain ⟨p, vs, rfl, rfl⟩ := exists_of_words_eq_cons hw
      obtain ⟨g, hg, hr⟩ := hn.of_language hL
      exact yields_negation_not.2 ⟨g, hg, _, hr.negation.complete he hstop, rfl⟩

/-- The parser of disjunctions reads what the grammar calls one. -/
theorem reads_disjunction (hn : Nests inner below) :
    Reads 6 (disjunction stop inner) (Disjunction below) :=
  ((reads_negation hn).chained joins_and).chained joins_or

/-! ## Expressions -/

theorem when?_eq_some {hr : r.length < ts.length} :
    when? ts = some ⟨r, hr⟩ ↔ ∃ p, ts = ⟨.keyword .when, p⟩ :: r := by
  constructor
  · intro h
    unfold when? at h
    split at h
    · cases h
      exact ⟨_, rfl⟩
    · simp at h
  · rintro ⟨p, rfl⟩
    rfl

/-- Behind the first part of an expression there is a condition, or nothing that goes on with it. -/
theorem yields_conditional :
    Yields (Parser.conditional stop inner ts) e r ↔
      ∃ first r', Yields (disjunction stop inner ts) first r' ∧
        ((when? r' = none ∧ first = e ∧ r' = r) ∨
          ∃ p s, r' = ⟨.keyword .when, p⟩ :: s ∧ ∃ g, inner = some g ∧
            ∃ c u, Yields (g.disjunction s) c u ∧ ∃ t v, u = t :: v ∧ t.kind = .keyword .otherwise ∧
              ∃ a, Yields (g.conditional v) a r ∧ .conditional c first a = e) := by
  refine yields_bind_iff fun first r' _ => ?_
  cases hw : when? r' with
  | none =>
    simp only [hw]
    refine yields_ok.trans ⟨fun h => .inl ⟨trivial, h⟩, ?_⟩
    rintro (⟨-, h⟩ | ⟨p, s, rfl, -⟩)
    · exact h
    · simp [when?] at hw
  | some y =>
    obtain ⟨s, hs⟩ := y
    obtain ⟨p, rfl⟩ := when?_eq_some.1 hw
    refine (yields_enter.trans (exists_congr fun g => and_congr_right fun _ => yields_bind_iff
      fun c u _ => yields_expectElse fun v _ => yields_bind_map (Expr.conditional c first)
        fun _ _ _ => ⟨_, rfl⟩)).trans ?_
    constructor
    · intro h
      exact .inr ⟨p, s, rfl, h⟩
    · rintro (⟨h, -⟩ | ⟨p', s', hs', h⟩)
      · simp at h
      · cases hs'
        exact h

/-- The parser of whole expressions reads what the grammar calls one. -/
theorem reads_conditional (hn : Nests inner below) :
    Reads 7 (Parser.conditional stop inner) (Conditional below) where
  sound {ts e r} h := by
    obtain ⟨first, r', hfirst, hrest⟩ := yields_conditional.1 h
    obtain ⟨us, rfl, hfirst'⟩ := (reads_disjunction hn).sound hfirst
    rcases hrest with ⟨-, rfl, rfl⟩ | ⟨p, s, rfl, g, hg, c, u, hc, t, v, rfl, hk, a, ha, rfl⟩
    · exact ⟨us, rfl, .plain hfirst'⟩
    · obtain ⟨L, hL, hr⟩ := hn.of_grammar hg
      obtain ⟨vs, rfl, hc'⟩ := hr.disjunction.sound hc
      obtain ⟨ws, rfl, ha'⟩ := hr.conditional.sound ha
      refine ⟨us ++ (⟨.keyword .when, p⟩ :: vs ++ t :: ws), by simp, ?_⟩
      rw [words_append, words_append, words_cons, words_cons, hk]
      exact .tail hfirst' hL hc' ha'
  complete {us e r} h hstop := by
    generalize hw : words us = ks at h
    refine yields_conditional.2 ?_
    cases h with
    | plain he =>
      subst hw
      refine ⟨e, r, (reads_disjunction hn).complete he (hstop.mono (by omega)), .inl ⟨?_, rfl, rfl⟩⟩
      cases hr : when? r with
      | none => rfl
      | some y =>
        obtain ⟨s, hs⟩ := y
        obtain ⟨p, rfl⟩ := when?_eq_some.1 hr
        simp [Token.Kind.rank] at hstop
    | tail he hL hc ha =>
      obtain ⟨us, vs, rfl, rfl, hv⟩ := List.map_eq_append_iff.1 hw
      obtain ⟨vs, ws, rfl, hv', hws⟩ := List.map_eq_append_iff.1 hv
      obtain ⟨p, vs, rfl, rfl⟩ := exists_of_words_eq_cons hv'
      obtain ⟨p', ws, rfl, rfl⟩ := exists_of_words_eq_cons hws
      obtain ⟨g, hg, hr⟩ := hn.of_language hL
      rw [show us ++ (⟨.keyword .when, p⟩ :: vs ++ ⟨.keyword .otherwise, p'⟩ :: ws) ++ r =
        us ++ ⟨.keyword .when, p⟩ :: (vs ++ ⟨.keyword .otherwise, p'⟩ :: (ws ++ r)) by simp]
      have hwhen : Stops 6 (⟨.keyword .when, p⟩ ::
          (vs ++ ⟨.keyword .otherwise, p'⟩ :: (ws ++ r))) := by
        simp [Token.Kind.rank]
      have hc' := hr.disjunction.complete hc (r := ⟨.keyword .otherwise, p'⟩ :: (ws ++ r))
        (by simp [Token.Kind.rank])
      have ha' := hr.conditional.complete ha hstop
      refine ⟨_, _, (reads_disjunction hn).complete he hwhen, .inr ⟨p, _, rfl, g, hg, ?_⟩⟩
      exact ⟨_, _, hc', _, _, rfl, rfl, _, ha', rfl⟩

/-! ## Nesting levels -/

theorem conditional_name (n : String) : Conditional below [.name n] (.name n) :=
  .plain (.one (.one (.plain (.alone (.one (.one (.plain (.atom (.name n)))))))))

/-- A level of the parser reads a level of the grammar if the levels below them agree. -/
theorem Parser.Grammar.reads_above (hn : Nests inner below) :
    (Grammar.above stop inner).Reads (.above below) where
  conditional := reads_conditional hn
  disjunction := reads_disjunction hn
  negation := reads_negation hn
  signed := reads_signed hn
  begins := begins_conditional
  name := conditional_name

/-- On every nesting level the readers read the phrases. -/
theorem Parser.Grammar.reads_ofDepth (stop depth : Nat) :
    (Grammar.ofDepth stop depth).Reads (.ofDepth depth) := by
  induction depth with
  | zero => exact reads_above .bottom
  | succ depth ih => exact reads_above (.down ih)

/-! ## Texts -/

/-- All tokens must be read. -/
theorem ofTokens_eq_ok_iff_yields :
    ofTokens stop ts = .ok e ↔
      Yields ((Grammar.ofDepth stop maxDepth).conditional ts) e [] := by
  rcases ts with _ | ⟨t, ts⟩
  · refine iff_of_false (by simp [ofTokens]) ?_
    rintro ⟨h, -⟩
    simp at h
  · rw [ofTokens]
    · cases (Grammar.ofDepth stop maxDepth).conditional (t :: ts) with
      | error err => simp [bind, Except.bind, not_yields_error]
      | ok y =>
        obtain ⟨e', r, hr⟩ := y
        rw [yields_ok]
        cases r with
        | nil => simp [bind, Except.bind, pure, Except.pure]
        | cons t r => simp [bind, Except.bind, throw, throwThe, MonadExceptOf.throw]
    · simp

/-- Tokens are parsed into an expression exactly if they derive it, within the depth that is
allowed. -/
theorem ofTokens_eq_ok : ofTokens stop ts = .ok e ↔ Derives maxDepth (words ts) e := by
  have hr := (Grammar.reads_ofDepth stop maxDepth).conditional
  rw [ofTokens_eq_ok_iff_yields]
  constructor
  · intro h
    obtain ⟨us, rfl, he⟩ := hr.sound h
    rwa [List.append_nil]
  · intro h
    have h' := hr.complete h stops_nil
    rwa [List.append_nil] at h'

/-- Words stand for one expression at most. -/
theorem Derives.unique {depth depth' : Nat} {e' : Expr} (h : Derives depth ks e)
    (h' : Derives depth' ks e') : e = e' := by
  have hr := (Grammar.reads_ofDepth 0 (max depth depth')).conditional
  have hw : words (ks.map fun k => ⟨k, 0⟩) = ks := by simp [words, Function.comp_def]
  rw [← hw] at h h'
  have hy := hr.complete (h.mono (Nat.le_max_left depth depth')) stops_nil
  have hy' := hr.complete (h'.mono (Nat.le_max_right depth depth')) stops_nil
  exact (hy.unique hy').1

/-- A text with tokens is parsed as what its tokens stand for, as a whole and with at most 64
constructs open at once; if they stand for nothing, there is a syntax error. And words stand for one
expression at most, however deeply it is nested. -/
theorem parse_eq_ok_iff_derives {text : String} (hts : tokens text = .ok ts) :
    (∀ e, parse text = .ok e ↔ Derives 64 (words ts) e) ∧
      ((∀ e, ¬ Derives 64 (words ts) e) → ∃ err : SyntaxError, parse text = .error err) ∧
      ∀ (ks : List Token.Kind) (depth depth' : Nat) (e e' : Expr),
        Derives depth ks e → Derives depth' ks e' → e = e' := by
  have hparse : parse text = ofTokens text.utf8ByteSize ts := by
    rw [parse, hts]
    rfl
  rw [hparse]
  refine ⟨fun e => ofTokens_eq_ok, fun h => ?_, fun ks depth depth' e e' he he' => he.unique he'⟩
  cases hp : ofTokens text.utf8ByteSize ts with
  | error err => exact ⟨err, rfl⟩
  | ok e => exact absurd (ofTokens_eq_ok.1 hp) (h e)

/-- A conditional with texts side by side in a list; and a call in which an argument by place comes
too late. -/
theorem derives_of_parse :
    (∃ ts, tokens "a if b not in ['u' 'v',] else -c" = .ok ts ∧
      Derives 64 (words ts)
        (.conditional (.compare (.name "b") [(.notWithin, .list [.literal (.str "uv")])])
          (.name "a") (.unary .neg (.name "c")))) ∧
      ∃ ts, tokens "f(k=c, b)" = .ok ts ∧ ∀ e, ¬ Derives 64 (words ts) e := by
  constructor
  · have hts : tokens "a if b not in ['u' 'v',] else -c" =
        .ok [⟨.name "a", 0⟩, ⟨.keyword .when, 2⟩, ⟨.name "b", 5⟩, ⟨.keyword .not, 7⟩,
          ⟨.keyword .within, 11⟩, ⟨.mark .leftBracket, 14⟩, ⟨.str "u", 15⟩, ⟨.str "v", 19⟩,
          ⟨.mark .comma, 22⟩, ⟨.mark .rightBracket, 23⟩, ⟨.keyword .otherwise, 25⟩,
          ⟨.mark .minus, 30⟩, ⟨.name "c", 31⟩] := by cbv
    exact ⟨_, hts, ((parse_eq_ok_iff_derives hts).1 _).1 (by cbv)⟩
  · have hts : tokens "f(k=c, b)" =
        .ok [⟨.name "f", 0⟩, ⟨.mark .leftParen, 1⟩, ⟨.name "k", 2⟩, ⟨.mark .assign, 3⟩,
          ⟨.name "c", 4⟩, ⟨.mark .comma, 5⟩, ⟨.name "b", 7⟩, ⟨.mark .rightParen, 8⟩] := by cbv
    have hparse : parse "f(k=c, b)" = .error ⟨7, .positionalAfterKeyword⟩ := by cbv
    refine ⟨_, hts, fun e he => ?_⟩
    have hok := ((parse_eq_ok_iff_derives hts).1 e).2 he
    rw [hparse] at hok
    cases hok

end Stencil.Expr
