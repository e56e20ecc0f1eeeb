import Stencil.Expr.Parser
import Stencil.Proofs.Expr.Grammar

/-!
# Reading phrases

A reader takes as many tokens as it can. It reads a phrase (`Reads`) if all it takes are words of
the phrase, and if it takes words of the phrase whole wherever what follows does not go on with
them. Which words go on with what is a matter of rank: a word goes on with phrases of its rank and
of looser levels, and with no tighter ones (`Token.Kind.rank`).
-/

namespace Stencil.Expr

open Stencil.Expr.Parser

variable {α β γ : Type} {p q : List Token → Prop}

/-! ## Results -/

/-- Something is read off the front of tokens, and the rest is left. -/
def Yields (x : Except SyntaxError (α × { r : List Token // p r })) (a : α) (r : List Token) :
    Prop :=
  ∃ h, x = .ok (a, ⟨r, h⟩)

section Yields

variable {x : Except SyntaxError (α × { r : List Token // p r })} {a a' : α} {b : β}
  {r r' s : List Token}

theorem Yields.unique (h : Yields x a r) (h' : Yields x a' r') : a = a' ∧ r = r' := by
  obtain ⟨_, rfl⟩ := h
  obtain ⟨_, h'⟩ := h'
  simpa using h'

theorem yields_ok {y : { r : List Token // p r }} :
    Yields (.ok (a, y)) a' r ↔ a = a' ∧ y.1 = r := by
  obtain ⟨s, hs⟩ := y
  constructor
  · rintro ⟨_, h⟩
    simpa using h
  · rintro ⟨rfl, rfl⟩
    exact ⟨hs, rfl⟩

theorem not_yields_error {e : SyntaxError} :
    ¬ Yields (.error e : Except SyntaxError (α × { r : List Token // p r })) a r := by
  rintro ⟨_, h⟩
  simp at h

/-- What comes first leaves nothing behind. -/
theorem yields_bind {x : Except SyntaxError γ}
    {f : γ → Except SyntaxError (β × { r : List Token // q r })} :
    Yields (x >>= f) b s ↔ ∃ c, x = .ok c ∧ Yields (f c) b s := by
  cases x with
  | error e => simp [bind, Except.bind, not_yields_error]
  | ok c => simp [bind, Except.bind]

/-- What comes first leaves tokens to what comes then. -/
theorem yields_bind_iff {f : α × { r : List Token // p r } →
      Except SyntaxError (β × { r : List Token // q r })}
    {P : α → List Token → Prop} (hf : ∀ a r h, Yields (f (a, ⟨r, h⟩)) b s ↔ P a r) :
    Yields (x >>= f) b s ↔ ∃ a r, Yields x a r ∧ P a r := by
  rw [yields_bind]
  constructor
  · rintro ⟨⟨a, r, h⟩, hx, hy⟩
    exact ⟨a, r, ⟨h, hx⟩, (hf a r h).1 hy⟩
  · rintro ⟨a, r, ⟨h, hx⟩, hy⟩
    exact ⟨(a, ⟨r, h⟩), hx, (hf a r h).2 hy⟩

/-- What is read is made into something else. -/
theorem yields_bind_map (g : α → β) {f : α × { r : List Token // p r } →
      Except SyntaxError (β × { r : List Token // q r })}
    (hf : ∀ a r h, ∃ h', f (a, ⟨r, h⟩) = .ok (g a, ⟨r, h'⟩)) :
    Yields (x >>= f) b s ↔ ∃ a, Yields x a s ∧ g a = b := by
  rw [yields_bind_iff (P := fun a r => g a = b ∧ r = s)]
  · constructor
    · rintro ⟨a, r, hx, hg, rfl⟩
      exact ⟨a, hx, hg⟩
    · rintro ⟨a, hx, hg⟩
      exact ⟨a, s, hx, hg, rfl⟩
  · intro a r h
    obtain ⟨h', hf⟩ := hf a r h
    rw [hf, yields_ok]

/-- What is read is handed on. -/
theorem yields_bind_self {f : α × { r : List Token // p r } →
      Except SyntaxError (α × { r : List Token // q r })}
    (hf : ∀ a r h, ∃ h', f (a, ⟨r, h⟩) = .ok (a, ⟨r, h'⟩)) :
    Yields (x >>= f) a s ↔ Yields x a s := by
  rw [yields_bind_map id hf]
  simp

end Yields

/-! ## Single words -/

section Words

variable {b : β} {stop : Nat} {mark close : Mark} {ts r s : List Token}

/-- A mark that must be there is there. -/
theorem yields_expectMark {f : Rest ts → Except SyntaxError (β × { r : List Token // q r })}
    {P : List Token → Prop} (hf : ∀ r h, Yields (f ⟨r, h⟩) b s ↔ P r) :
    Yields (expectMark stop mark ts >>= f) b s ↔
      ∃ t r, ts = t :: r ∧ t.kind = .mark mark ∧ P r := by
  rw [yields_bind]
  constructor
  · rintro ⟨⟨r, h⟩, he, hy⟩
    unfold expectMark at he
    split at he
    · split at he
      · next hm =>
        obtain rfl : _ = r := by simpa using he
        exact ⟨_, _, rfl, congrArg _ hm, (hf _ h).1 hy⟩
      · simp at he
    · simp at he
  · rintro ⟨⟨k, position⟩, r, rfl, rfl, hP⟩
    exact ⟨⟨r, by simp⟩, by simp [expectMark], (hf r _).2 hP⟩

/-- The word `else` must be there. -/
theorem yields_expectElse {f : Rest ts → Except SyntaxError (β × { r : List Token // q r })}
    {P : List Token → Prop} (hf : ∀ r h, Yields (f ⟨r, h⟩) b s ↔ P r) :
    Yields (expectElse stop ts >>= f) b s ↔
      ∃ t r, ts = t :: r ∧ t.kind = .keyword .otherwise ∧ P r := by
  rw [yields_bind]
  constructor
  · rintro ⟨⟨r, h⟩, he, hy⟩
    unfold expectElse at he
    split at he
    · obtain rfl : _ = r := by simpa using he
      exact ⟨_, _, rfl, rfl, (hf _ h).1 hy⟩
    · simp at he
  · rintro ⟨⟨k, position⟩, r, rfl, rfl, hP⟩
    exact ⟨⟨r, by simp⟩, rfl, (hf r _).2 hP⟩

/-- Behind an item there is a comma, or the end. -/
theorem yields_separator {f : Bool × Rest ts → Except SyntaxError (β × { r : List Token // q r })}
    {P Q : List Token → Prop} (hmore : ∀ r h, Yields (f (true, ⟨r, h⟩)) b s ↔ P r)
    (hlast : ∀ r h, Yields (f (false, ⟨r, h⟩)) b s ↔ Q r) (hc : close ≠ .comma) :
    Yields (separator stop close ts >>= f) b s ↔
      (∃ t r, ts = t :: r ∧ t.kind = .mark .comma ∧ P r) ∨
        ∃ t r, ts = t :: r ∧ t.kind = .mark close ∧ Q r := by
  unfold separator
  split
  · next position r =>
    constructor
    · intro hy
      exact .inl ⟨_, r, rfl, rfl, (hmore r (by simp)).1 hy⟩
    · rintro (⟨t, r, ht, hk, hP⟩ | ⟨t, r, ht, hk, hQ⟩)
      · obtain ⟨rfl, rfl⟩ := List.cons.inj ht
        exact (hmore _ _).2 hP
      · obtain ⟨rfl, rfl⟩ := List.cons.inj ht
        exact absurd (Token.Kind.mark.inj hk).symm hc
  · next hne =>
    rw [bind_assoc, yields_expectMark (P := Q) hlast]
    constructor
    · exact .inr
    · rintro (⟨⟨k, position⟩, r, rfl, rfl, -⟩ | h)
      · exact absurd rfl (hne position r)
      · exact h

/-- Going down takes a level to go to. -/
theorem yields_enter {inner : Option Grammar} {ts : List Token}
    {f : Grammar → Except SyntaxError (β × { r : List Token // q r })} :
    Yields (enter stop inner ts >>= f) b s ↔ ∃ g, inner = some g ∧ Yields (f g) b s := by
  rw [yields_bind]
  cases inner <;> simp [enter]

end Words

/-! ## What may follow -/

/-- The level of the tightest phrases that a word goes on with: atoms (0), accesses and signs (1),
products (2), sums (3), comparisons and negations (4), `and` (5), `or` (6), expressions (7). Words
of rank 8 go on with nothing. -/
def Token.Kind.rank : Token.Kind → Nat
  | .str _ => 0
  | .mark .dot | .mark .leftBracket | .mark .leftParen => 1
  | .mark .star | .mark .slash | .mark .doubleSlash | .mark .percent => 2
  | .mark .plus | .mark .minus => 3
  | .mark .eq | .mark .ne | .mark .lt | .mark .le | .mark .gt | .mark .ge => 4
  | .keyword .within | .keyword .same | .keyword .not => 4
  | .keyword .and => 5
  | .keyword .or => 6
  | .keyword .when => 7
  | _ => 8

/-- Tokens do not go on with phrases up to a level. -/
def Stops (level : Nat) (ts : List Token) : Prop := ∀ t ∈ ts.head?, level < t.kind.rank

variable {level : Nat} {t : Token} {ts us r : List Token}

@[simp] theorem stops_nil : Stops level [] := by simp [Stops]

@[simp] theorem stops_cons : Stops level (t :: ts) ↔ level < t.kind.rank := by simp [Stops]

theorem Stops.mono {level' : Nat} (h : Stops level ts) (hl : level' ≤ level) : Stops level' ts :=
  fun t ht => Nat.lt_of_le_of_lt hl (h t ht)

/-! ## Readers of phrases -/

/-- The words of tokens. -/
abbrev words (ts : List Token) : List Token.Kind := ts.map Token.kind

theorem words_append : words (us ++ ts) = words us ++ words ts := List.map_append

theorem words_cons : words (t :: ts) = t.kind :: words ts := rfl

theorem exists_of_words_eq_cons {k : Token.Kind} {ks : List Token.Kind} (h : words us = k :: ks) :
    ∃ position vs, us = ⟨k, position⟩ :: vs ∧ words vs = ks := by
  obtain ⟨⟨_, position⟩, vs, rfl, rfl, hvs⟩ := List.map_eq_cons_iff.1 h
  exact ⟨position, vs, rfl, hvs⟩

/-- Tokens begin like the phrase at their front. -/
theorem Begins.ne {P : Token.Kind → Prop} {phrase : Phrase α} (hb : Begins P phrase) {a : α}
    (h : phrase (words us) a) {k : Token.Kind} (hk : ¬ P k) :
    ∀ t ∈ (us ++ r).head?, t.kind ≠ k := by
  obtain ⟨k', vs, hw, hP⟩ := hb _ _ h
  obtain ⟨position, us', rfl, -⟩ := exists_of_words_eq_cons hw
  rintro t ⟨⟩ rfl
  exact hk hP

/-- A reader reads the phrases of a level. -/
structure Reads (level : Nat) (reader : Reader α) (phrase : Phrase α) : Prop where
  sound : ∀ {ts a r}, Yields (reader ts) a r → ∃ us, ts = us ++ r ∧ phrase (words us) a
  complete : ∀ {us a r}, phrase (words us) a → Stops level r → Yields (reader (us ++ r)) a r

end Stencil.Expr
