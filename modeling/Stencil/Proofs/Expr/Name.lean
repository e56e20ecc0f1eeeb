import Stencil.Interpolation
import Stencil.Proofs.Expr.Parsing
import Stencil.Proofs.Text.Letter

/-!
# Names by themselves

A text that is a name, and no word with a meaning of its own, is a single token. As an expression it
stands for what the context binds it to (`softlyWith_of_isName`).
-/

namespace Stencil.Expr

variable {c : Char} {n text : String} {apply : Application} {ctx : Context} {site : Site}

/-- The text is a name, and no word with a meaning of its own. -/
structure IsName (n : String) : Prop where
  chars : ∃ c cs, n.toList = c :: cs ∧ startsName c = true ∧ ∀ d ∈ cs, continuesName d = true
  ofWord?_eq : Keyword.ofWord? n = none

theorem isBlank_eq_false_of_startsName (h : startsName c = true) : Text.isBlank c = false := by
  cases hb : Text.isBlank c with
  | false => rfl
  | true =>
    rw [startsName, Text.isAlphabetic_eq_false_of_isBlank hb, Bool.false_or, beq_iff_eq] at h
    subst h
    exact absurd hb (by decide)

theorem isDigit_eq_false_of_startsName (h : startsName c = true) : c.isDigit = false := by
  cases hd : c.isDigit with
  | false => rfl
  | true =>
    rw [startsName, Text.isAlphabetic_eq_false_of_isDigit hd, Bool.false_or, beq_iff_eq] at h
    subst h
    exact absurd hd (by decide)

/-- A word is taken up to what does not go on with it. -/
theorem takeToken_of_startsName {cs rest : List Char} (hc : startsName c = true)
    (hcs : ∀ d ∈ cs, continuesName d = true) (hrest : ∀ d ∈ rest.head?, continuesName d = false) :
    takeToken c (cs ++ rest) = .ok (.ofWord (String.ofList (c :: cs)), cs, rest) := by
  have htake : rest.takeWhile continuesName = [] := by
    cases rest with
    | nil => rfl
    | cons d rest => simp [hrest d rfl]
  have hdrop : rest.dropWhile continuesName = rest := by
    cases rest with
    | nil => rfl
    | cons d rest => simp [hrest d rfl]
  rw [takeToken, isDigit_eq_false_of_startsName hc, if_neg Bool.false_ne_true, if_pos hc,
    List.takeWhile_append_of_pos hcs, List.dropWhile_append_of_pos hcs, htake, hdrop,
    List.append_nil]

/-! ## The first token -/

theorem tokensFrom_cons_of_isBlank {position : Nat} (cs : List Char) (hc : Text.isBlank c = true) :
    tokensFrom position (c :: cs) = tokensFrom (position + c.utf8Size) cs := by
  rw [tokensFrom, if_pos hc]

/-- Where a token can be taken, the others are those of the rest. -/
theorem tokensFrom_cons_of_takeToken {position : Nat} {cs written rest : List Char}
    {kind : Token.Kind} (hc : Text.isBlank c = false)
    (h : takeToken c cs = .ok (kind, written, rest)) :
    tokensFrom position (c :: cs) =
      (tokensFrom (position + Text.utf8Length (c :: written)) rest).map
        (⟨kind, position⟩ :: ·) := by
  rw [tokensFrom, hc, if_neg Bool.false_ne_true]
  split
  · next ht => simp [h] at ht
  · next ht =>
    rw [h, Except.ok.injEq, Prod.mk.injEq, Prod.mk.injEq] at ht
    obtain ⟨rfl, rfl, rfl⟩ := ht
    cases tokensFrom (position + Text.utf8Length (c :: written)) rest <;> rfl

theorem tokens_of_isName (h : IsName n) : tokens n = .ok [⟨.name n, 0⟩] := by
  obtain ⟨c, cs, hn, hc, hcs⟩ := h.chars
  have hword : Token.Kind.ofWord (String.ofList (c :: cs)) = .name n := by
    rw [← hn, String.ofList_toList, Token.Kind.ofWord, h.ofWord?_eq]
  have htake : takeToken c (cs ++ []) = .ok (.ofWord (String.ofList (c :: cs)), cs, []) :=
    takeToken_of_startsName hc hcs (by simp)
  rw [List.append_nil] at htake
  rw [tokens, hn, tokensFrom_cons_of_takeToken (isBlank_eq_false_of_startsName hc) htake, hword,
    tokensFrom]
  rfl

theorem parse_of_isName (h : IsName n) : parse n = .ok (.name n) := by
  have hword : Derives Parser.maxDepth (words [⟨.name n, 0⟩]) (.name n) :=
    (Parser.Grammar.reads_ofDepth 0 Parser.maxDepth).name n
  rw [parse, tokens_of_isName h]
  exact ofTokens_eq_ok.2 hword

/-- A name that is bound has the value that it is bound to. -/
theorem softlyWith_of_isName (h : IsName (Text.trimmed text)) {v : Value}
    (hv : ctx.get? (Text.trimmed text) = some v) :
    (softlyWith apply ctx site text).value = v := by
  have he : evaluateWith apply ctx site text = .ok v := by
    rw [evaluateWith, parse_of_isName h]
    simp only [evalWith, hv]
  rw [softlyWith, he]

end Stencil.Expr
