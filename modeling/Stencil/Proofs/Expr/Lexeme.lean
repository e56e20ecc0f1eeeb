import Mathlib.Logic.IsEmpty.Defs
import Stencil.Proofs.Expr.Name

/-!
# Tokens as they are written

A lexeme is a token that is no float, with a choice of how to write it: a text may stand in either
quote, and some keywords have two words. What a lexeme is written as is taken off the front of a
text as its token and no more, if nothing or a space follows (`takeToken_written`). So the tokens of
lexemes with single spaces between them are theirs, each at the offset where it is written
(`tokens_print`).
-/

namespace Stencil.Expr

/-- A quote that a text can stand in. -/
inductive Quote where
  | single
  | double
deriving DecidableEq, Repr

/-- The character of a quote. -/
def Quote.char : Quote → Char
  | single => '\''
  | double => '"'

/-- A text between quotes, with a backslash before each backslash and each such quote in it. -/
def Quote.escape (q : Quote) (s : List Char) : List Char :=
  s.flatMap fun c => if c = '\\' ∨ c = q.char then ['\\', c] else [c]

/-- The characters of a mark. -/
def Mark.symbol : Mark → String
  | leftParen => "("
  | rightParen => ")"
  | leftBracket => "["
  | rightBracket => "]"
  | comma => ","
  | dot => "."
  | assign => "="
  | eq => "=="
  | ne => "!="
  | lt => "<"
  | le => "<="
  | gt => ">"
  | ge => ">="
  | plus => "+"
  | minus => "-"
  | star => "*"
  | slash => "/"
  | doubleSlash => "//"
  | percent => "%"

/-- A token that is no float, and how it is written. -/
inductive Lexeme where
  | int (n : Int64) (h : 0 ≤ n.toInt)
  | name (n : String) (h : IsName n)
  | keyword (k : Keyword) (word : String) (h : Keyword.ofWord? word = some k)
  | str (quote : Quote) (s : String)
  | mark (m : Mark)

namespace Lexeme

/-- The token. -/
def kind : Lexeme → Token.Kind
  | int n _ => .int n
  | name n _ => .name n
  | keyword k _ _ => .keyword k
  | str _ s => .str s
  | mark m => .mark m

/-- The characters that the token is written with. Numbers are decimal. -/
def written : Lexeme → List Char
  | int n _ => Nat.toDigits 10 n.toInt.toNat
  | name n _ => n.toList
  | keyword _ word _ => word.toList
  | str q s => q.char :: q.escape s.toList ++ [q.char]
  | mark m => m.symbol.toList

/-- Lexemes with single spaces between them. -/
def print (ls : List Lexeme) : String := String.ofList ([' '].intercalate (ls.map written))

/-- How many bytes stand in front of what is written behind these lexemes. -/
def offset (before : List Lexeme) : Nat :=
  Text.utf8Length (before.flatMap fun l => l.written ++ [' '])

end Lexeme

variable {c : Char} {cs rest : List Char} {n : Int64} {q : Quote} {position : Nat}

/-- Nothing follows, or a space. -/
def Apart (rest : List Char) : Prop := ∀ c ∈ rest.head?, c = ' '

/-! ## Numbers -/

/-- Digits are taken up to what stands apart from them. -/
theorem takeNumber_digits (hcs : ∀ d ∈ cs, d.isDigit = true) (hrest : Apart rest) :
    takeNumber false false (cs ++ rest) = (false, cs, rest) := by
  induction cs with
  | nil =>
    cases rest with
    | nil => rfl
    | cons c rest =>
      obtain rfl := hrest c rfl
      rw [List.nil_append, takeNumber.eq_def]
      rfl
  | cons d cs ih =>
    rw [List.forall_mem_cons] at hcs
    rw [List.cons_append, takeNumber.eq_def]
    simp only [hcs.1, Bool.true_or, if_true, ih hcs.2]

/-- A number that is not negative is read as it is written. -/
theorem integer?_toDigits (h : 0 ≤ n.toInt) :
    Decimal.integer? (String.ofList (Nat.toDigits 10 n.toInt.toNat)) = some n := by
  have hdigits : ∀ c ∈ Nat.toDigits 10 n.toInt.toNat, c.isDigit = true := fun c hc =>
    Nat.isDigit_of_mem_toDigits (by decide) (by decide) hc
  have hne : Nat.toDigits 10 n.toInt.toNat ≠ [] := List.length_pos_iff.1 Nat.length_toDigits_pos
  have hsign : Decimal.takeSign (Nat.toDigits 10 n.toInt.toNat) =
      (false, Nat.toDigits 10 n.toInt.toNat) := by
    unfold Decimal.takeSign
    split
    · next heq => exact absurd (hdigits '-' (heq ▸ List.mem_cons_self)) (by decide)
    · next heq => exact absurd (hdigits '+' (heq ▸ List.mem_cons_self)) (by decide)
    · rfl
  have hvalue : (Decimal.ofDigits (Nat.toDigits 10 n.toInt.toNat) : Int) = n.toInt := by
    rw [Decimal.ofDigits, Decimal.ofDigitsFrom, ← Nat.ofDigitChars_eq_foldl,
      Nat.ofDigitChars_ten_toDigits, Int.toNat_of_nonneg h]
  simp only [Decimal.integer?, String.toList_ofList, hsign]
  rw [if_pos ⟨hne, List.all_eq_true.2 hdigits⟩]
  simp only [Bool.false_eq_true, if_false, hvalue]
  rw [if_pos ⟨n.minValue_le_toInt, n.toInt_le⟩, Int64.ofInt_toInt]

/-- The digits of a number are read as the number. -/
theorem ofNumber_toDigits (h : 0 ≤ n.toInt) :
    Token.Kind.ofNumber false (Nat.toDigits 10 n.toInt.toNat) = .ok (.int n) := by
  have hfilter : (Nat.toDigits 10 n.toInt.toNat).filter (· != '_') =
      Nat.toDigits 10 n.toInt.toNat := by
    refine List.filter_eq_self.2 fun c hc => bne_iff_ne.2 ?_
    rintro rfl
    exact Nat.underscore_not_in_toDigits hc
  simp only [Token.Kind.ofNumber, hfilter, integer?_toDigits h, Bool.false_eq_true, if_false]

/-! ## Texts between quotes -/

/-- A string that is written with its escapes is read back. -/
theorem takeQuoted?_escape (s rest : List Char) :
    takeQuoted? q.char (q.escape s ++ q.char :: rest) = some (s, q.escape s ++ [q.char], rest) := by
  have hq : q.char ≠ '\\' := by cases q <;> decide
  induction s with
  | nil =>
    rw [Quote.escape, List.flatMap_nil, List.nil_append, takeQuoted?.eq_def]
    simp [hq]
  | cons c s ih =>
    rw [Quote.escape, List.flatMap_cons, ← Quote.escape, List.append_assoc, takeQuoted?.eq_def]
    by_cases hc : c = '\\' ∨ c = q.char
    · have hsaid : unescape c = c := by
        rcases hc with rfl | rfl
        · rfl
        · cases q <;> rfl
      simp [hc, ih, hsaid]
    · rw [not_or] at hc
      simp [hc, ih]

/-! ## Words -/

/-- The words with a meaning are made of letters. -/
theorem exists_chars_of_ofWord? {word : String} {k : Keyword} (h : Keyword.ofWord? word = some k) :
    ∃ c cs, word.toList = c :: cs ∧ startsName c = true ∧ ∀ d ∈ cs, continuesName d = true := by
  have hletters : word.toList ≠ [] ∧ word.toList.all Char.isAlpha = true := by
    unfold Keyword.ofWord? at h
    split at h
    case h_14 => cases h
    all_goals decide
  obtain ⟨c, cs, hcs⟩ := List.exists_cons_of_ne_nil hletters.1
  rw [hcs, List.all_eq_true, List.forall_mem_cons] at hletters
  refine ⟨c, cs, hcs, ?_, fun d hd => ?_⟩
  · rw [startsName, Text.isAlphabetic_of_isAlpha hletters.2.1, Bool.true_or]
  · rw [continuesName, Text.isAlphabetic_of_isAlpha (hletters.2.2 d hd), Bool.true_or, Bool.true_or]

/-! ## Lexemes -/

/-- What a lexeme is written as is not blank in front, and is taken as the token that it is. -/
theorem takeToken_written (l : Lexeme) (hrest : Apart rest) :
    ∃ c cs, l.written = c :: cs ∧ Text.isBlank c = false ∧
      takeToken c (cs ++ rest) = .ok (l.kind, cs, rest) := by
  have hspace : ∀ d ∈ rest.head?, continuesName d = false := by
    intro d hd
    obtain rfl := hrest d hd
    decide
  cases l with
  | int n h =>
    obtain ⟨c, cs, hcs⟩ := List.exists_cons_of_ne_nil
      (List.length_pos_iff.1 (Nat.length_toDigits_pos (b := 10) (n := n.toInt.toNat)))
    have hdigits : ∀ d ∈ c :: cs, d.isDigit = true := fun d hd =>
      Nat.isDigit_of_mem_toDigits (by decide) (by decide) (hcs ▸ hd)
    rw [List.forall_mem_cons] at hdigits
    refine ⟨c, cs, hcs, Text.isBlank_eq_false_of_isDigit hdigits.1, ?_⟩
    have hkind := ofNumber_toDigits h
    rw [hcs] at hkind
    simp only [takeToken, hdigits.1, if_true, takeNumber_digits hdigits.2 hrest, hkind,
      Lexeme.kind]
  | name n h =>
    obtain ⟨c, cs, hn, hc, hcs⟩ := h.chars
    refine ⟨c, cs, hn, isBlank_eq_false_of_startsName hc, ?_⟩
    rw [takeToken_of_startsName hc hcs hspace, ← hn, String.ofList_toList, Token.Kind.ofWord,
      h.ofWord?_eq, Lexeme.kind]
  | keyword k word h =>
    obtain ⟨c, cs, hword, hc, hcs⟩ := exists_chars_of_ofWord? h
    refine ⟨c, cs, hword, isBlank_eq_false_of_startsName hc, ?_⟩
    rw [takeToken_of_startsName hc hcs hspace, ← hword, String.ofList_toList, Token.Kind.ofWord, h,
      Lexeme.kind]
  | str q s =>
    refine ⟨q.char, q.escape s.toList ++ [q.char], rfl, by cases q <;> decide, ?_⟩
    have hdigit : q.char.isDigit = false := by cases q <;> decide
    have hstarts : startsName q.char = false := by cases q <;> decide
    have hquote : q.char = '"' ∨ q.char = '\'' := by cases q <;> decide
    rw [List.append_assoc, List.singleton_append]
    simp only [takeToken, hdigit, hstarts, Bool.false_eq_true, if_false, hquote, if_true,
      takeQuoted?_escape, String.ofList_toList, Lexeme.kind]
  | mark m =>
    cases rest with
    | nil => cases m <;> exact ⟨_, _, rfl, by decide, rfl⟩
    | cons d rest =>
      obtain rfl := hrest d rfl
      cases m <;> exact ⟨_, _, rfl, by decide, rfl⟩

namespace Lexeme

theorem offset_cons (l : Lexeme) (before : List Lexeme) :
    offset (l :: before) = Text.utf8Length l.written + 1 + offset before := by
  rw [offset, List.flatMap_cons, Text.utf8Length_append, Text.utf8Length_append, offset]
  rfl

/-- What is written of lexemes behind another one. -/
def behind (ls : List Lexeme) : List Char :=
  if ls = [] then [] else ' ' :: [' '].intercalate (ls.map written)

/-- What follows a written lexeme stands apart from it. -/
theorem apart_behind (ls : List Lexeme) : Apart (behind ls) := by
  rw [Apart, behind]
  split <;> simp

theorem intercalate_cons (l : Lexeme) (ls : List Lexeme) :
    [' '].intercalate ((l :: ls).map written) = l.written ++ behind ls := by
  cases ls with
  | nil => simp [behind]
  | cons k ls => simp [behind]

theorem tokensFrom_behind (ls : List Lexeme) (position : Nat) :
    tokensFrom position (behind ls) =
      tokensFrom (position + 1) ([' '].intercalate (ls.map written)) := by
  rw [behind]
  split
  · next hls => rw [hls, List.map_nil, List.intercalate_nil, tokensFrom, tokensFrom]
  · rw [tokensFrom_cons_of_isBlank _ (by decide)]
    rfl

end Lexeme

/-- Lexemes that are written with blanks between them are read back, at the places where they were
written. -/
theorem tokensFrom_print (ls : List Lexeme) (position : Nat) :
    tokensFrom position ([' '].intercalate (ls.map Lexeme.written)) =
      .ok (ls.mapIdx fun i l => ⟨l.kind, position + Lexeme.offset (ls.take i)⟩) := by
  induction ls generalizing position with
  | nil =>
    rw [List.map_nil, List.intercalate_nil, tokensFrom]
    rfl
  | cons l ls ih =>
    obtain ⟨c, cs, hl, hc, htake⟩ := takeToken_written l (Lexeme.apart_behind ls)
    rw [Lexeme.intercalate_cons, hl, List.cons_append, tokensFrom_cons_of_takeToken hc htake,
      Lexeme.tokensFrom_behind, ih, ← hl, List.mapIdx_cons]
    simp only [List.take_succ_cons, Lexeme.offset_cons, Nat.add_assoc]
    rfl

/-- What is written of lexemes with another one among them. -/
theorem Lexeme.toList_print_append_cons (before : List Lexeme) (l : Lexeme) (after : List Lexeme) :
    (print (before ++ l :: after)).toList =
      (before.flatMap fun k => k.written ++ [' ']) ++ (l.written ++ behind after) := by
  rw [print, String.toList_ofList]
  induction before with
  | nil => exact intercalate_cons l after
  | cons k before ih =>
    have hbehind : behind (before ++ l :: after) =
        ' ' :: [' '].intercalate ((before ++ l :: after).map written) := if_neg (by simp)
    rw [List.cons_append, intercalate_cons, hbehind, ih, List.flatMap_cons, List.append_assoc,
      List.append_assoc]
    rfl

/-- The tokens of lexemes that are written with single spaces between them are theirs in order, each
at its offset, and this is how many bytes stand in front of where it is written. -/
theorem tokens_print :
    (∀ ls, tokens (Lexeme.print ls) =
      .ok (ls.mapIdx fun i l => ⟨l.kind, Lexeme.offset (ls.take i)⟩)) ∧
    ∀ before l after, ∃ front back,
      (Lexeme.print (before ++ l :: after)).toList = front ++ (l.written ++ back) ∧
        Text.utf8Length front = Lexeme.offset before := by
  constructor
  · intro ls
    rw [tokens, Lexeme.print, String.toList_ofList, tokensFrom_print]
    simp only [Nat.zero_add]
  · intro before l after
    exact ⟨_, _, Lexeme.toList_print_append_cons before l after, rfl⟩

end Stencil.Expr
