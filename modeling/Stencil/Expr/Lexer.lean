import Stencil.Decimal.Written
import Stencil.Expr.SyntaxError
import Stencil.Text.Blank
import Stencil.Text.Letter
import Stencil.Text.Offset

/-!
# Cutting text into tokens

A token is read off the front of the text as a lexeme, the characters it is written with, and what
these say. Blanks between tokens are skipped.
-/

namespace Stencil.Expr

/-- A number off the front of a text: whether it is written as a float, its characters, and the
rest. Digits may be grouped by `_`. A point counts if no point or exponent came before and a digit
follows; there is one exponent at most, whose sign belongs to it. -/
def takeNumber (float exponent : Bool) : List Char → Bool × List Char × List Char
  | [] => (float, [], [])
  | c :: cs =>
    if c.isDigit || c == '_' then
      let (isFloat, number, rest) := takeNumber float exponent cs
      (isFloat, c :: number, rest)
    else if c == '.' && !float && (cs.head?.map Char.isDigit).getD false then
      let (isFloat, number, rest) := takeNumber true exponent cs
      (isFloat, c :: number, rest)
    else if (c == 'e' || c == 'E') && !exponent then
      match cs with
      | [] => (true, [c], [])
      | s :: cs =>
        if s == '+' || s == '-' then
          let (isFloat, number, rest) := takeNumber true true cs
          (isFloat, c :: s :: number, rest)
        else
          let (isFloat, number, rest) := takeNumber true true (s :: cs)
          (isFloat, c :: number, rest)
    else (float, [], c :: cs)

/-- What the character after a backslash stands for. -/
def unescape : Char → Char
  | 'n' => '\n'
  | 't' => '\t'
  | 'r' => '\r'
  | '0' => '\x00'
  | c => c

/-- The inside of a quoted text up to the closing quote: what it says, its characters with the
closing quote, and the rest. -/
def takeQuoted? (quote : Char) : List Char → Option (List Char × List Char × List Char)
  | [] => none
  | c :: cs =>
    if c = '\\' then
      match cs with
      | [] => none
      | e :: cs =>
        (takeQuoted? quote cs).map fun (said, written, rest) =>
          (unescape e :: said, c :: e :: written, rest)
    else if c = quote then some ([], [c], cs)
    else
      (takeQuoted? quote cs).map fun (said, written, rest) =>
        (c :: said, c :: written, rest)

/-- The mark at the front of a text, and whether it takes two characters. -/
def Mark.ofChars? (c : Char) (next : Option Char) : Option (Mark × Bool) :=
  match c, next with
  | '=', some '=' => some (eq, true)
  | '!', some '=' => some (ne, true)
  | '<', some '=' => some (le, true)
  | '>', some '=' => some (ge, true)
  | '/', some '/' => some (doubleSlash, true)
  | '=', _ => some (assign, false)
  | '<', _ => some (lt, false)
  | '>', _ => some (gt, false)
  | '/', _ => some (slash, false)
  | '(', _ => some (leftParen, false)
  | ')', _ => some (rightParen, false)
  | '[', _ => some (leftBracket, false)
  | ']', _ => some (rightBracket, false)
  | ',', _ => some (comma, false)
  | '.', _ => some (dot, false)
  | '+', _ => some (plus, false)
  | '-', _ => some (minus, false)
  | '*', _ => some (star, false)
  | '%', _ => some (percent, false)
  | _, _ => none

/-- Whether a name can start with the character. -/
def startsName (c : Char) : Bool := Text.isAlphabetic c || c == '_'

/-- Whether a name can go on with the character. -/
def continuesName (c : Char) : Bool := Text.isAlphabetic c || Text.isNumeric c || c == '_'

/-- What a word says. -/
def Token.Kind.ofWord (word : String) : Kind :=
  match Keyword.ofWord? word with
  | some k => keyword k
  | none => name word

/-- What the characters of a number say. -/
def Token.Kind.ofNumber (isFloat : Bool) (written : List Char) :
    Except SyntaxError.Reason Kind :=
  let text := String.ofList (written.filter (· != '_'))
  if isFloat then
    match Decimal.float? text with
    | some x => .ok (float x)
    | none => .error (.badNumber text)
  else
    match Decimal.integer? text with
    | some n => .ok (int n)
    | none => .error (.badInteger text)

/-- The token that starts with the character `c`, which is not blank: what it says, how its
characters go on, and the rest. -/
def takeToken (c : Char) (cs : List Char) :
    Except SyntaxError.Reason (Token.Kind × List Char × List Char) :=
  if c.isDigit then
    match takeNumber false false cs with
    | (isFloat, written, rest) =>
      match Token.Kind.ofNumber isFloat (c :: written) with
      | .ok kind => .ok (kind, written, rest)
      | .error reason => .error reason
  else if startsName c then
    let written := cs.takeWhile continuesName
    .ok (.ofWord (String.ofList (c :: written)), written, cs.dropWhile continuesName)
  else if c = '"' ∨ c = '\'' then
    match takeQuoted? c cs with
    | some (said, written, rest) => .ok (.str (String.ofList said), written, rest)
    | none => .error .unclosedText
  else
    match Mark.ofChars? c cs.head? with
    | some (mark, true) => .ok (.mark mark, cs.take 1, cs.drop 1)
    | some (mark, false) => .ok (.mark mark, [], cs)
    | none => .error (.unexpectedCharacter c)

theorem takeNumber_append (float exponent : Bool) (cs : List Char) :
    (takeNumber float exponent cs).2.1 ++ (takeNumber float exponent cs).2.2 = cs := by
  fun_induction takeNumber float exponent cs <;> simp_all

theorem takeQuoted?_append {quote : Char} {cs said written rest : List Char}
    (h : takeQuoted? quote cs = some (said, written, rest)) : written ++ rest = cs := by
  fun_induction takeQuoted? quote cs generalizing said written rest with
  | case1 => simp at h
  | case2 => simp at h
  | case3 e cs ih =>
    obtain ⟨⟨s, w, r⟩, hr, heq⟩ := Option.map_eq_some_iff.1 h
    simp only [Prod.mk.injEq] at heq
    obtain ⟨-, rfl, rfl⟩ := heq
    simp [ih hr]
  | case4 =>
    simp only [Option.some.injEq, Prod.mk.injEq] at h
    obtain ⟨-, rfl, rfl⟩ := h
    rfl
  | case5 c cs _ _ ih =>
    obtain ⟨⟨s, w, r⟩, hr, heq⟩ := Option.map_eq_some_iff.1 h
    simp only [Prod.mk.injEq] at heq
    obtain ⟨-, rfl, rfl⟩ := heq
    simp [ih hr]

/-- A token takes its characters off the front of the text. -/
theorem takeToken_append {c : Char} {cs written rest : List Char} {kind : Token.Kind}
    (h : takeToken c cs = .ok (kind, written, rest)) : written ++ rest = cs := by
  unfold takeToken at h
  split at h
  · have := takeNumber_append false false cs
    split at h
    split at h <;> simp_all
  · split at h
    · simp only [Except.ok.injEq, Prod.mk.injEq] at h
      obtain ⟨-, rfl, rfl⟩ := h
      simp
    · split at h
      · split at h
        · rename_i hq
          simp only [Except.ok.injEq, Prod.mk.injEq] at h
          obtain ⟨-, rfl, rfl⟩ := h
          exact takeQuoted?_append hq
        · simp at h
      · split at h
        · simp only [Except.ok.injEq, Prod.mk.injEq] at h
          obtain ⟨-, rfl, rfl⟩ := h
          exact List.take_append_drop 1 cs
        · simp_all
        · simp at h

/-- The tokens of a text that starts at the given offset. -/
def tokensFrom (position : Nat) (cs : List Char) : Except SyntaxError (List Token) :=
  match cs with
  | [] => .ok []
  | c :: cs =>
    if Text.isBlank c then tokensFrom (position + c.utf8Size) cs
    else
      match _h : takeToken c cs with
      | .error reason => .error ⟨position, reason⟩
      | .ok (kind, written, rest) =>
        match tokensFrom (position + Text.utf8Length (c :: written)) rest with
        | .error e => .error e
        | .ok tokens => .ok (⟨kind, position⟩ :: tokens)
termination_by cs.length
decreasing_by
  · simp
  · have := congrArg List.length (takeToken_append _h)
    simp at this ⊢
    omega

/-- The tokens of a text. -/
def tokens (text : String) : Except SyntaxError (List Token) := tokensFrom 0 text.toList

end Stencil.Expr
