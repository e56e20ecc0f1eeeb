/-!
# Written numbers

Reading decimal numbers. A number is rounded to the nearest float, ties to even, so a number that
is too large becomes infinite and one that is too small becomes zero.
-/

namespace Stencil.Decimal

/-- Appends decimal digits to a number. -/
def ofDigitsFrom (n : Nat) (cs : List Char) : Nat :=
  cs.foldl (fun n c => 10 * n + (c.toNat - '0'.toNat)) n

/-- The number with these decimal digits. -/
def ofDigits (cs : List Char) : Nat := ofDigitsFrom 0 cs

/-- The float nearest to `digits * 10 ^ exponent`. Exponents far out of range are not expanded. -/
def nearest (digits : Nat) (exponent : Int) : Float :=
  if digits == 0 then 0.0
  else
    let top := (Nat.log2 digits : Int) * 302 / 1000 + 1 + exponent
    if 400 < (Nat.log2 digits : Int) * 301 / 1000 + exponent then 1.0 / 0.0
    else if top < -400 then 0.0
    else
      match exponent with
      | .ofNat e => Float.ofScientific digits false e
      | .negSucc e => Float.ofScientific digits true (e + 1)

/-- An optional sign, and what follows it. -/
def takeSign : List Char → Bool × List Char
  | '-' :: cs => (true, cs)
  | '+' :: cs => (false, cs)
  | cs => (false, cs)

/-- An exponent: nothing, or the letter, an optional sign and at least one digit. -/
def exponent? : List Char → Option Int
  | [] => some 0
  | c :: cs =>
    if c == 'e' || c == 'E' then
      let (negative, ds) := takeSign cs
      if ds ≠ [] ∧ ds.all Char.isDigit then
        some (if negative then -(ofDigits ds : Int) else ofDigits ds)
      else none
    else none

/-- A number without a sign: digits with at most one point and an optional exponent. -/
def unsigned? (cs : List Char) : Option Float :=
  let whole := cs.takeWhile Char.isDigit
  let (fraction, rest) :=
    match cs.dropWhile Char.isDigit with
    | '.' :: after => (after.takeWhile Char.isDigit, after.dropWhile Char.isDigit)
    | after => ([], after)
  if whole = [] ∧ fraction = [] then none
  else (exponent? rest).map fun e => nearest (ofDigits (whole ++ fraction)) (e - fraction.length)

/-- A number, `inf`, `infinity` or `nan` in any case, with an optional sign. -/
def float? (s : String) : Option Float :=
  let (negative, cs) := takeSign s.toList
  let word := String.ofList (cs.map Char.toLower)
  let magnitude :=
    if word = "inf" ∨ word = "infinity" then some (1.0 / 0.0)
    else if word = "nan" then some (0.0 / 0.0)
    else unsigned? cs
  magnitude.map fun x => if negative then -x else x

/-- A whole number that fits 64 bits with a sign. -/
def integer? (s : String) : Option Int64 :=
  let (negative, cs) := takeSign s.toList
  if cs ≠ [] ∧ cs.all Char.isDigit then
    let n : Int := if negative then -(ofDigits cs : Int) else ofDigits cs
    if Int64.minValue.toInt ≤ n ∧ n ≤ Int64.maxValue.toInt then some (Int64.ofInt n) else none
  else none

end Stencil.Decimal
