import Stencil.Decimal.Shortest

/-!
# Layout of decimals

How the digits of a number are set: positionally, with zeros on either side of the point as
needed, or with an exponent.
-/

namespace Stencil.Decimal

/-- The digits of a natural number. -/
def digits (n : Nat) : List Char := Nat.toDigits 10 n

/-- The digits of an integer, with a sign if it is negative. -/
def integer (n : Int) : String :=
  String.ofList (if n < 0 then '-' :: digits n.natAbs else digits n.natAbs)

/-- At least `width` characters, filled up with `fill` on the left. -/
def padLeft (width : Nat) (fill : Char) (cs : List Char) : List Char :=
  List.replicate (width - cs.length) fill ++ cs

/-- The number without an exponent; a whole number has no point. -/
def Scientific.positional (s : Scientific) : List Char :=
  match s.exponent with
  | .ofNat e => if s.significand == 0 then ['0'] else digits s.significand ++ List.replicate e '0'
  | .negSucc e =>
    let cs := padLeft (e + 2) '0' (digits s.significand)
    cs.take (cs.length - (e + 1)) ++ '.' :: cs.drop (cs.length - (e + 1))

/-- The number with one digit before the point and an exponent. -/
def Scientific.exponential (s : Scientific) : List Char :=
  match digits s.significand with
  | [] => []
  | d :: ds =>
    let fraction := if ds = [] then [] else '.' :: ds
    d :: fraction ++ 'e' :: (integer (s.exponent + ds.length)).toList

/-- The sign of a negative number. -/
def sign (negative : Bool) : List Char := if negative then ['-'] else []

/-- Whether `10 ^ low ≤ s < 10 ^ high`, for `s` with at least one digit other than zero. -/
def Scientific.between (s : Scientific) (low high : Int) : Bool :=
  let top := s.exponent + (digits s.significand).length
  low < top && top ≤ high

/-- The text of a float in a page. Numbers never have an exponent; whole numbers below `10 ^ 16`
keep one decimal. -/
def page (x : Float) : String :=
  match Reading.ofFloat x with
  | .nan => "NaN"
  | .infinite negative => String.ofList (sign negative ++ "inf".toList)
  | .finite b =>
    let s := shortest b.mantissa b.exponent
    let whole := s.exponent ≥ 0 && (s.significand == 0 || s.between 0 16)
    String.ofList
      (sign b.negative ++ s.positional ++ if whole then ['.', '0'] else [])

/-- The text of a float in a message. Very large and very small numbers have an exponent, and
other whole numbers keep one decimal. -/
def message (x : Float) : String :=
  match Reading.ofFloat x with
  | .nan => "NaN"
  | .infinite negative => String.ofList (sign negative ++ "inf".toList)
  | .finite b =>
    let s := shortest b.mantissa b.exponent
    let body :=
      if s.significand == 0 || s.between (-4) 16 then
        s.positional ++ if s.exponent ≥ 0 then ['.', '0'] else []
      else s.exponential
    String.ofList (sign b.negative ++ body)

end Stencil.Decimal
