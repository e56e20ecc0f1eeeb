import Stencil.Decimal.Binary

/-!
# Shortest decimals

The decimal with the fewest digits that still rounds to a given binary fraction.

The reals that round to `m * 2 ^ q` form an interval around it. For one digit, two digits and so
on, the two neighbours of the value on that decimal grid are tried; the first grid with a point in
the interval wins, and of two points the nearer one. On a tie the upper one is taken.
-/

namespace Stencil.Decimal

/-- The number `significand * 10 ^ exponent`. -/
structure Scientific where
  significand : Nat
  exponent : Int
deriving DecidableEq

/-- The reals that round to a number, all bounds over the one denominator `scale`. -/
structure Interval where
  low : Nat
  value : Nat
  high : Nat
  scale : Nat
  /-- Whether the two ends belong to it. -/
  closed : Bool

/-- The interval of a mantissa and an exponent. Below a power of two the spacing halves, except
at the bottom of the range. -/
def Interval.around (mantissa : Nat) (exponent : Int) : Interval :=
  let below := if mantissa == hiddenBit && exponent != -1074 then 1 else 2
  let up := 1 <<< exponent.toNat
  let scale := 4 <<< (-exponent).toNat
  { low := (4 * mantissa - below) * up
    value := 4 * mantissa * up
    high := (4 * mantissa + 2) * up
    scale
    closed := mantissa % 2 == 0 }

/-- Whether `point / den` lies in the interval. -/
def Interval.holds (i : Interval) (point den : Nat) : Bool :=
  let p := point * i.scale
  if i.closed then i.low * den ≤ p && p ≤ i.high * den
  else i.low * den < p && p < i.high * den

/-- The point of the grid of multiples of `10 ^ exponent` that stands for the interval, if the
grid has one in it. -/
def Interval.onGrid? (i : Interval) (exponent : Int) : Option Scientific :=
  let step := Nat.pow 10 exponent.toNat
  let den := Nat.pow 10 (-exponent).toNat
  let point := i.value * den / (i.scale * step)
  let rest := i.value * den % (i.scale * step)
  let lower := i.holds (point * step) den
  let upper := i.holds ((point + 1) * step) den
  if upper && (!lower || i.scale * step ≤ 2 * rest) then some ⟨point + 1, exponent⟩
  else if lower then some ⟨point, exponent⟩
  else none

/-- The least `e` with `value < scale * 10 ^ e`, searched downwards from `start`. -/
def magnitude (value scale : Nat) : (fuel : Nat) → (start : Int) → Int
  | 0, start => start
  | fuel + 1, start =>
    if value * Nat.pow 10 (1 - start).toNat < scale * Nat.pow 10 (start - 1).toNat then
      magnitude value scale fuel (start - 1)
    else start

/-- Tries the grids of more and more digits. -/
def Interval.shortestFrom (i : Interval) (exponent : Int) : (tries : Nat) → Scientific
  | 0 => ⟨i.value / i.scale, 0⟩
  | tries + 1 =>
    match i.onGrid? exponent with
    | some s => s
    | none => i.shortestFrom (exponent - 1) tries

/-- Drops the zeros at the end of the digits. -/
def Scientific.stripped : (fuel : Nat) → Scientific → Scientific
  | 0, s => s
  | fuel + 1, s =>
    if s.significand != 0 && s.significand % 10 == 0 then
      stripped fuel ⟨s.significand / 10, s.exponent + 1⟩
    else s

/-- The shortest decimal of a positive number `mantissa * 2 ^ exponent`. -/
def shortest (mantissa : Nat) (exponent : Int) : Scientific :=
  if mantissa == 0 then ⟨0, 0⟩
  else
    let i := Interval.around mantissa exponent
    let bits : Int := (Nat.log2 mantissa : Int) + exponent
    let start := if bits < 0 then bits * 301 / 1000 + 2 else bits * 302 / 1000 + 2
    let top := magnitude i.value i.scale 4 start
    (i.shortestFrom (top - 1) 18).stripped 20

end Stencil.Decimal
