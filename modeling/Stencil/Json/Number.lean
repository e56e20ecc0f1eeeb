import Stencil.Json.Basic

/-!
# Numbers in JSON

A whole number that fits 64 bits is read exactly. Any other number is read quickly rather than
exactly: as many digits as fit 64 bits are taken as an integer, and this is multiplied or divided
by a power of ten, so the last bit may be off. A number that is too large is refused.
-/

namespace Stencil.Json.Number

/-- The written parts of a number. -/
structure Parts where
  negative : Bool
  whole : List Char
  /-- The digits after the point, if there is one. -/
  fraction? : Option (List Char)
  /-- The sign and the digits of the exponent, if there is one. -/
  exponent? : Option (Bool × List Char)

/-- Digits off the front of a text, at least one. -/
def digits? (cs : List Char) : Option (List Char × List Char) :=
  let ds := cs.takeWhile Char.isDigit
  if ds.isEmpty then none else some (ds, cs.dropWhile Char.isDigit)

/-- The parts of a number off the front of a text, and the rest. -/
def parts? (cs : List Char) : Option (Parts × List Char) := do
  let (negative, cs) :=
    match cs with
    | '-' :: cs => (true, cs)
    | cs => (false, cs)
  let (whole, cs) ← digits? cs
  if whole.length > 1 ∧ whole.head? = some '0' then none
  let (fraction?, cs) ←
    match cs with
    | '.' :: cs => do
      let (ds, cs) ← digits? cs
      pure (some ds, cs)
    | cs => pure (none, cs)
  match cs with
  | c :: cs =>
    if c = 'e' ∨ c = 'E' then
      let (down, cs) :=
        match cs with
        | '-' :: cs => (true, cs)
        | '+' :: cs => (false, cs)
        | cs => (false, cs)
      let (ds, cs) ← digits? cs
      return (⟨negative, whole, fraction?, some (down, ds)⟩, cs)
    else return (⟨negative, whole, fraction?, none⟩, c :: cs)
  | [] => return (⟨negative, whole, fraction?, none⟩, [])

/-- Takes digits into a number as long as it fits into 64 bits, and counts them. -/
def takeDigits (n : Nat) (count : Nat) : List Char → Nat × Nat
  | [] => (n, count)
  | d :: ds =>
    let next := 10 * n + (d.toNat - '0'.toNat)
    if next < UInt64.size then takeDigits next (count + 1) ds else (n, count)

/-- The power of ten as a float. -/
def power (e : Nat) : Float := Float.ofScientific 1 false e

/-- The number times ten to an exponent, if it is finite. Steps of `10 ^ 308` are taken while the
exponent is below what one division can do. -/
def scale (x : Float) (exponent : Int) : (steps : Nat) → Option Float
  | 0 => some 0.0
  | steps + 1 =>
    if exponent.natAbs ≤ 308 then
      if 0 ≤ exponent then
        let y := x * power exponent.natAbs
        if y.isInf then none else some y
      else some (x / power exponent.natAbs)
    else if x == 0.0 then some x
    else if 0 ≤ exponent then none
    else scale (x / power 308) (exponent + 308) steps

/-- The largest exponent that is counted. -/
def maxExponent : Nat := 2147483647

/-- The number that the digits of an exponent say, if it is not too large. -/
def exponentOf? (ds : List Char) : Option Nat :=
  let n := ds.foldl (fun n d => min (maxExponent + 1) (10 * n + (d.toNat - '0'.toNat))) 0
  if n ≤ maxExponent then some n else none

/-- The document of the parts of a number, if it is not too large. -/
def Parts.json? (p : Parts) : Option Json :=
  let (n, count) := takeDigits 0 0 p.whole
  let dropped := p.whole.length - count
  let signed (x : Float) : Json := .float (if p.negative then -x else x)
  match p.fraction?, p.exponent? with
  | none, none =>
    if dropped = 0 then
      let i : Int := if p.negative then -(n : Int) else n
      if p.negative && n == 0 then some (.float (-0.0))
      else if Int64.minValue.toInt ≤ i ∧ i ≤ Int64.maxValue.toInt then some (.int (Int64.ofInt i))
      else some (signed (UInt64.ofNat n).toFloat)
    else (scale (UInt64.ofNat n).toFloat dropped 4).map signed
  | fraction?, exponent? =>
    let (n, places) := takeDigits n 0 (fraction?.getD [])
    let start : Int := (dropped : Int) - places
    match exponent? with
    | none => (scale (UInt64.ofNat n).toFloat start 4).map signed
    | some (down, ds) =>
      match exponentOf? ds with
      | some e =>
        let exponent := if down then start - e else start + e
        (scale (UInt64.ofNat n).toFloat exponent 4).map signed
      | none => if n ≠ 0 ∧ ¬ down then none else some (signed 0.0)

end Stencil.Json.Number
