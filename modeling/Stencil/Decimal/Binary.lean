/-!
# Binary fractions

The real number that a finite `Float` stands for, as an integer times a power of two.
-/

namespace Stencil.Decimal

/-- The number `mantissa * 2 ^ exponent`, negated if `negative`. -/
structure Binary where
  negative : Bool
  mantissa : Nat
  exponent : Int
deriving DecidableEq

/-- What a float stands for. -/
inductive Reading where
  | nan
  | infinite (negative : Bool)
  | finite (value : Binary)
deriving DecidableEq

/-- What the first bit of a full mantissa counts: one more than 52 bits can hold. -/
def hiddenBit : Nat := 1 <<< 52

/-- The reading of a 64-bit pattern: one sign bit, eleven bits of exponent, 52 bits of fraction. -/
def Reading.ofBits (bits : Nat) : Reading :=
  let negative : Bool := bits >>> 63 % 2 == 1
  let field : Nat := bits >>> 52 % 2048
  let fraction : Nat := bits % hiddenBit
  if field == 2047 then
    if fraction == 0 then .infinite negative else .nan
  else if field == 0 then .finite ⟨negative, fraction, -1074⟩
  else .finite ⟨negative, hiddenBit + fraction, Int.ofNat field - 1075⟩

/-- The reading of a float. -/
def Reading.ofFloat (x : Float) : Reading := ofBits x.toBits.toNat

end Stencil.Decimal
