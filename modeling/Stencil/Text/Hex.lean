/-!
# Hexadecimal digits
-/

namespace Stencil.Text

/-- The two hexadecimal digits of a byte, letters small. -/
def hexByte (b : UInt8) : List Char :=
  [Nat.digitChar (b.toNat / 16), Nat.digitChar (b.toNat % 16)]

/-- The hexadecimal digits of bytes. -/
def hex (bytes : List UInt8) : String := String.ofList (bytes.flatMap hexByte)

end Stencil.Text
