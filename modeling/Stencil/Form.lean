import Stencil.Text.Hex

/-!
# Form encoding

The query string of an address: pairs of names and values, joined by `&`. Letters, digits and
`*-._` stand for themselves, a space is written `+`, and every other byte is written as `%` and two
capital hexadecimal digits.
-/

namespace Stencil.Form

/-- Whether the byte stands for itself. -/
def isPlain (b : UInt8) : Bool :=
  let c := Char.ofUInt8 b
  c.isAlphanum || c == '*' || c == '-' || c == '.' || c == '_'

/-- The written form of a byte. -/
def encodeByte (b : UInt8) : List Char :=
  if isPlain b then [Char.ofUInt8 b]
  else if b == 0x20 then ['+']
  else '%' :: (Text.hexByte b).map Char.toUpper

/-- The written form of a name or a value. -/
def encodeText (s : String) : String := String.ofList (s.toUTF8.toList.flatMap encodeByte)

/-- The written form of the pairs. -/
def encode (pairs : List (String × String)) : String :=
  "&".intercalate (pairs.map fun (name, value) => encodeText name ++ "=" ++ encodeText value)

end Stencil.Form
