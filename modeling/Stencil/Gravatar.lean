import Stencil.Decimal.Layout
import Stencil.Digest.Sha256
import Stencil.Text.Blank
import Stencil.Text.Hex
import Stencil.Text.Lowercase

/-!
# Avatars

Pictures of people by their mail address. The address is not shown, only its digest.
-/

namespace Stencil.Gravatar

/-- The size of a picture unless another is asked for. -/
def defaultSize : Int64 := 100

/-- The address of the picture for a mail address, whose case and outer blanks do not count. -/
def address (email : String) (size : Int64) : String :=
  let key := Text.lowercase (Text.trimmed email)
  "https://www.gravatar.com/avatar/" ++ Text.hex (Digest.Sha256.digest key.toUTF8.toList)
    ++ "?s=" ++ Decimal.integer size.toInt

end Stencil.Gravatar
