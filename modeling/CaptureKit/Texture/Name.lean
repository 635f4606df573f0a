import CaptureKit.Text.Digit
import CaptureKit.Text.Template

/-!
# Names of dumped textures

A dumped texture is named after its event and its texture slot, such as
`EID_123_tex0-1234.png`.  After the dash there is at least one character on the same
line; what follows it is free.
-/

namespace CaptureKit
namespace Texture

open Text

/-- The beginning that makes a name the name of a texture. -/
def nameTemplate : Template :=
  [(Shape.literal "EID_".toList).skip, (Shape.atLeastOne isDecimalDigit).skip,
    (Shape.literal "_tex".toList).skip, (Shape.atLeastOne isDecimalDigit).skip,
    (Shape.literal "-".toList).skip, (Shape.one (· != '\n')).skip]

/-- The name of a dumped texture. -/
def isDumpName (name : List Char) : Bool :=
  (nameTemplate.read name).isSome

end Texture
end CaptureKit
