import CaptureKit.Text.Range

/-!
# White space

Two notions of empty space occur.  A *blank* is a space or a tab, the only
characters that separate the parts of a log line.  *White space* is the wider class
that trimming removes.
-/

namespace CaptureKit
namespace Text

/-- White space above ASCII. -/
def whiteRanges : RangeTable := [
  (0x85, 0x85), (0xA0, 0xA0), (0x1680, 0x1680), (0x2000, 0x200A), (0x2028, 0x2029),
  (0x202F, 0x202F), (0x205F, 0x205F), (0x3000, 0x3000)]

/-- White space: the ASCII controls 9 to 13, the space, and the table above. -/
def isWhite (c : Char) : Bool :=
  classOf (fun c => c == ' ' || (9 ≤ c.toNat && c.toNat ≤ 13)) whiteRanges c

/-- A space or a tab. -/
def isBlank (c : Char) : Bool :=
  c == ' ' || c == '\t'

/-- White space taken off the end. -/
def trimEnd (s : List Char) : List Char :=
  (s.reverse.dropWhile isWhite).reverse

/-- White space taken off both ends. -/
def trim (s : List Char) : List Char :=
  trimEnd (s.dropWhile isWhite)

end Text
end CaptureKit
