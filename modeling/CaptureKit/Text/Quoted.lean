import CaptureKit.Text.Numeral
import CaptureKit.Text.Printable

/-!
# Quoted text in messages

A message that names a path or an entry puts it between double quotes.  Inside, the
usual controls have a letter, the backslash and the double quote are marked by a
backslash, and every other character without a picture of its own is spelled by its
number.
-/

namespace CaptureKit
namespace Text

/-- How one character stands inside quotes. -/
def spelling (c : Char) : List Char :=
  if c.toNat = 0 then ['\\', '0']
  else if c = '\t' then ['\\', 't']
  else if c = '\r' then ['\\', 'r']
  else if c = '\n' then ['\\', 'n']
  else if c = '\\' ∨ c = '"' then ['\\', c]
  else if isHidden c then "\\u\x7b".toList ++ Nat.toDigits 16 c.toNat ++ ['\x7d']
  else [c]

/-- A text between double quotes. -/
def quoted (s : String) : String :=
  String.ofList ('"' :: (s.toList.flatMap spelling ++ ['"']))

end Text
end CaptureKit
