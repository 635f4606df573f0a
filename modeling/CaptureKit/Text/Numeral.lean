/-!
# Numbers in text

Instruction words are written as eight upper case hexadecimal digits and read from one
to eight digits of either case.  Counts and indices are decimal and fit 64 bits.
-/

namespace CaptureKit
namespace Text

/-- The value of a hexadecimal digit of either case. -/
def hexDigit? (c : Char) : Option Nat :=
  if '0' ≤ c ∧ c ≤ '9' then some (c.toNat - '0'.toNat)
  else if 'A' ≤ c ∧ c ≤ 'F' then some (c.toNat - 'A'.toNat + 10)
  else if 'a' ≤ c ∧ c ≤ 'f' then some (c.toNat - 'a'.toNat + 10)
  else none

/-- A hexadecimal digit of either case. -/
def isHexDigit (c : Char) : Bool :=
  (hexDigit? c).isSome

/-- The number that hexadecimal digits denote, most significant first. -/
def hexValue (digits : List Char) : Nat :=
  digits.foldl (fun value c => 16 * value + (hexDigit? c).getD 0) 0

/-- The upper case hexadecimal digit of a number below sixteen. -/
def upperHexDigit (n : Nat) : Char :=
  if n < 10 then Char.ofNat ('0'.toNat + n) else Char.ofNat ('A'.toNat + (n - 10))

/-- A word as eight upper case hexadecimal digits. -/
def eightDigits (w : UInt32) : List Char :=
  [28, 24, 20, 16, 12, 8, 4, 0].map fun shift => upperHexDigit (w.toNat >>> shift % 16)

/-- A word as it stands in listings, `0x` and eight upper case digits. -/
def wordText (w : UInt32) : List Char :=
  '0' :: 'x' :: eightDigits w

/-- A number in lower case hexadecimal without leading zeros. -/
def lowerHex (n : Nat) : String :=
  String.ofList (Nat.toDigits 16 n)

/-- The number that decimal digits denote; no digits denote zero. -/
def decimalValue (digits : List Char) : Nat :=
  Nat.ofDigitChars 10 digits 0

/-- The bound of 64-bit numbers. -/
def limit64 : Nat := 18446744073709551616

/-- The number that ASCII decimal digits denote, if there is a digit, nothing else, and
the number fits 64 bits. -/
def decimal? (digits : List Char) : Option Nat :=
  if digits ≠ [] ∧ digits.all Char.isDigit then
    let value := decimalValue digits
    if value < limit64 then some value else none
  else none

/-- A number read from text never leaves the 64-bit range. -/
theorem decimal?_lt
    {digits : List Char}
    {n : Nat}
    (h : decimal? digits = some n) :
    n < limit64 := by
  unfold decimal? at h
  split at h
  · dsimp only at h
    split at h
    · simp_all
    · simp at h
  · simp at h

theorem upperHexDigit_hexDigit?
    {n : Nat}
    (h : n < 16) :
    hexDigit? (upperHexDigit n) = some n := by
  have : ∀ m : Fin 16, hexDigit? (upperHexDigit m.val) = some m.val := by decide
  exact this ⟨n, h⟩

/-- Reading the eight digits of a word gives the word back. -/
theorem hexValue_eightDigits (w : UInt32) :
    hexValue (eightDigits w) = w.toNat := by
  have digit (k : Nat) :
      (hexDigit? (upperHexDigit (w.toNat >>> k % 16))).getD 0 = w.toNat / 2 ^ k % 16 := by
    rw [upperHexDigit_hexDigit? (Nat.mod_lt _ (by decide)), Option.getD_some,
      Nat.shiftRight_eq_div_pow]
  have := w.toNat_lt
  simp only [hexValue, eightDigits, List.map_cons, List.map_nil, List.foldl_cons, List.foldl_nil,
    digit]
  omega

end Text
end CaptureKit
