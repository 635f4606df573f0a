import CaptureKit.Text.Numeral
import CaptureKit.Text.Octet

/-!
# Numbers with a binary point

A number is kept as a mantissa of so many bits and a power of two.  It is read from decimal
or hexadecimal text, rounded to the nearest number that can be kept, and written with so many
decimals; a tie goes to the even neighbour both times.  Main statement: a rounded quotient is
at most half a unit away (`roundRatio_near`).
-/

namespace CaptureKit
namespace Text

/-- How numbers are kept. -/
structure FloatingKind where
  /-- The bits of a mantissa. -/
  bits : Nat
  /-- The least power of two of the last bit. -/
  least : Int
  /-- The greatest power of two of the last bit. -/
  greatest : Int
  /-- The bits in front of the point when a number is written in hexadecimal. -/
  leading : Nat

/-- Numbers of eight bytes. -/
def FloatingKind.double : FloatingKind := ⟨53, -1074, 971, 1⟩

/-- Numbers of ten bytes. -/
def FloatingKind.extended : FloatingKind := ⟨64, -16445, 16320, 4⟩

/-- A size without a sign. -/
inductive Magnitude
  /-- The mantissa times a power of two. -/
  | finite (mantissa : Nat) (power : Int)
  | infinite
  | noNumber
  deriving DecidableEq

/-- A number with its sign. -/
structure Floating where
  negative : Bool
  magnitude : Magnitude
  deriving DecidableEq

/-- A quotient rounded to the nearest number; a tie goes to the even neighbour. -/
def roundRatio (numerator denominator : Nat) : Nat :=
  let whole := numerator / denominator
  let rest := 2 * (numerator % denominator)
  if denominator < rest ∨ (rest = denominator ∧ whole % 2 = 1) then whole + 1 else whole

/-- A rounded quotient is at most half a unit away. -/
theorem roundRatio_near
    (numerator : Nat)
    {denominator : Nat}
    (positive : 0 < denominator) :
    2 * (denominator * roundRatio numerator denominator) ≤ 2 * numerator + denominator ∧
      2 * numerator ≤ 2 * (denominator * roundRatio numerator denominator) + denominator := by
  have split := Nat.div_add_mod numerator denominator
  have small := Nat.mod_lt numerator positive
  unfold roundRatio
  dsimp only
  split
  · rename_i up
    rw [Nat.mul_add, Nat.mul_one]
    omega
  · rename_i down
    omega

/-- The greatest power of two that a positive number reaches. -/
def topPower (numerator denominator : Nat) : Int :=
  let guess : Int := (numerator.log2 : Int) - denominator.log2
  let reached :=
    if 0 ≤ guess then denominator * Nat.pow 2 guess.toNat ≤ numerator
    else denominator ≤ numerator * Nat.pow 2 (-guess).toNat
  if reached then guess else guess - 1

/-- A quotient divided by a power of two and rounded, and whether nothing was lost. -/
def scaledRound
    (numerator denominator : Nat)
    (power : Int) :
    Nat × Bool :=
  let above := numerator * Nat.pow 2 (-power).toNat
  let below := denominator * Nat.pow 2 power.toNat
  (roundRatio above below, above % below == 0)

/-- The nearest number of a kind, and whether the range was left: it is too large, or so
small that bits were lost. -/
def FloatingKind.nearest
    (kind : FloatingKind)
    (numerator denominator : Nat) :
    Magnitude × Bool :=
  if numerator = 0 then (.finite 0 kind.least, false)
  else
    let power := max kind.least (topPower numerator denominator - (kind.bits - 1 : Nat))
    let (mantissa, exact) := scaledRound numerator denominator power
    let full := Nat.pow 2 kind.bits
    let (mantissa, power) := if mantissa = full then (full / 2, power + 1) else (mantissa, power)
    if kind.greatest < power then (.infinite, true)
    else (.finite mantissa power, !exact && decide (mantissa < full / 2))

/-- How large a power may become before a number is out of the range of every kind. -/
def powerBound : Int := 20000

/-- The number that is a mantissa times a power of a base. -/
def FloatingKind.ofDigits
    (kind : FloatingKind)
    (base mantissa : Nat)
    (size : Int)
    (power : Int) :
    Magnitude × Bool :=
  if mantissa = 0 then (.finite 0 kind.least, false)
  else if powerBound < power + size then (.infinite, true)
  else if power + size < -powerBound then (.finite 0 kind.least, true)
  else
    kind.nearest (mantissa * Nat.pow base power.toNat) (Nat.pow base (-power).toNat)

/-- A power behind its letter: a sign and digits.  Without digits there is none. -/
def powerAt? (s : List Char) : Option (Int × List Char) :=
  let (negative, digits) := match s with
    | '-' :: rest => (true, rest)
    | '+' :: rest => (false, rest)
    | rest => (false, rest)
  let number := digits.takeWhile Char.isDigit
  if number.isEmpty then none
  else
    let value : Int := decimalValue number
    some (if negative then -value else value, digits.drop number.length)

/-- Digits with a point among them: the digits, how many stand behind the point, and what
follows. -/
def digitsAt
    (isDigit : Char → Bool)
    (s : List Char) :
    List Char × Nat × List Char :=
  let whole := s.takeWhile isDigit
  match s.drop whole.length with
  | '.' :: rest =>
      let part := rest.takeWhile isDigit
      if whole.isEmpty && part.isEmpty then ([], 0, s)
      else (whole ++ part, part.length, rest.drop part.length)
  | rest => (whole, 0, rest)

/-- A decimal number at the front of a text. -/
def FloatingKind.decimalAt?
    (kind : FloatingKind)
    (s : List Char) :
    Option (Magnitude × Bool × List Char) :=
  let (digits, places, rest) := digitsAt Char.isDigit s
  if digits.isEmpty then none
  else
    let (power, rest) := match rest with
      | e :: after =>
          if e = 'e' ∨ e = 'E' then (powerAt? after).getD (0, rest) else (0, rest)
      | [] => (0, [])
    let significant := digits.dropWhile (· == '0')
    let (found, range) :=
      kind.ofDigits 10 (decimalValue significant) significant.length (power - places)
    some (found, range, rest)

/-- A hexadecimal number behind `0x`. -/
def FloatingKind.hexadecimalAt?
    (kind : FloatingKind)
    (s : List Char) :
    Option (Magnitude × Bool × List Char) :=
  let (digits, places, rest) := digitsAt isHexDigit s
  if digits.isEmpty then none
  else
    let (power, rest) := match rest with
      | p :: after =>
          if p = 'p' ∨ p = 'P' then (powerAt? after).getD (0, rest) else (0, rest)
      | [] => (0, [])
    let significant := digits.dropWhile (· == '0')
    let (found, range) :=
      kind.ofDigits 2 (hexValue significant) (4 * significant.length) (power - 4 * places)
    some (found, range, rest)

/-- What is behind a word of lower case letters at the front of a text of any case. -/
def behindWord?
    (word : String)
    (s : List Char) :
    Option (List Char) :=
  if (s.take word.length).map Char.toLower = word.toList then some (s.drop word.length) else none

/-- What is behind the remark in parentheses that may follow when there is no number. -/
def behindRemark (s : List Char) : List Char :=
  match s with
  | '(' :: rest =>
      match rest.dropWhile fun c => c.isAlphanum || c == '_' with
      | ')' :: after => after
      | _ => s
  | _ => s

/-- A size at the front of a text, whether the range was left, and what follows. -/
def FloatingKind.magnitudeAt?
    (kind : FloatingKind)
    (s : List Char) :
    Option (Magnitude × Bool × List Char) :=
  let hexadecimal := match s with
    | '0' :: x :: rest => if x = 'x' ∨ x = 'X' then kind.hexadecimalAt? rest else none
    | _ => none
  match hexadecimal, behindWord? "infinity" s, behindWord? "inf" s, behindWord? "nan" s with
  | some found, _, _, _ => some found
  | none, some rest, _, _ | none, none, some rest, _ => some (.infinite, false, rest)
  | none, none, none, some rest => some (.noNumber, false, behindRemark rest)
  | none, none, none, none => kind.decimalAt? s

/-- A number at the front of a text, behind white space: the number, whether the range was
left, and what follows. -/
def FloatingKind.readAt?
    (kind : FloatingKind)
    (s : List Char) :
    Option (Floating × Bool × List Char) :=
  let body := s.dropWhile fun c => c == ' ' || (9 ≤ c.toNat && c.toNat ≤ 13)
  let (negative, unsigned) := match body with
    | '-' :: rest => (true, rest)
    | '+' :: rest => (false, rest)
    | rest => (false, rest)
  (kind.magnitudeAt? unsigned).map fun found => (⟨negative, found.1⟩, found.2)

/-- The order of numbers: what is no number comes first. -/
def Floating.compare (a b : Floating) : Ordering :=
  match rank a, rank b with
  | none, none => .eq
  | none, some _ => .lt
  | some _, none => .gt
  | some x, some y => (Ord.compare x.1 y.1).then (Ord.compare x.2 y.2)
where
  /-- Infinities at both ends, and the value in the least units in between. -/
  rank (n : Floating) : Option (Int × Int) :=
    let sign : Int := if n.negative then -1 else 1
    match n.magnitude with
    | .noNumber => none
    | .infinite => some (sign, 0)
    | .finite mantissa power => some (0, sign * (mantissa * Nat.pow 2 (power + 16445).toNat : Nat))

/-- A finite size as a quotient. -/
def ratioOf
    (mantissa : Nat)
    (power : Int) :
    Nat × Nat :=
  (mantissa * Nat.pow 2 power.toNat, Nat.pow 2 (-power).toNat)

/-- Digits with a point in front of the last of them, if there are any behind it or it is
wanted anyway. -/
def pointed
    (always : Bool)
    (places : Nat)
    (digits : List Char) :
    List Char :=
  let padded := List.replicate (places + 1 - digits.length) '0' ++ digits
  let front := padded.take (padded.length - places)
  if places = 0 then if always then front ++ ['.'] else front
  else front ++ '.' :: padded.drop (padded.length - places)

/-- A quotient with so many decimals. -/
def fixedDigits
    (always : Bool)
    (places : Nat)
    (ratio : Nat × Nat) :
    List Char :=
  pointed always places (Nat.toDigits 10 (roundRatio (ratio.1 * Nat.pow 10 places) ratio.2))

/-- The power of ten of the first digit of a quotient. -/
def decimalPower (ratio : Nat × Nat) : Int :=
  if ratio.1 = 0 then 0
  else
    let guess : Int :=
      ((Nat.toDigits 10 ratio.1).length : Int) - (Nat.toDigits 10 ratio.2).length
    let reached :=
      if 0 ≤ guess then ratio.2 * Nat.pow 10 guess.toNat ≤ ratio.1
      else ratio.2 ≤ ratio.1 * Nat.pow 10 (-guess).toNat
    if reached then guess else guess - 1

/-- The digits of a quotient, so many behind the first, and the power of ten of the first. -/
def scientificDigits
    (places : Nat)
    (ratio : Nat × Nat) :
    List Char × Int :=
  let power := decimalPower ratio
  let shift := (places : Int) - power
  let rounded := roundRatio (ratio.1 * Nat.pow 10 shift.toNat) (ratio.2 * Nat.pow 10 (-shift).toNat)
  if rounded = Nat.pow 10 (places + 1) then (Nat.toDigits 10 (rounded / 10), power + 1)
  else (Nat.toDigits 10 rounded, power)

/-- A power as it stands behind its letter: its sign and at least so many digits. -/
def powerText
    (least : Nat)
    (power : Int) :
    List Char :=
  let digits := Nat.toDigits 10 power.natAbs
  (if power < 0 then '-' else '+') :: (List.replicate (least - digits.length) '0' ++ digits)

/-- A quotient with one digit in front of the point. -/
def scientificText
    (always : Bool)
    (places : Nat)
    (ratio : Nat × Nat) :
    List Char :=
  let (digits, power) := scientificDigits places ratio
  pointed always places digits ++ 'e' :: powerText 2 power

/-- Text with a point in it, without the zeros at its end. -/
def withoutZeros (s : List Char) : List Char :=
  if s.contains '.' then
    match s.reverse.dropWhile (· == '0') with
    | '.' :: front => front.reverse
    | front => front.reverse
  else s

/-- A quotient with so many digits at most, in whichever way is shorter. -/
def generalText
    (keepsZeros : Bool)
    (precision : Nat)
    (ratio : Nat × Nat) :
    List Char :=
  let digits := max 1 precision
  let (mantissa, power) := scientificDigits (digits - 1) ratio
  let trim := fun s => if keepsZeros then s else withoutZeros s
  if -4 ≤ power ∧ power < digits then
    trim (fixedDigits keepsZeros ((digits : Int) - 1 - power).toNat ratio)
  else trim (pointed keepsZeros (digits - 1) mantissa) ++ 'e' :: powerText 2 power

/-- A finite size in hexadecimal; without a precision no digit is lost. -/
def FloatingKind.hexadecimalText
    (kind : FloatingKind)
    (always : Bool)
    (precision : Option Nat)
    (mantissa : Nat)
    (power : Int) :
    List Char :=
  let places := (kind.bits - kind.leading) / 4
  let top := if mantissa = 0 then 0 else power + 4 * places
  let kept := min places (precision.getD places)
  let rounded := roundRatio mantissa (Nat.pow 16 (places - kept))
  let carried := Nat.pow 16 (kept + 1) ≤ rounded
  let digits := Nat.toDigits 16 (if carried then rounded / 16 else rounded)
  let top := if carried then top + 4 else top
  let body := match precision with
    | none =>
        let text := withoutZeros (pointed false kept digits)
        if always && !text.contains '.' then text ++ ['.'] else text
    | some precision =>
        pointed always precision (digits ++ List.replicate (precision - kept) '0')
  '0' :: 'x' :: body ++ 'p' :: powerText 1 top

end Text
end CaptureKit
