import CaptureKit.Text.Numeral
import CaptureKit.Tools.Work

/-!
# Numbers

`seq` writes the numbers from one to another.  Numbers may have decimal places; they are
counted in units of the last place, so nothing is ever rounded.  `sleep` takes numbers of
seconds, but no time passes here.  `yes` writes as many lines as somebody reads.
-/

namespace CaptureKit
namespace Tools

open Text

/-- A number as so many units of its last decimal place. -/
structure Decimal where
  units : Int
  places : Nat

/-- The number that a text spells. -/
def Decimal.of? (text : Octets) : Option Decimal :=
  let (negative, body) := match text with
    | '-' :: rest => (true, rest)
    | '+' :: rest => (false, rest)
    | rest => (false, rest)
  let whole := body.takeWhile Char.isDigit
  let behind := body.drop whole.length
  let fraction := match behind with
    | '.' :: rest => if rest.all Char.isDigit then some rest else none
    | [] => some []
    | _ => none
  match fraction with
  | none => none
  | some digits =>
      if whole.isEmpty ∧ digits.isEmpty then none
      else
        let size := Int.ofNat (decimalValue (whole ++ digits))
        some ⟨if negative then -size else size, digits.length⟩

/-- The units of a number in a finer place. -/
def Decimal.unitsAt
    (number : Decimal)
    (places : Nat) :
    Int :=
  number.units * Int.ofNat (Nat.pow 10 (places - number.places))

/-- A number of units spelled with decimal places, zeros in front up to a width. -/
def spellUnits
    (places width : Nat)
    (units : Int) :
    Octets :=
  let size := (toString units.natAbs).toList
  let padded := List.replicate (places + 1 - size.length) '0' ++ size
  let whole := padded.take (padded.length - places)
  let body := if places = 0 then whole else whole ++ '.' :: padded.drop whole.length
  let sign := if units < 0 then ['-'] else []
  sign ++ List.replicate (width - sign.length - body.length) '0' ++ body

/-- The numbers from one to another in equal steps. -/
def stepped (first step last : Int) : List Int :=
  let count := if 0 < step then (last - first) / step + 1
    else if step < 0 then (first - last) / -step + 1
    else 0
  (List.range count.toNat).map fun n => first + step * Int.ofNat n

/-- A dash in front of a digit is the sign of a number and no option. -/
def isNegative : Octets → Bool
  | '-' :: c :: _ => c.isDigit || c == '.'
  | _ => false

/-- A tool that takes negative numbers for operands. -/
def Tool.withNumbers
    (forms : List Switch)
    (failure : Nat)
    (body : Call → Arguments → Finish) :
    Tool :=
  fun call =>
    let front := call.arguments.takeWhile (!isNegative ·)
    let rest := call.arguments.drop front.length
    let opened := match readArguments forms true front with
      | .ok arguments => arguments.operands.isEmpty && !front.contains ['-', '-']
      | .error _ => false
    Tool.withLeadingOptions forms failure body
      { call with arguments := front ++ (if opened then [['-', '-']] else []) ++ rest }

/-- Writes the numbers from one to another. -/
def seq : Tool :=
  .withNumbers
    [valued 's' "separator", flag 'w' "equal-width", valued 'f' "format"] 1
    fun call arguments =>
      match arguments.operands.find? fun operand => (Decimal.of? operand).isNone with
      | some operand =>
          if 3 < arguments.operands.length then tooMany call arguments.operands
          else
            call.misused 1 ("invalid floating point argument: ".toList ++ quotedArgument operand)
      | none =>
          match arguments.operands.filterMap Decimal.of? with
          | [] => call.missingOperand 1
          | [last] => write call arguments ⟨1, 0⟩ ⟨1, 0⟩ last
          | [first, last] => write call arguments first ⟨1, 0⟩ last
          | [first, step, last] =>
              if step.units = 0 then
                call.misused 1 ("invalid Zero increment value: ".toList ++
                  quotedArgument (arguments.operands.getD 1 []))
              else write call arguments first step last
          | _ => tooMany call arguments.operands
where
  /-- The refusal of more than three operands. -/
  tooMany (call : Call) (operands : List Octets) : Finish :=
    call.extraOperand 1 (operands.getD 3 [])
  /-- Writes numbers. -/
  write (call : Call) (arguments : Arguments) (first step last : Decimal) : Finish :=
    let places := max first.places step.places
    let finest := max places last.places
    let scale := Int.ofNat (Nat.pow 10 (finest - places))
    let numbers := stepped (first.unitsAt finest) (step.unitsAt finest) (last.unitsAt finest)
    let shown := numbers.map fun number => spellUnits places 0 (number / scale)
    let width := if arguments.has "w" then (shown.map List.length).foldl max 0 else 0
    let texts := numbers.map fun number => spellUnits places width (number / scale)
    let between := (arguments.value? "s").getD ['\n']
    call.printed (if texts.isEmpty then [] else between.intercalate texts ++ ['\n'])

/-- The seconds in a unit of time. -/
def secondsIn? : Char → Option Nat
  | 's' => some 1
  | 'm' => some 60
  | 'h' => some 3600
  | 'd' => some 86400
  | _ => none

/-- The millionths of a second in a span of time, perhaps with its unit. -/
def spanOf? (operand : Octets) : Option Nat := do
  let unit? := operand.getLast?.bind secondsIn?
  let number ← Decimal.of? (if unit?.isSome then operand.dropLast else operand)
  if number.units < 0 then none
  else some (number.units.toNat * 1000000 * unit?.getD 1 / Nat.pow 10 number.places)

/-- How long it takes to sleep for all of some spans. -/
def sleepingTime (operands : List Octets) : Nat :=
  (operands.filterMap spanOf?).foldl (· + ·) 0

/-- Does nothing for some time. -/
def sleep : Tool :=
  .withOptions [] 1 fun call arguments =>
    let wrong := arguments.operands.filter fun operand => (spanOf? operand).isNone
    if arguments.operands.isEmpty then call.missingOperand 1
    else if wrong.isEmpty then call.atOnce 0
    else
      let words := wrong.map fun operand =>
        "invalid time interval ".toList ++ quotedArgument operand
      let front := words.dropLast.flatMap call.complaint
      let finish := call.misused 1 (words.getLast?.getD [])
      { finish with pieces := (.complaints, front) :: finish.pieces }

/-- Prints a line for ever: as often as somebody waits for, and once more. -/
def yes : Tool :=
  .withOptions [] 1 fun call arguments =>
    let words := if arguments.operands.isEmpty then [['y']] else arguments.operands
    let line := [' '].intercalate words ++ ['\n']
    let count := call.room.getD 0 / line.length + 1
    call.inOrder 0
      [(.output, (List.replicate count line).flatten), (.output, line)] call.input

end Tools
end CaptureKit
