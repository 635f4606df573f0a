import CaptureKit.Shell.Command
import CaptureKit.Tools.Printing

/-!
# Arithmetic of scripts

Expressions are over numbers of 64 bits that wrap around.  Variables may be read and given
values; of a choice only the chosen part is evaluated.
-/

namespace CaptureKit
namespace Shell

open Text Tools

/-- A sign of an expression. -/
inductive SumSign
  | number (n : Int64)
  | variable (name : Octets)
  | operator (symbol : String)
  | unknown
  deriving DecidableEq

/-- What is wrong with an expression. -/
inductive SumFault
  | expecting (what : String)
  | divisionByZero
  /-- The quotient is a number too large. -/
  | overflow
  | illegalNumber (text : Octets)

/-- The wording of a fault in an expression; what ends the shell at once has none. -/
def SumFault.words
    (expression : Octets) :
    SumFault → Octets
  | .expecting what =>
      "arithmetic expression: expecting ".toList ++ what.toList ++ ": \"".toList ++ expression ++
        ['"']
  | .divisionByZero =>
      "arithmetic expression: division by zero: \"".toList ++ expression ++ ['"']
  | .overflow => []
  | .illegalNumber text => "Illegal number: ".toList ++ text

/-- The operators, longer ones before those they start with. -/
def sumOperators : List String :=
  ["<<=", ">>=", "<<", ">>", "<=", ">=", "==", "!=", "&&", "||", "+=", "-=", "*=", "/=", "%=",
    "&=", "|=", "^=", "<", ">", "=", "!", "~", "+", "-", "*", "/", "%", "&", "|", "^", "(", ")",
    "?", ":"]

/-- The number at the front of an expression, and what follows. -/
def sumNumber (s : Octets) : Int64 × Octets :=
  let hexadecimal := match s with
    | '0' :: x :: c :: _ => (x == 'x' || x == 'X') && isHexDigit c
    | _ => false
  let half := limit64 / 2 - 1
  let bounded := fun n : Nat => Int64.ofNat (min n half)
  if hexadecimal then
    let digits := (s.drop 2).takeWhile isHexDigit
    (bounded (hexValue digits), s.drop (2 + digits.length))
  else if s.head? = some '0' then
    let digits := s.takeWhile isOctalDigit
    (bounded (octalValue digits), s.drop digits.length)
  else
    let digits := s.takeWhile Char.isDigit
    (bounded (decimalValue digits), s.drop digits.length)

/-- The signs of an expression; `fuel` bounds their number. -/
def sumSigns : (fuel : Nat) → Octets → List SumSign
  | 0, _ => []
  | fuel + 1, s =>
      match s.dropWhile isSpace with
      | [] => []
      | c :: rest =>
          if c.isDigit then
            let (n, after) := sumNumber (c :: rest)
            .number n :: sumSigns fuel after
          else if isNameStart c then
            let name := (c :: rest).takeWhile isNameChar
            .variable name :: sumSigns fuel ((c :: rest).drop name.length)
          else
            match sumOperators.find? fun symbol => symbol.toList.isPrefixOf (c :: rest) with
            | some symbol => .operator symbol :: sumSigns fuel ((c :: rest).drop symbol.length)
            | none => [.unknown]

/-- The signs that are left, and the values given so far, the last one first. -/
structure SumState where
  signs : List SumSign
  given : List (Octets × Int64)

/-- Evaluates a part of an expression. -/
abbrev Summing := StateT SumState (Except SumFault)

namespace Summing

/-- The next sign. -/
def peek : Summing (Option SumSign) := do
  return (← get).signs.head?

/-- Passes over the next sign. -/
def skip : Summing Unit :=
  modify fun state => { state with signs := state.signs.tail }

/-- Passes over an operator if it is the next sign. -/
def passes (symbol : String) : Summing Bool := do
  if (← peek) = some (.operator symbol) then
    skip
    return true
  else return false

/-- Fails since something else was expected. -/
def expecting {α : Type} (what : String) : Summing α :=
  throw (.expecting what)

end Summing

/-- The number that the text of a variable denotes. -/
def variableNumber (text : Octets) : Except SumFault Int64 :=
  let (n, rest) := numberAt text
  let isInRange := Int64.minValue.toInt ≤ n ∧ n ≤ Int64.maxValue.toInt
  if (rest.length = text.length && !text.all isSpace) || !rest.all isSpace || !isInRange then
    .error (.illegalNumber text)
  else .ok (Int64.ofInt n)

/-- How tightly operators on two numbers bind, the loosest first. -/
def bindingOf : String → Option Nat
  | "|" => some 0
  | "^" => some 1
  | "&" => some 2
  | "==" | "!=" => some 3
  | "<" | "<=" | ">" | ">=" => some 4
  | "<<" | ">>" => some 5
  | "+" | "-" => some 6
  | "*" | "/" | "%" => some 7
  | _ => none

/-- The number of a truth. -/
def truth (holds : Bool) : Int64 :=
  if holds then 1 else 0

/-- An operator on two numbers. -/
def operate
    (symbol : String)
    (a b : Int64) :
    Except SumFault Int64 :=
  match symbol with
  | "|" => .ok (a ||| b)
  | "^" => .ok (a ^^^ b)
  | "&" => .ok (a &&& b)
  | "==" => .ok (truth (a == b))
  | "!=" => .ok (truth (a != b))
  | "<" => .ok (truth (a < b))
  | "<=" => .ok (truth (a ≤ b))
  | ">" => .ok (truth (b < a))
  | ">=" => .ok (truth (b ≤ a))
  | "<<" => .ok (a <<< b)
  | ">>" => .ok (a >>> b)
  | "+" => .ok (a + b)
  | "-" => .ok (a - b)
  | "*" => .ok (a * b)
  | symbol =>
      if b = 0 then .error .divisionByZero
      else if a = Int64.minValue ∧ b = -1 then .error .overflow
      else .ok (if symbol = "/" then a / b else a % b)

/-- The operator of an assignment that changes a value. -/
def changing? : SumSign → Option String
  | .operator symbol =>
      if ["<<=", ">>=", "+=", "-=", "*=", "/=", "%=", "&=", "|=", "^="].contains symbol then
        some (String.ofList symbol.toList.dropLast)
      else none
  | _ => none

mutual

/-- An assignment or a choice; if it is `idle`, nothing is evaluated. -/
def sumAssignment
    (value : Octets → Octets) :
    (fuel : Nat) → (idle : Bool) → Summing Int64
  | 0, _ => Summing.expecting "primary"
  | fuel + 1, idle => do
      match (← get).signs with
      | .variable name :: .operator "=" :: rest => do
          modify fun state => { state with signs := rest }
          let n ← sumAssignment value fuel idle
          if !idle then
            modify fun state => { state with given := (name, n) :: state.given }
          return n
      | .variable name :: sign :: rest =>
          match changing? sign with
          | some symbol => do
              modify fun state => { state with signs := rest }
              let n ← sumAssignment value fuel idle
              if idle then return n
              else do
                let before ← sumVariable value name
                let n ← operate symbol before n
                modify fun state => { state with given := (name, n) :: state.given }
                return n
          | none => sumChoice value fuel idle
      | _ => sumChoice value fuel idle

/-- A condition with two alternatives, or no condition. -/
def sumChoice
    (value : Octets → Octets) :
    (fuel : Nat) → (idle : Bool) → Summing Int64
  | 0, _ => Summing.expecting "primary"
  | fuel + 1, idle => do
      let condition ← sumEither value fuel idle
      if ← Summing.passes "?" then
        let yes ← sumAssignment value fuel (idle || condition == 0)
        if !(← Summing.passes ":") then Summing.expecting "':'"
        let no ← sumChoice value fuel (idle || condition != 0)
        return if condition != 0 then yes else no
      else return condition

/-- Conditions joined by `||`. -/
def sumEither
    (value : Octets → Octets) :
    (fuel : Nat) → (idle : Bool) → Summing Int64
  | 0, _ => Summing.expecting "primary"
  | fuel + 1, idle => do
      let first ← sumBoth value fuel idle
      if ← Summing.passes "||" then
        let second ← sumEither value fuel (idle || first != 0)
        return truth (first != 0 || second != 0)
      else return first

/-- Conditions joined by `&&`. -/
def sumBoth
    (value : Octets → Octets) :
    (fuel : Nat) → (idle : Bool) → Summing Int64
  | 0, _ => Summing.expecting "primary"
  | fuel + 1, idle => do
      let first ← sumPrimary value fuel idle
      let first ← sumTerms value fuel idle 0 first
      if ← Summing.passes "&&" then
        let second ← sumBoth value fuel (idle || first == 0)
        return truth (first != 0 && second != 0)
      else return first

/-- The operators behind a number that bind tightly enough. -/
def sumTerms
    (value : Octets → Octets) :
    (fuel : Nat) → (idle : Bool) → (least : Nat) → Int64 → Summing Int64
  | 0, _, _, _ => Summing.expecting "primary"
  | fuel + 1, idle, least, first => do
      match ← Summing.peek with
      | some (.operator symbol) =>
          match bindingOf symbol with
          | some binding =>
              if binding < least then return first
              else do
                Summing.skip
                let second ← sumPrimary value fuel idle
                let second ← sumTerms value fuel idle (binding + 1) second
                let n ← if idle then pure second else operate symbol first second
                sumTerms value fuel idle least n
          | none => return first
      | _ => return first

/-- A number, a variable, or an expression in parentheses, behind its signs. -/
def sumPrimary
    (value : Octets → Octets) :
    (fuel : Nat) → (idle : Bool) → Summing Int64
  | 0, _ => Summing.expecting "primary"
  | fuel + 1, idle => do
      match ← Summing.peek with
      | some (.number n) => do
          Summing.skip
          return n
      | some (.variable name) => do
          Summing.skip
          if idle then return 0 else sumVariable value name
      | some (.operator "(") => do
          Summing.skip
          let n ← sumAssignment value fuel idle
          if ← Summing.passes ")" then return n else Summing.expecting "')'"
      | some (.operator "+") => do
          Summing.skip
          sumPrimary value fuel idle
      | some (.operator "-") => do
          Summing.skip
          return -(← sumPrimary value fuel idle)
      | some (.operator "!") => do
          Summing.skip
          return truth ((← sumPrimary value fuel idle) == 0)
      | some (.operator "~") => do
          Summing.skip
          return ~~~(← sumPrimary value fuel idle)
      | _ => Summing.expecting "primary"

/-- The number that a variable has now. -/
def sumVariable
    (value : Octets → Octets)
    (name : Octets) :
    Summing Int64 := do
  match (← get).given.lookup name with
  | some n => return n
  | none => variableNumber (value name)

end

/-- The value of an expression, and the values that it gives to variables, in order. -/
def evaluate
    (value : Octets → Octets)
    (expression : Octets) :
    Except SumFault (Int64 × List (Octets × Int64)) := do
  let signs := sumSigns (expression.length + 1) expression
  let (n, state) ← sumAssignment value (10 * signs.length + 20) false ⟨signs, []⟩
  if state.signs.isEmpty then return (n, state.given.reverse)
  else .error (.expecting "EOF")

end Shell
end CaptureKit
