import CaptureKit.Tools.Printing

/-!
# The tool that tests a condition

A condition is tested by its status: 0 if it holds, 1 if not, and 2 if it cannot be read.
Conditions are joined by `-a` and `-o`, negated by `!`, and grouped by parentheses.  An
operator counts as plain text where it cannot be an operator.
-/

namespace CaptureKit
namespace Tools

open Storage Text

/-- What an argument means in a condition. -/
inductive Sign
  | operand
  | unary (letter : Char)
  | binary (operator : String)
  | negation
  | both
  | either
  | opening
  | closing
  | nothing
  deriving DecidableEq

/-- What is wrong with a condition. -/
inductive ConditionFault
  /-- An argument is read, and another one follows it. -/
  | unexpected (argument next : Octets)
  | missingArgument (operator : Octets)
  | unclosed
  | badNumber (argument : Octets)

/-- Conditions, or what is wrong with them. -/
abbrev Judged := Except ConditionFault

/-- The letters of conditions on one argument. -/
def unaryLetters : List Char :=
  ['r', 'w', 'x', 'e', 'f', 'd', 'c', 'b', 'p', 'u', 'g', 'k', 's', 't', 'z', 'n', 'h', 'O', 'G',
    'L', 'S']

/-- The operators on two arguments. -/
def binaryOperators : List String :=
  ["=", "!=", "<", ">", "-eq", "-ne", "-ge", "-gt", "-le", "-lt", "-nt", "-ot", "-ef"]

/-- What an argument can mean at most. -/
def operatorSign (argument : Octets) : Sign :=
  match argument with
  | ['!'] => .negation
  | ['('] => .opening
  | [')'] => .closing
  | ['-', 'a'] => .both
  | ['-', 'o'] => .either
  | ['-', c] => if unaryLetters.contains c then .unary c else .operand
  | _ =>
      let operator := String.ofList argument
      if binaryOperators.contains operator then .binary operator else .operand

/-- The sign is an operator on two arguments. -/
def Sign.isBinary : Sign → Bool
  | .binary _ => true
  | _ => false

/-- What the first of some arguments means. -/
def signAt : List Octets → Sign
  | [] => .nothing
  | argument :: rest =>
      match operatorSign argument, rest with
      | .unary _, [] => .operand
      | .unary letter, [_] => .unary letter
      | .unary letter, next :: _ :: _ =>
          if (operatorSign next).isBinary then .operand else .unary letter
      | .opening, [] => .operand
      | sign, _ => sign

/-- The number that an argument is, perhaps with a sign in front and blanks around it. -/
def signedNumber? (argument : Octets) : Option Int :=
  let body := argument.dropWhile isSpace
  let body := body.take (body.length - (body.reverse.takeWhile isSpace).length)
  let (negative, digits) := match body with
    | '-' :: digits => (true, digits)
    | '+' :: digits => (false, digits)
    | digits => (false, digits)
  let number : Int := if negative then -(decimalValue digits : Int) else decimalValue digits
  let isInRange := -9223372036854775808 ≤ number ∧ number ≤ 9223372036854775807
  if digits ≠ [] ∧ digits.all Char.isDigit ∧ isInRange then some number else none

/-- A number in a comparison. -/
def comparedNumber (argument : Octets) : Judged Int :=
  match signedNumber? argument with
  | some number => .ok number
  | none => .error (.badNumber argument)

/-- A condition on one argument. -/
def unaryHolds
    (call : Call)
    (letter : Char)
    (argument : Octets) :
    Bool :=
  let onEntry := fun test : Entry → Bool =>
    match call.entry argument with
    | .ok (_, entry) => test entry
    | .error _ => false
  let hasRight := fun place : Nat =>
    match call.entry argument with
    | .ok (location, _) => call.tree.rightsAt location / Nat.pow 2 place % 2 == 1
    | .error _ => false
  match letter with
  | 'u' => hasRight 11
  | 'g' => hasRight 10
  | 'k' => hasRight 9
  | 'n' => !argument.isEmpty
  | 'z' => argument.isEmpty
  | 'e' | 'r' | 'w' | 'O' | 'G' => onEntry fun _ => true
  | 'x' =>
      match call.entry argument with
      | .ok (_, .folder) => true
      | .ok (location, _) => call.tree.isStartable location
      | .error _ => false
  | 'd' => onEntry (· == .folder)
  | 'f' => onEntry fun
      | .file _ | .program .. => true
      | _ => false
  | 'p' => onEntry fun
      | .device ⟨_, .stream ..⟩ => true
      | _ => false
  | 'c' => onEntry fun
      | .device ⟨_, .stream ..⟩ => false
      | .device _ => true
      | _ => false
  | 's' => onEntry fun
      | .file content => !content.isEmpty
      | .folder | .program .. => true
      | _ => false
  | 'h' | 'L' =>
      match call.ownEntry argument with
      | .ok (_, .link _) => true
      | _ => false
  | _ => false

/-- A condition on two arguments. -/
def binaryHolds
    (call : Call)
    (operator : String)
    (a b : Octets) :
    Judged Bool :=
  let numbers := fun compare : Int → Int → Bool => do
    let x ← comparedNumber a
    let y ← comparedNumber b
    pure (compare x y)
  let isNewer := fun x y =>
    match call.entry x, call.entry y with
    | .ok (x, _), .ok (y, _) => decide (call.tree.timeAt y < call.tree.timeAt x)
    | _, _ => false
  match operator with
  | "=" => .ok (a == b)
  | "!=" => .ok (a != b)
  | "<" => .ok (decide (String.ofList a < String.ofList b))
  | ">" => .ok (decide (String.ofList b < String.ofList a))
  | "-eq" => numbers (· == ·)
  | "-ne" => numbers (· != ·)
  | "-lt" => numbers fun x y => decide (x < y)
  | "-le" => numbers fun x y => decide (x ≤ y)
  | "-gt" => numbers fun x y => decide (x > y)
  | "-ge" => numbers fun x y => decide (x ≥ y)
  | "-ef" =>
      match call.entry a, call.entry b with
      | .ok x, .ok y => .ok (call.tree.areSame x.1 y.1)
      | _, _ => .ok false
  | "-nt" => .ok (isNewer a b)
  | "-ot" => .ok (isNewer b a)
  | _ => .ok false

mutual

/-- Reads conditions joined by `-o`, of which the first argument has the given sign.  The
last argument that was read stays at the front of what is left. -/
def judgeEither
    (call : Call) :
    (fuel : Nat) → Sign → List Octets → Judged (Bool × List Octets)
  | 0, _, here => .ok (false, here)
  | fuel + 1, sign, here => do
      let (holds, here) ← judgeBoth call fuel sign here
      if signAt here.tail = .either then
        let next := here.drop 2
        let (others, here) ← judgeEither call fuel (signAt next) next
        return (holds || others, here)
      else return (holds, here)

/-- Reads conditions joined by `-a`. -/
def judgeBoth
    (call : Call) :
    (fuel : Nat) → Sign → List Octets → Judged (Bool × List Octets)
  | 0, _, here => .ok (false, here)
  | fuel + 1, sign, here => do
      let (holds, here) ← judgeOne call fuel sign here
      if signAt here.tail = .both then
        let next := here.drop 2
        let (others, here) ← judgeBoth call fuel (signAt next) next
        return (holds && others, here)
      else return (holds, here)

/-- Reads one condition. -/
def judgeOne
    (call : Call) :
    (fuel : Nat) → Sign → List Octets → Judged (Bool × List Octets)
  | 0, _, here => .ok (false, here)
  | fuel + 1, sign, here => do
      match sign, here with
      | .negation, _ =>
          let next := signAt here.tail
          let (holds, here) ←
            judgeOne call fuel next (if next = .nothing then here else here.tail)
          return (!holds, here)
      | .nothing, here => return (false, here)
      | .opening, here => do
          let next := here.tail
          let first := signAt next
          if first = .closing then return (false, next)
          let (holds, here) ← judgeEither call fuel first next
          if signAt here.tail = .closing then return (holds, here.tail)
          else .error .unclosed
      | .unary letter, here =>
          match here.tail with
          | argument :: rest => do
              if letter = 't' then
                let _ ← comparedNumber argument
              return (unaryHolds call letter argument, argument :: rest)
          | [] => .error (.missingArgument ['-', letter])
      | _, a :: operator :: rest =>
          match signAt (operator :: rest) with
          | .binary name =>
              match rest with
              | b :: rest => return (← binaryHolds call name a b, b :: rest)
              | [] => .error (.missingArgument operator)
          | _ => return (!a.isEmpty, a :: operator :: rest)
      | _, [a] => return (!a.isEmpty, [a])
      | _, [] => return (false, [])

end

/-- The answer to a whole condition. -/
def judge
    (call : Call)
    (first : Sign)
    (arguments : List Octets) :
    Judged Bool := do
  let (holds, here) ← judgeEither call (4 * arguments.length + 4) first arguments
  match here with
  | argument :: next :: _ => .error (.unexpected argument next)
  | _ => return holds

/-- The answer to a condition; three and four arguments are read in ways of their own. -/
def condition (call : Call) : List Octets → Judged Bool
  | [] => .ok false
  | [a, operator, b] =>
      if (operatorSign operator).isBinary then judge call .operand [a, operator, b]
      else if a = ['('] ∧ b = [')'] then judge call (signAt [operator]) [operator]
      else if a = ['!'] then (condition call [operator, b]).map (!·)
      else judge call (signAt [a, operator, b]) [a, operator, b]
  | [a, b, c, d] =>
      if a = ['('] ∧ d = [')'] then judge call (signAt [b, c]) [b, c]
      else if a = ['!'] then (condition call [b, c, d]).map (!·)
      else judge call (signAt [a, b, c, d]) [a, b, c, d]
  | arguments => judge call (signAt arguments) arguments

/-- How the shell words a fault. -/
def ConditionFault.shellWords : ConditionFault → Octets
  | .unexpected [] _ => "unexpected operator".toList
  | .unexpected argument _ => argument ++ ": unexpected operator".toList
  | .missingArgument operator => operator ++ ": argument expected".toList
  | .unclosed => "closing paren expected".toList
  | .badNumber argument => "Illegal number: ".toList ++ argument

/-- How the program words a fault in some arguments. -/
def ConditionFault.programWords
    (arguments : List Octets) :
    ConditionFault → Octets
  | .badNumber argument => "invalid integer ".toList ++ quotedArgument argument
  | .unclosed => "')' expected".toList
  | .missingArgument operator => "missing argument after ".toList ++ quotedArgument operator
  | .unexpected _ next =>
      match arguments with
      | [['-', c], _] => quotedArgument ['-', c] ++ ": unary operator expected".toList
      | [_, last] => "missing argument after ".toList ++ quotedArgument last
      | [_, operator, _] => quotedArgument operator ++ ": binary operator expected".toList
      | _ => "extra argument ".toList ++ quotedArgument next

/-- Ends with the answer to a condition. -/
def conditionFinish
    (words : List Octets → ConditionFault → Octets)
    (call : Call)
    (arguments : List Octets) :
    Finish :=
  match condition call arguments with
  | .ok true => call.atOnce 0
  | .ok false => call.atOnce 1
  | .error fault => call.failed 2 (words arguments fault)

/-- Tests the condition in front of a closing bracket. -/
def bracketed
    (words : List Octets → ConditionFault → Octets)
    (missing : Octets) :
    Tool := fun call =>
  if call.arguments.getLast? = some [']'] then conditionFinish words call call.arguments.dropLast
  else call.failed 2 missing

/-- The shell's own test of a condition. -/
def shellTest : Tool := fun call =>
  conditionFinish (fun _ fault => fault.shellWords) call call.arguments

/-- The shell's own test of a condition in brackets. -/
def shellBracket : Tool :=
  bracketed (fun _ fault => fault.shellWords) "missing ]".toList

/-- Tests the condition that its arguments make. -/
def test : Tool := fun call =>
  conditionFinish ConditionFault.programWords call call.arguments

/-- Tests the condition that its arguments make in brackets. -/
def bracket : Tool :=
  bracketed ConditionFault.programWords ("missing ".toList ++ quotedArgument [']'])

end Tools
end CaptureKit
