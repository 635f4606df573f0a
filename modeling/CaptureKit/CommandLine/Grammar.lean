import CaptureKit.Text.Numeral

/-!
# Reading the arguments of a command

Arguments are read from left to right, and the first one that cannot be taken decides.
An option has a letter or a name or both.  Letters may share a dash; a value stands
behind its letter, behind an equals sign, or in the next argument.  There it must not
start with a dash, unless the option allows that or the dash is all of it.  After `--`
every argument is an operand.

Options for help and for the version end the reading where they stand.
-/

namespace CaptureKit
namespace CommandLine

open Text

/-- What an option does with values. -/
inductive ValueRule
  /-- It takes none. -/
  | none
  /-- It takes one that is accepted. -/
  | one (accepts : String → Bool)
  /-- It takes any value, even one that starts with a dash. -/
  | any

/-- An option. -/
structure OptionForm where
  letter : Option Char
  name : String
  value : ValueRule
  /-- It may be given more than once. -/
  repeatable : Bool

/-- It stands alone. -/
def OptionForm.isFlag (form : OptionForm) : Bool :=
  match form.value with
  | .none => true
  | _ => false

/-- It accepts this value. -/
def OptionForm.accepts
    (form : OptionForm)
    (value : String) :
    Bool :=
  match form.value with
  | .none | .any => true
  | .one accepts => accepts value

/-- Why the reading of arguments ended early. -/
inductive Stop
  /-- The arguments do not fit. -/
  | misuse
  /-- The version is asked for. -/
  | version
  /-- Help is asked for. -/
  | help
  deriving DecidableEq, Repr

/-- What a command takes. -/
structure Grammar where
  options : List OptionForm
  /-- How many operands there must be. -/
  least : Nat
  /-- How many operands there may be. -/
  most : Nat

/-- The options and operands that were given, each in order. -/
structure Given where
  options : List (String × String)
  operands : List String

namespace Given

/-- Nothing is given. -/
def empty : Given := ⟨[], []⟩

/-- The option is given. -/
def has
    (given : Given)
    (name : String) :
    Bool :=
  given.options.any (·.1 == name)

/-- The values of an option in order. -/
def values
    (given : Given)
    (name : String) :
    List String :=
  (given.options.filter (·.1 == name)).map Prod.snd

/-- The value of an option that is given at most once. -/
def value?
    (given : Given)
    (name : String) :
    Option String :=
  (given.values name).head?

/-- Puts an option behind the others. -/
def addOption
    (given : Given)
    (form : OptionForm)
    (value : String) :
    Except Stop Given :=
  if !form.repeatable && given.has form.name then .error .misuse
  else if !form.accepts value then .error .misuse
  else .ok { given with options := given.options ++ [(form.name, value)] }

end Given

/-- The options that every command has. -/
def helpForm : OptionForm := ⟨some 'h', "help", .none, true⟩

/-- The option that asks for the version. -/
def versionForm : OptionForm := ⟨some 'V', "version", .none, true⟩

/-- An option that asks for something else than the command. -/
def stopOf? (form : OptionForm) : Option Stop :=
  if form.name = helpForm.name then some .help
  else if form.name = versionForm.name then some .version
  else none

namespace Grammar

/-- The options of a grammar with those that every command has. -/
def allOptions (grammar : Grammar) : List OptionForm :=
  grammar.options ++ [helpForm, versionForm]

/-- The option of a letter. -/
def byLetter?
    (grammar : Grammar)
    (letter : Char) :
    Option OptionForm :=
  grammar.allOptions.find? (·.letter == some letter)

/-- The option of a name. -/
def byName?
    (grammar : Grammar)
    (name : String) :
    Option OptionForm :=
  grammar.allOptions.find? (·.name == name)

/-- Takes a flag, unless it asks for something else. -/
def addFlag
    (form : OptionForm)
    (given : Given) :
    Except Stop Given :=
  match stopOf? form with
  | some stop => .error stop
  | none => given.addOption form ""

/-- Takes one more operand if there may be one. -/
def addOperand
    (grammar : Grammar)
    (given : Given)
    (operand : String) :
    Except Stop Given :=
  if given.operands.length < grammar.most then
    .ok { given with operands := given.operands ++ [operand] }
  else .error .misuse

/-- The value behind a letter; one equals sign before it does not count. -/
def attachedValue : List Char → String
  | '=' :: value => String.ofList value
  | value => String.ofList value

/-- Reads the letters behind one dash.  A letter without its value waits for it. -/
def readLetters
    (grammar : Grammar)
    (given : Given) :
    List Char → Except Stop (Given × Option OptionForm)
  | [] => .ok (given, none)
  | c :: rest =>
      match grammar.byLetter? c with
      | none => .error .misuse
      | some form =>
          if form.isFlag then do
            let given ← addFlag form given
            readLetters grammar given rest
          else if rest.isEmpty then .ok (given, some form)
          else (given.addOption form (attachedValue rest)).map (·, none)

/-- Reads a long option.  An option without its value waits for it. -/
def readName
    (grammar : Grammar)
    (given : Given)
    (argument : List Char) :
    Except Stop (Given × Option OptionForm) :=
  let name := argument.takeWhile (· != '=')
  match grammar.byName? (String.ofList name), argument.drop name.length with
  | none, _ => .error .misuse
  | some form, [] =>
      if form.isFlag then (addFlag form given).map (·, none) else .ok (given, some form)
  | some form, _ :: value =>
      if form.isFlag then .error .misuse
      else (given.addOption form (String.ofList value)).map (·, none)

/-- The argument can be the value of an option that waits for one. -/
def canBeValue
    (form : OptionForm)
    (argument : List Char) :
    Bool :=
  match form.value, argument with
  | .any, _ => true
  | _, '-' :: _ :: _ => false
  | _, _ => true

/-- Reads arguments, where `waiting` is an option that still needs its value. -/
def readFrom
    (grammar : Grammar)
    (given : Given) :
    (waiting : Option OptionForm) → List String → Except Stop Given
  | none, [] => .ok given
  | some _, [] => .error .misuse
  | some form, argument :: rest => do
      if canBeValue form argument.toList then
        let given ← given.addOption form argument
        readFrom grammar given none rest
      else .error .misuse
  | none, argument :: rest =>
      match argument.toList with
      | ['-', '-'] => rest.foldlM grammar.addOperand given
      | '-' :: '-' :: long => do
          let (given, waiting) ← grammar.readName given long
          readFrom grammar given waiting rest
      | '-' :: c :: short => do
          let (given, waiting) ← grammar.readLetters given (c :: short)
          readFrom grammar given waiting rest
      | _ => do
          let given ← grammar.addOperand given argument
          readFrom grammar given none rest

/-- Reads all arguments of a command. -/
def read
    (grammar : Grammar)
    (arguments : List String) :
    Except Stop Given := do
  let given ← grammar.readFrom .empty none arguments
  if given.operands.length < grammar.least then .error .misuse else pure given

/-- Reads the flags before the name of a command, and gives that name and the arguments
behind it. -/
def readCommandFrom
    (grammar : Grammar)
    (given : Given) :
    List String → Except Stop (String × List String)
  | [] => .error .misuse
  | argument :: rest =>
      match argument.toList with
      | ['-', '-'] => .error .misuse
      | '-' :: '-' :: long => do
          let (given, _) ← grammar.readName given long
          readCommandFrom grammar given rest
      | '-' :: c :: short => do
          let (given, _) ← grammar.readLetters given (c :: short)
          readCommandFrom grammar given rest
      | _ => .ok (argument, rest)

/-- What asking for help on commands comes to: at most one command can be named. -/
def helpOn
    (commands : List String) :
    List String → Stop
  | [] => .help
  | [command] => if command = "help" ∨ command ∈ commands then .help else .misuse
  | _ => .misuse

/-- Reads up to the name of one of the commands, where only flags may stand. -/
def readCommand
    (grammar : Grammar)
    (commands : List String)
    (arguments : List String) :
    Except Stop (String × List String) := do
  let (name, rest) ← grammar.readCommandFrom .empty arguments
  if name = "help" then .error (helpOn commands rest)
  else if name ∈ commands then .ok (name, rest)
  else .error .misuse

end Grammar

/-- A count: decimal digits, perhaps behind a plus sign, below the bound of 64 bits. -/
def count? (value : String) : Option Nat :=
  match value.toList with
  | '+' :: digits => decimal? digits
  | digits => decimal? digits

end CommandLine
end CaptureKit
