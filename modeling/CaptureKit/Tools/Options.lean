import CaptureKit.Tools.Basic

/-!
# Options of tools

Most tools read their arguments the same way: options may stand anywhere before `--`,
letters may share one dash, long names may be cut short as long as they are told apart,
and everything else is an operand.  Tools that start another program read options up to
the first operand only.
-/

namespace CaptureKit
namespace Tools

open Text

/-- What an option does with a value. -/
inductive Takes
  | nothing
  | value
  /-- A value may be attached to its name, and is then kept with the equals sign. -/
  | perhaps
  deriving DecidableEq

/-- An option of a tool, by its letter or its name or both. -/
structure Switch where
  letter : Option Char
  name : String
  takes : Takes

/-- An option without a value. -/
def flag
    (letter : Char)
    (name : String) :
    Switch :=
  ⟨some letter, name, .nothing⟩

/-- An option with a value. -/
def valued
    (letter : Char)
    (name : String) :
    Switch :=
  ⟨some letter, name, .value⟩

/-- Options without values and without names. -/
def letters (all : String) : List Switch :=
  all.toList.map fun letter => ⟨some letter, "", .nothing⟩

/-- An option without a letter. -/
def named
    (name : String)
    (takes : Takes) :
    Switch :=
  ⟨none, name, takes⟩

/-- How a tool asks for an option: by its letter, or by its name if it has none. -/
def Switch.key (form : Switch) : String :=
  match form.letter with
  | some letter => String.singleton letter
  | none => form.name

/-- Options with their values, and operands, each in order. -/
structure Arguments where
  options : List (String × Octets)
  operands : List Octets

namespace Arguments

/-- The option was given. -/
def has
    (arguments : Arguments)
    (key : String) :
    Bool :=
  arguments.options.any (·.1 == key)

/-- The values of an option in order. -/
def values
    (arguments : Arguments)
    (key : String) :
    List Octets :=
  (arguments.options.filter (·.1 == key)).map Prod.snd

/-- The last value of an option. -/
def value?
    (arguments : Arguments)
    (key : String) :
    Option Octets :=
  (arguments.values key).getLast?

/-- The last of some options that was given. -/
def lastOf?
    (arguments : Arguments)
    (keys : List String) :
    Option String :=
  ((arguments.options.filter (keys.contains ·.1)).map Prod.fst).getLast?

end Arguments

/-- Why options cannot be read. -/
inductive OptionFault
  | unknownName (argument : Octets)
  | ambiguousName (argument : Octets) (names : List String)
  | unknownLetter (letter : Char)
  | noValue (letter : Char)
  | noValueFor (name : String)
  | valueFor (name : String)

/-- The wording of a fault. -/
def OptionFault.words : OptionFault → Octets
  | .unknownName argument => "unrecognized option '--".toList ++ argument ++ "'".toList
  | .ambiguousName argument names =>
      "option '--".toList ++ argument ++ "' is ambiguous; possibilities:".toList ++
        names.flatMap fun name => " '--".toList ++ name.toList ++ "'".toList
  | .unknownLetter letter => "invalid option -- '".toList ++ letter :: "'".toList
  | .noValue letter => "option requires an argument -- '".toList ++ letter :: "'".toList
  | .noValueFor name => "option '--".toList ++ name.toList ++ "' requires an argument".toList
  | .valueFor name => "option '--".toList ++ name.toList ++ "' doesn't allow an argument".toList

/-- An option that still needs its value. -/
structure Waiting where
  key : String
  fault : OptionFault

/-- Letters behind one dash.  A letter that takes a value takes the rest; if nothing is
left, it waits for the next argument. -/
def readLetters
    (forms : List Switch) :
    List Char → Except OptionFault (List (String × Octets) × Option Waiting)
  | [] => .ok ([], none)
  | c :: rest =>
      match forms.find? (·.letter == some c) with
      | none => .error (.unknownLetter c)
      | some form =>
          match form.takes with
          | .nothing | .perhaps =>
              (readLetters forms rest).map fun more => ((form.key, []) :: more.1, more.2)
          | .value =>
              if rest.isEmpty then .ok ([], some ⟨form.key, .noValue c⟩)
              else .ok ([(form.key, rest)], none)

/-- The options that a name, perhaps cut short, can stand for. -/
def formsNamed
    (forms : List Switch)
    (name : Octets) :
    List Switch :=
  match forms.filter fun form => form.name != "" && form.name.toList == name with
  | form :: _ => [form]
  | [] => forms.filter fun form => form.name != "" && name.isPrefixOf form.name.toList

/-- The option of a long name, with its value behind an equals sign. -/
def readNamed
    (forms : List Switch)
    (argument : Octets) :
    Except OptionFault (List (String × Octets) × Option Waiting) :=
  let name := argument.takeWhile (· != '=')
  match formsNamed forms name with
  | [] => .error (.unknownName argument)
  | form :: others =>
      if others.any (·.key != form.key) then
        .error (.ambiguousName argument ((form :: others).map (·.name)))
      else
        match argument.drop name.length, form.takes with
        | [], .value => .ok ([], some ⟨form.key, .noValueFor form.name⟩)
        | [], _ => .ok ([(form.key, [])], none)
        | _ :: _, .nothing => .error (.valueFor form.name)
        | _ :: value, .value => .ok ([(form.key, value)], none)
        | value, .perhaps => .ok ([(form.key, value)], none)

/-- What an argument is read as. -/
inductive Item
  | option (key : String) (value : Octets)
  | operand (value : Octets)

/-- Options in their order. -/
def optionItems (options : List (String × Octets)) : List Item :=
  options.map fun option => .option option.1 option.2

/-- Reads arguments up to the first fault, where `waiting` is an option that still needs its
value.  If they are `strict`, the first operand ends the options. -/
def readItems
    (forms : List Switch)
    (strict : Bool) :
    (waiting : Option Waiting) → List Octets → List Item × Option OptionFault
  | none, [] => ([], none)
  | some waiting, [] => ([], some waiting.fault)
  | some waiting, value :: rest =>
      let (items, fault) := readItems forms strict none rest
      (.option waiting.key value :: items, fault)
  | none, argument :: rest =>
      let options? := match argument with
        | '-' :: '-' :: long => some (readNamed forms long)
        | '-' :: c :: short => some (readLetters forms (c :: short))
        | _ => none
      match argument, options? with
      | ['-', '-'], _ => (rest.map .operand, none)
      | _, some (.error fault) => ([], some fault)
      | _, some (.ok (options, waiting)) =>
          let (items, fault) := readItems forms strict waiting rest
          (optionItems options ++ items, fault)
      | operand, none =>
          if strict then ((operand :: rest).map .operand, none)
          else
            let (items, fault) := readItems forms strict none rest
            (.operand operand :: items, fault)

/-- Options and operands apart. -/
def Arguments.ofItems (items : List Item) : Arguments where
  options := items.filterMap fun
    | .option key value => some (key, value)
    | .operand _ => none
  operands := items.filterMap fun
    | .option .. => none
    | .operand value => some value

/-- Reads all arguments. -/
def readArguments
    (forms : List Switch)
    (strict : Bool)
    (arguments : List Octets) :
    Except OptionFault Arguments :=
  match readItems forms strict none arguments with
  | (items, none) => .ok (.ofItems items)
  | (_, some fault) => .error fault

/-- The words that the value of an option can be, each with what it means.  Words for the
same thing stand together. -/
abbrev Choices (α : Type) := List (List String × α)

/-- What a word means that may be cut short, or the complaint that it means nothing or too
much. -/
def chooseWord
    {α : Type}
    (choices : Choices α)
    (option : String)
    (word : Octets) :
    Except Octets α :=
  let fitting := fun test : Octets → Bool =>
    choices.filter fun choice => choice.1.any fun known => test known.toList
  match fitting (· == word), fitting word.isPrefixOf with
  | choice :: _, _ | [], [choice] => .ok choice.2
  | [], found =>
      let kind := if found.isEmpty then "invalid" else "ambiguous"
      .error (kind.toList ++ " argument ".toList ++ quotedArgument word ++ " for ".toList ++
        quotedArgument option.toList ++ "\nValid arguments are:".toList ++
        choices.flatMap fun choice => "\n  - ".toList ++
          [',', ' '].intercalate (choice.1.map fun known => quotedArgument known.toList))

/-- A tool that reads options anywhere among its arguments.  If they cannot be read, it
ends with the given status and a hint at its help. -/
def Tool.withOptions
    (forms : List Switch)
    (failure : Nat)
    (body : Call → Arguments → Finish) :
    Tool :=
  fun call =>
    match readArguments forms false call.arguments with
    | .ok arguments => body call arguments
    | .error fault => call.misused failure fault.words

/-- A tool that reads options up to its first operand. -/
def Tool.withLeadingOptions
    (forms : List Switch)
    (failure : Nat)
    (body : Call → Arguments → Finish) :
    Tool :=
  fun call =>
    match readArguments forms true call.arguments with
    | .ok arguments => body call arguments
    | .error fault => call.misused failure fault.words

end Tools
end CaptureKit
