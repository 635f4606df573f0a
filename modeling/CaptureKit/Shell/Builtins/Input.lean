import CaptureKit.Shell.Builtins.Basic

/-!
# Reading lines and options

`read` cuts a line of input into fields; `getopts` takes options from parameters one by
one.
-/

namespace CaptureKit
namespace Shell

open Storage Text Tools

/-- A line of input with what a backslash keeps together; whether it ends with a line
feed, and what follows. -/
def inputLine (raw : Bool) : Octets → List Glyph × Bool × Octets
  | [] => ([], false, [])
  | '\n' :: s => ([], true, s)
  | '\\' :: s =>
      if raw then
        let (glyphs, ended, rest) := inputLine raw s
        (⟨'\\', false⟩ :: glyphs, ended, rest)
      else
        match s with
        | [] => ([], false, [])
        | '\n' :: s => inputLine raw s
        | d :: s =>
            let (glyphs, ended, rest) := inputLine raw s
            (⟨d, true⟩ :: glyphs, ended, rest)
  | c :: s =>
      let (glyphs, ended, rest) := inputLine raw s
      (⟨c, false⟩ :: glyphs, ended, rest)

/-- A glyph at which a line is cut. -/
def isCut
    (separators : List Char)
    (glyph : Glyph) :
    Bool :=
  !glyph.quoted && separators.contains glyph.octet

/-- A blank at which a line is cut. -/
def isBlankCut
    (separators : List Char)
    (glyph : Glyph) :
    Bool :=
  isCut separators glyph && isBlankSeparator glyph.octet

/-- A line without the blanks at its end. -/
def withoutLastBlanks
    (separators : List Char)
    (line : List Glyph) :
    List Glyph :=
  (line.reverse.dropWhile (isBlankCut separators)).reverse

/-- What is left of a line behind a field: blanks, one other separator, and blanks again
are passed over. -/
def behindField
    (separators : List Char)
    (line : List Glyph) :
    List Glyph :=
  let rest := line.dropWhile (isBlankCut separators)
  match rest with
  | glyph :: more =>
      if isCut separators glyph then more.dropWhile (isBlankCut separators) else rest
  | [] => []

/-- The texts that names get from a line; the last one gets all that is left. -/
def lineFields
    (separators : List Char)
    (line : List Glyph) :
    List Octets → List (Octets × Octets)
  | [] => []
  | [name] =>
      let field := line.takeWhile (!isCut separators ·)
      let behind := behindField separators (line.drop field.length)
      let kept := if behind.isEmpty then field else withoutLastBlanks separators line
      [(name, bareOctets kept)]
  | name :: names =>
      let field := line.takeWhile (!isCut separators ·)
      (name, bareOctets field) ::
        lineFields separators (behindField separators (line.drop field.length)) names

/-- Reads one line of the input into variables; it fails at the end of the input. -/
def readInput : Builtin := fun arguments => do
  let raw := (arguments.takeWhile fun argument => argument.head? == some '-').any
    (·.contains 'r')
  let (_, names) ← match arguments with
    | ['-', 'p'] :: _ :: rest => readOptions ['r'] rest
    | arguments => readOptions ['r'] arguments
  if names.isEmpty then abort 2 "arg count".toList
  match names.find? (!isName ·) with
  | some name => abort 2 (name ++ ": bad variable name".toList)
  | none => do
      let state ← get
      let input := state.readable 0
      let (glyphs, ended, rest) := inputLine raw input
      let line := glyphs.filter (·.octet.toNat != 0)
      set (state.withUnread 0 rest)
      let separators := state.separators
      for (name, value) in
          lineFields separators (line.dropWhile (isBlankCut separators)) names do
        assign name value false
      setStatus (if ended then 0 else 1)

/-- What became of reading the next option. -/
structure OptionStep where
  /-- The letter, if there was an option left. -/
  letter : Option Char
  argument : Option Octets
  complaint : Option Octets
  /-- The number of the argument behind the current one. -/
  index : Nat
  /-- How much of the current argument was read, if there may be more of it. -/
  offset : Option Nat

/-- Whether an option with this letter takes a value; none if there is no such option. -/
def takesValue? (letter : Char) : (form : Octets) → Option Bool
  | [] => none
  | c :: ':' :: form => if c = letter then some true else takesValue? letter form
  | c :: form => if c = letter then some false else takesValue? letter form

/-- The option with a letter; `letters` stand behind it in its argument, `following` are
the arguments behind that. -/
def optionAt
    (form : Octets)
    (letter : Char)
    (letters : Octets)
    (following : List Octets)
    (index offset : Nat) :
    OptionStep :=
  let quiet := form.head? == some ':'
  match takesValue? letter form with
  | none =>
      if quiet then ⟨some '?', some [letter], none, index, some offset⟩
      else
        ⟨some '?', none, some ("Illegal option -".toList ++ [letter, '\n']), index, some offset⟩
  | some false => ⟨some letter, some [], none, index, some offset⟩
  | some true =>
      match letters, following with
      | [], value :: _ => ⟨some letter, some value, none, index + 1, none⟩
      | [], [] =>
          if quiet then ⟨some ':', some [letter], none, index, none⟩
          else
            ⟨some '?', none, some ("No arg for -".toList ++ letter :: " option\n".toList), index,
              none⟩
      | letters, _ => ⟨some letter, some letters, none, index, none⟩

/-- The next option of arguments, of which those before an index were read, and so much of
the last one of these. -/
def nextOption
    (form : Octets)
    (arguments : List Octets)
    (index : Nat)
    (offset : Option Nat) :
    OptionStep :=
  let following := arguments.drop (index - 1)
  let current := match offset, index with
    | some offset, index + 2 => ((arguments[index]?).getD []).drop offset
    | _, _ => []
  match current, following with
  | letter :: letters, _ => optionAt form letter letters following index (offset.getD 0 + 1)
  | [], ['-', '-'] :: _ => ⟨none, none, none, index + 1, none⟩
  | [], ('-' :: letter :: letters) :: following =>
      optionAt form letter letters following (index + 1) 2
  | [], _ => ⟨none, none, none, index, none⟩

/-- Reads the next option of the parameters or of arguments. -/
def getOption : Builtin := fun arguments => do
  match arguments with
  | form :: name :: given => do
      let state ← get
      let given := if given.isEmpty then state.parameters else given
      let isBehind := given.length + 1 < state.optionIndex
      let step := if isBehind then nextOption form given 1 none
        else nextOption form given state.optionIndex state.optionOffset
      write 2 (step.complaint.getD [])
      assign "OPTIND".toList (toString step.index).toList false
      modify fun state => { state with optionIndex := step.index, optionOffset := step.offset }
      match step.argument, step.letter with
      | some value, _ => assign "OPTARG".toList value false
      | none, some _ => modify fun state => state.withVariable "OPTARG".toList none
      | none, none => pure ()
      assign name [step.letter.getD '?'] false
      setStatus (if step.letter.isSome then 0 else 1)
  | _ => abort 2 "Usage: getopts optstring var [arg...]".toList

end Shell
end CaptureKit
