import CaptureKit.Shell.Builtins.Variables

/-!
# Settings of a shell

Options and parameters are set together.  The mask takes rights from new files.
-/

namespace CaptureKit
namespace Shell

open Storage Text Tools

/-- The names of the options and their letters, if they have one. -/
def optionNames : List (String × Option Char) :=
  [("errexit", some 'e'), ("noglob", some 'f'), ("ignoreeof", some 'I'),
    ("interactive", some 'i'), ("monitor", some 'm'), ("noexec", some 'n'), ("stdin", some 's'),
    ("xtrace", some 'x'), ("verbose", some 'v'), ("vi", some 'V'), ("emacs", some 'E'),
    ("noclobber", some 'C'), ("allexport", some 'a'), ("notify", some 'b'), ("nounset", some 'u'),
    ("privileged", some 'p'), ("nolog", none), ("debug", none)]

/-- The letters of the options. -/
def optionLetters : List Char :=
  optionNames.filterMap Prod.snd

/-- The state with an option set or not; options stand in a fixed order. -/
def State.withOption
    (state : State)
    (letter : Char)
    (on : Bool) :
    State :=
  let set := if on then letter :: state.options else state.options.filter (· != letter)
  { state with options := (optionLetters.filter set.contains).reverse }

/-- Sets or clears an option.  Jobs cannot be watched without a terminal, and there is none;
a part that runs on its own does not try. -/
def setOption
    (letter : Char)
    (on : Bool) :
    Act Unit := do
  if letter = 'm' ∧ on ∧ (← get).depth = 0 then
    complain "can't access tty; job control turned off".toList
  else modify fun state => state.withOption letter on

/-- Sets or clears an option by its name. -/
def setNamedOption
    (name : Octets)
    (on : Bool) :
    Act Unit := do
  match optionNames.lookup (String.ofList name) with
  | some (some letter) => setOption letter on
  | some none => return ()
  | none => abort 2 ("Illegal option -o ".toList ++ name)

/-- The options with their settings. -/
def listOptions
    (state : State)
    (asCommands : Bool) :
    Octets :=
  let lines := optionNames.flatMap fun option =>
    let on := option.2.any state.has
    if asCommands then
      (if on then "set -o " else "set +o ").toList ++ option.1.toList ++ ['\n']
    else
      option.1.toList ++ List.replicate (16 - option.1.length) ' ' ++
        (if on then "on" else "off").toList ++ ['\n']
  if asCommands then lines else "Current option settings\n".toList ++ lines

/-- Sets options that stand at the front of arguments, and gives what follows; nothing is
given if the options end without `--` and nothing follows. -/
def setOptions : List Octets → Act (Option (List Octets))
  | [] => return none
  | ['-', '-'] :: rest => return some rest
  | ['-'] :: rest => do
      modify fun state => (state.withOption 'x' false).withOption 'v' false
      return if rest.isEmpty then none else some rest
  | (sign :: 'o' :: []) :: rest =>
      if sign = '-' ∨ sign = '+' then
        match rest with
        | name :: rest => do
            setNamedOption name (sign = '-')
            setOptions rest
        | [] => do
            write 1 (listOptions (← get) (sign = '+'))
            return none
      else return some ((sign :: 'o' :: []) :: rest)
  | (sign :: c :: letters) :: rest => do
      if sign = '-' ∨ sign = '+' then
        for letter in c :: letters do
          if optionLetters.contains letter then setOption letter (sign = '-')
          else illegalOption letter
        setOptions rest
      else return some ((sign :: c :: letters) :: rest)
  | rest => return some rest

/-- Sets options and parameters, or lists all variables. -/
def setCommand : Builtin := fun arguments => do
  setStatus 0
  if arguments.isEmpty then
    let state ← get
    write 1 (listVariables "" (state.bindings.filter (·.2.value.isSome)))
  else
    match ← setOptions arguments with
    | some parameters => modify (·.withParameters parameters)
    | none => return ()

/-- The rights that three bits of a mask leave. -/
def rightsLeft (mask : Nat) : Octets :=
  (if mask / 4 % 2 = 0 then ['r'] else []) ++ (if mask / 2 % 2 = 0 then ['w'] else []) ++
    if mask % 2 = 0 then ['x'] else []

/-- Whose rights a letter is about, one bit for each owner. -/
def maskOwner? : Char → Option Nat
  | 'a' => some 73
  | 'u' => some 64
  | 'g' => some 8
  | 'o' => some 1
  | _ => none

/-- The rights of one owner that a letter stands for, where `before` are all rights. -/
def maskRight? (before : Nat) : Char → Option Nat
  | 'r' => some 4
  | 'w' => some 2
  | 'x' => some 1
  | 'u' => some (before / 64)
  | 'g' => some (before / 8)
  | 'o' => some before
  | 'X' => some (if before &&& 73 = 0 then 0 else 1)
  | 's' => some 0
  | _ => none

/-- The rights that are left when a text in letters has changed them; `owners` are those that
were named already, and `fuel` bounds the number of changes. -/
def spelledRights?
    (before : Nat) :
    (fuel owners rights : Nat) → Octets → Option Nat
  | 0, _, _, _ => none
  | _, _, rights, [] => some rights
  | fuel + 1, owners, rights, text =>
      let named := text.takeWhile fun c => (maskOwner? c).isSome
      let owners := (named.filterMap maskOwner?).foldl (· ||| ·) owners
      let owners := if owners = 0 then 73 else owners
      match text.drop named.length with
      | [] => some rights
      | sign :: rest =>
          let letters := rest.takeWhile fun c => (maskRight? before c).isSome
          let value := (letters.filterMap (maskRight? before)).foldl (· ||| ·) 0 % 8 * owners
          let behind := rest.drop letters.length
          let next := fun rights =>
            match behind with
            | ',' :: more => spelledRights? before fuel 0 rights more
            | more => if more.head?.any (!isSign ·) then none
                else spelledRights? before fuel owners rights more
          match sign with
          | '-' => next (rights &&& (511 ^^^ value))
          | '+' => next (rights ||| value)
          | '=' => next (rights &&& (511 ^^^ (owners * 7)) ||| value)
          | _ => none
where
  /-- The sign of a change. -/
  isSign (c : Char) : Bool := ['=', '+', '-'].contains c

/-- Prints the mask of new files, or sets it. -/
def maskRights : Builtin := fun arguments => do
  let (letters, operands) ← readOptions ['S'] arguments
  setStatus 0
  let mask := (← get).mask
  let become := fun mask : Nat => modify fun state : State => { state with mask := mask }
  match operands with
  | [] =>
      if letters.isEmpty then
        write 1 ([mask / 512, mask / 64, mask / 8, mask].map (Nat.digitChar <| · % 8) ++ ['\n'])
      else
        write 1 ("u=".toList ++ rightsLeft (mask / 64) ++ ",g=".toList ++ rightsLeft (mask / 8) ++
          ",o=".toList ++ rightsLeft mask ++ ['\n'])
  | operand :: _ =>
      if operand.head?.any Char.isDigit then
        if operand.all isOctalDigit then become (octalValue operand % 512)
        else abort 2 ("Illegal number: ".toList ++ operand)
      else
        let rights := 511 ^^^ mask
        match spelledRights? rights (operand.length + 1) 0 rights operand with
        | some rights => become (511 ^^^ rights)
        | none => abort 2 ("Illegal mode: ".toList ++ operand)

/-- Prints that a resource has no limit. -/
def printLimit : Builtin := fun arguments => do
  let (_, operands) ← readOptions "HSatfdscmlpnvwr".toList arguments
  setStatus 0
  if operands.isEmpty then write 1 "unlimited\n".toList

/-- Prints that no time has gone by. -/
def printTimes : Builtin := fun _ => do
  setStatus 0
  let line := "0m0.000000s 0m0.000000s\n".toList
  write 1 (line ++ line)

end Shell
end CaptureKit
