import CaptureKit.Shell.Builtins.Basic

/-!
# Commands on variables

These commands list variables, mark them for programs or for ever, forget them, or keep
them to a function.
-/

namespace CaptureKit
namespace Shell

open Storage Text Tools

/-- Variables as they would be given their values. -/
def listVariables
    (front : String)
    (bindings : List (Octets × Variable)) :
    Octets :=
  (byName bindings).flatMap fun item =>
    front.toList ++ item.1 ++
      (match item.2.value with
        | some value => '=' :: readable value
        | none => []) ++ ['\n']

/-- Marks variables, perhaps with new values. -/
def markVariables
    (word : String)
    (isMarked : Variable → Bool)
    (mark : Variable → Variable) :
    Builtin := fun arguments => do
  let (letters, operands) ← readOptions ['p'] arguments
  setStatus 0
  if operands.isEmpty || !letters.isEmpty then
    let state ← get
    write 1 (listVariables (word ++ " ") (state.bindings.filter fun item => isMarked item.2))
  else
    for operand in operands do
      let name := operand.takeWhile (· != '=')
      if !isName name then abort 2 (name ++ ": bad variable name".toList)
      if name.length < operand.length then assign name (operand.drop (name.length + 1)) false
      modify fun state =>
        state.withVariable name (some (mark ((state.find name).getD ⟨none, false, false⟩)))

/-- Forgets variables or functions. -/
def unset : Builtin := fun arguments => do
  let (letters, operands) ← readOptions ['f', 'v'] arguments
  setStatus 0
  for name in operands do
    if letters.getLast? = some 'f' then
      modify fun state =>
        { state with functions := state.functions.filter (·.1 != name) }
    else
      if !isName name then abort 2 (name ++ ": bad variable name".toList)
      if ((← get).find name).any (·.fixed) then abort 2 (name ++ ": is read only".toList)
      modify fun state => state.withVariable name none

/-- Keeps variables to the open function. -/
def keepLocal : Builtin := fun arguments => do
  setStatus 0
  for operand in arguments do
    let name := operand.takeWhile (· != '=')
    let state ← get
    match state.kept with
    | [] => abort 2 "not in a function".toList
    | frame :: frames => do
        let keep := fun kept => set { state with kept := (kept :: frame) :: frames }
        if operand = ['-'] then
          keep (.options state.options)
        else
          if !isName name then abort 2 (name ++ ": bad variable name".toList)
          if !frame.any (isVariable name) then keep (.variable name (state.find name))
          if name.length < operand.length then
            assign name (operand.drop (name.length + 1)) false
  if arguments.isEmpty && (← get).kept.isEmpty then abort 2 "not in a function".toList
where
  /-- The variable of this name is kept. -/
  isVariable (name : Octets) : Kept → Bool
    | .variable found _ => found == name
    | .options _ => false

end Shell
end CaptureKit
