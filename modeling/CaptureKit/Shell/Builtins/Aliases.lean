import CaptureKit.Shell.Builtins.Basic

/-!
# Aliases

An alias is a text that stands for the first word of a command.  Aliases are listed in the
order of a table with a fixed number of rows, and in a row the older ones come first.
-/

namespace CaptureKit
namespace Shell

open Storage Text Tools

/-- The number of rows of the table. -/
def aliasRowCount : Nat := 39

/-- The row of a name. -/
def aliasRow (name : Octets) : Nat :=
  let first := (name.head?.map Char.toNat).getD 0
  (name.foldl (fun sum c => sum + c.toNat) (16 * first)) % aliasRowCount

/-- Aliases in the order of their table. -/
def inRows (aliases : Aliases) : Aliases :=
  (List.range aliasRowCount).flatMap fun row => aliases.filter fun item => aliasRow item.1 == row

/-- An alias as it is made. -/
def shownAlias (item : Octets × Octets) : Octets :=
  item.1 ++ '=' :: readable item.2 ++ ['\n']

/-- Aliases with one more, or with a new text for one. -/
def withAlias
    (aliases : Aliases)
    (name text : Octets) :
    Aliases :=
  if (aliases.lookup name).isSome then
    aliases.map fun item => if item.1 == name then (name, text) else item
  else aliases ++ [(name, text)]

/-- Complains about a name that is no alias. -/
def missAlias (name : Octets) : Act Unit := do
  write 2 ((← get).running.getD [] ++ ": ".toList ++ name ++ " not found\n".toList)
  setStatus 1

/-- Makes aliases, or shows them. -/
def makeAliases : Builtin := fun arguments => do
  setStatus 0
  if arguments.isEmpty then
    write 1 ((inRows (← get).aliases).flatMap shownAlias)
  for argument in arguments do
    let name := argument.take 1 ++ (argument.drop 1).takeWhile (· != '=')
    if name.length < argument.length then
      modify fun state => { state with
        aliases := withAlias state.aliases name (argument.drop (name.length + 1)) }
    else
      match (← get).aliases.lookup name with
      | some text => write 1 (shownAlias (name, text))
      | none => missAlias name

/-- Forgets aliases. -/
def forgetAliases : Builtin := fun arguments => do
  let (letters, names) ← readOptions ['a'] arguments
  setStatus 0
  if !letters.isEmpty then modify fun state => { state with aliases := [] }
  else
    for name in names do
      let aliases := (← get).aliases
      if (aliases.lookup name).isSome then
        modify fun state => { state with aliases := aliases.filter (·.1 != name) }
      else missAlias name

end Shell
end CaptureKit
