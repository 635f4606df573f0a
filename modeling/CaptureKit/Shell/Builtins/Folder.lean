import CaptureKit.Shell.Builtins.Basic

/-!
# The folder of a shell

A shell knows its folder by the path that led there; links on that path stay in it unless
the folder is asked for without them.
-/

namespace CaptureKit
namespace Shell

open Storage Text Tools

/-- A path without steps that stay in place or lead back.  Two slashes at its front stay
two. -/
def straightened (path : List Char) : String :=
  let walked := (steps path).foldl
    (fun done step => if step = ['.', '.'] then done.dropLast else done ++ [step]) []
  let front := if (path.takeWhile (· == '/')).length = 2 then "//" else "/"
  front ++ String.intercalate "/" (walked.map String.ofList)

/-- The path of a folder without links. -/
def placeOf
    (state : State)
    (path : String) :
    Option String :=
  match state.tree.entryAt path with
  | .ok (location, .folder) => some ("/" ++ String.intercalate "/" location)
  | _ => none

/-- The paths at which a folder is looked for, each with whether it is told. -/
def folderChoices
    (state : State)
    (target : Octets) :
    List (Octets × Bool) :=
  let isDirect := target.head? = some '/' ||
    (match target.splitOn '/' with
      | ['.'] :: _ | ['.', '.'] :: _ => true
      | _ => false)
  match if isDirect then none else state.value? "CDPATH".toList with
  | none => [(target, false)]
  | some folders =>
      (folders.splitOn ':').map (fun folder =>
        if folder.isEmpty then (target, false) else (folder ++ '/' :: target, true)) ++
        [(target, false)]

/-- Changes the folder. -/
def changeFolder : Builtin := fun arguments => do
  let (letters, operands) ← readOptions ['L', 'P'] arguments
  let state ← get
  let target := match operands with
    | [] => (state.value? "HOME".toList).getD []
    | ['-'] :: _ => (state.value? "OLDPWD".toList).getD []
    | operand :: _ => operand
  let isPlain := letters.getLast? = some 'P'
  let found := (folderChoices state (if target.isEmpty then ['.'] else target)).findSome?
    fun (path, told) =>
      let path := if isPlain then state.pathOf path else straightened (state.pathOf path).toList
      (placeOf state path).map fun place => (if isPlain then place else path, told)
  match found with
  | some (path, told) => do
      assign "OLDPWD".toList (octets state.folder) true
      modify fun state =>
        { state with
          folder := path
          found := state.found.aged }.withTree state.tree
      assign "PWD".toList (octets path) true
      if told || operands.head? = some ['-'] then write 1 (octets path ++ ['\n'])
      setStatus 0
  | none => abort 2 ("can't cd to ".toList ++ target)

/-- Prints the folder. -/
def printFolder : Builtin := fun arguments => do
  let (letters, _) ← readOptions ['L', 'P'] arguments
  let state ← get
  let path := match letters.getLast?, state.tree.entryAt state.folder with
    | some 'P', .ok (location, _) => "/" ++ String.intercalate "/" location
    | _, _ => state.folder
  write 1 (octets path ++ ['\n'])
  setStatus 0

end Shell
end CaptureKit
