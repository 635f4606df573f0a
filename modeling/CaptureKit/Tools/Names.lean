import CaptureKit.Tools.Work

/-!
# Names and paths

`basename` and `dirname` cut a path into its last name and what is in front of it;
`readlink` and `realpath` follow links; `pwd` writes the working folder; `which` writes where
programs are.
-/

namespace CaptureKit
namespace Tools

open Storage Text

/-- A name without an ending, unless the ending is all of it. -/
def withoutEnding
    (ending name : Octets) :
    Octets :=
  if ending ≠ name ∧ ending.isSuffixOf name then name.take (name.length - ending.length) else name

/-- What stands in front of the last name of a path. -/
def folderPart (path : Octets) : Octets :=
  let front := withoutSlashes path
  let folder := (front.reverse.dropWhile (· != '/')).reverse
  if folder.isEmpty then ['.'] else withoutSlashes folder

/-- What ends the lines of a tool that can use the octet 0. -/
def lineEnd (arguments : Arguments) : Octets :=
  if arguments.has "z" then [Char.ofNat 0] else ['\n']

/-- Writes the last names of paths. -/
def basename : Tool :=
  .withLeadingOptions
    [flag 'a' "multiple", valued 's' "suffix", flag 'z' "zero"] 1
    fun call arguments =>
      let line := fun ending path : Octets =>
        withoutEnding ending (lastName path) ++ lineEnd arguments
      let ending := (arguments.value? "s").getD []
      match arguments.operands with
      | [] => call.missingOperand 1
      | operands =>
          if arguments.has "a" || arguments.has "s" then
            call.printed (operands.flatMap (line ending))
          else
            match operands with
            | [path] => call.printed (line [] path)
            | [path, ending] => call.printed (line ending path)
            | _ => call.extraOperand 1 (operands.getD 2 [])

/-- Writes what stands in front of the last names of paths. -/
def dirname : Tool :=
  .withOptions [flag 'z' "zero"] 1 fun call arguments =>
    if arguments.operands.isEmpty then call.missingOperand 1
    else
      call.printed
        (arguments.operands.flatMap fun path => folderPart path ++ lineEnd arguments)

/-- The location of a path of which the last name may be missing, or any name. -/
def locationAt
    (call : Call)
    (needsLast : Bool)
    (operand : Octets) :
    Except IoFault Location :=
  match call.tree.locate .follow (call.pathOf operand) with
  | .ok (.found location _) => .ok location
  | .ok (.vacant folder name) =>
      if needsLast then .error (.os .noEntry) else .ok (folder ++ [name])
  | .error fault => .error fault

/-- A location as a path. -/
def spelled (location : Location) : Octets :=
  '/' :: octets (String.intercalate "/" location)

/-- Writes where links lead. -/
def readlink : Tool :=
  .withOptions
    [flag 'f' "canonicalize", flag 'e' "canonicalize-existing", flag 'm' "canonicalize-missing",
      flag 'n' "no-newline", flag 'q' "quiet", flag 's' "silent", flag 'v' "verbose",
      flag 'z' "zero"] 1
    fun call arguments =>
      if arguments.operands.isEmpty then call.missingOperand 1
      else
        let follow := ["f", "e", "m"].any arguments.has
        let answers := arguments.operands.map fun operand =>
          if follow then (locationAt call (arguments.has "e") operand).map spelled
          else
            match call.ownEntry operand with
            | .ok (_, .link target) => .ok (octets target)
            | .ok _ => .error (.os .invalidArgument)
            | .error fault => .error fault
        let isOne := arguments.operands.length = 1
        let ending := if arguments.has "n" && isOne then [] else lineEnd arguments
        let warning := if arguments.has "n" && !isOne
          then call.complaint "ignoring --no-newline with multiple arguments".toList else []
        let tells := arguments.lastOf? ["q", "s", "v"] = some "v"
        call.inOrder (if answers.all (·.isOk) then 0 else 1)
          ((.complaints, warning) :: (arguments.operands.zip answers).map fun
            | (_, .ok path) => (.output, path ++ ending)
            | (operand, .error fault) =>
                (.complaints, if tells then call.complaint (complainPlainly operand fault) else []))
          call.input

/-- Writes paths without links. -/
def realpath : Tool :=
  .withOptions
    [flag 'e' "canonicalize-existing", flag 'm' "canonicalize-missing", flag 'q' "quiet",
      flag 's' "no-symlinks"] 1
    fun call arguments =>
      if arguments.operands.isEmpty then call.missingOperand 1
      else
        Work.finish (do
          for operand in arguments.operands do
            match locationAt call (arguments.has "e") operand with
            | .ok location => say (spelled location)
            | .error fault => refuse call (nameIfPlain operand ++ ": ".toList ++ plainWords fault))
          call 1

/-- Writes the working folder. -/
def pwd : Tool :=
  .withOptions [flag 'L' "logical", flag 'P' "physical"] 1 fun call _ =>
    call.printed (octets call.folder ++ ['\n'])

/-- The file of a program that a name stands for, in each folder that has one. -/
def filesOfProgram
    (call : Call)
    (name : Octets) :
    List Octets :=
  let folders := ((call.environment.lookup "PATH".toList).getD []).splitOn ':'
  let paths := if name.contains '/' then [name]
    else folders.map fun folder => (if folder.isEmpty then ['.'] else folder) ++ '/' :: name
  paths.filter fun path =>
    match call.entry path with
    | .ok (location, .file _) | .ok (location, .program ..) => call.tree.isStartable location
    | _ => false

/-- Writes where programs are. -/
def which : Tool := fun call =>
  match readArguments (letters "a") true call.arguments with
  | .error _ =>
      call.leave 2 [] (call.complaint
        "Illegal option\nUsage: /usr/bin/which [-a] args".toList) call.input
  | .ok arguments =>
      let found := arguments.operands.map (filesOfProgram call)
      let shown := found.flatMap fun paths => if arguments.has "a" then paths else paths.take 1
      let isComplete := !found.isEmpty && found.all (!·.isEmpty)
      call.leave (if isComplete then 0 else 1) (shown.flatMap (· ++ ['\n'])) [] call.input

end Tools
end CaptureKit
