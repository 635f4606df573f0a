import CaptureKit.Tools.Lines
import CaptureKit.Tools.Moment
import CaptureKit.Tools.Rights

/-!
# Tools that make files and folders

`touch` makes empty files and sets the times of files, `mkdir` makes folders, and `truncate`
makes files as long as asked for.
-/

namespace CaptureKit
namespace Tools

open Storage Text

/-- What is set at files. -/
structure TouchStyle where
  /-- Files that are not there are made. -/
  makes : Bool
  /-- Links are not followed, and nothing is made. -/
  keepsLinks : Bool
  /-- The time of change, if that is set. -/
  time : Option Int

/-- Sets the time of a file, which is made if need be. -/
def touchOperand
    (call : Call)
    (style : TouchStyle)
    (operand : Octets) :
    Work Unit := do
  let present ← presentCall call
  let set := fun (tree : FileTree) (location : Location) =>
    match style.time with
    | some time => tree.withTime location time
    | none => tree
  match if style.keepsLinks then present.ownEntry operand else present.entry operand with
  | .ok (location, _) => modify fun progress =>
      { progress with tree := set progress.tree location }
  | .error fault =>
      if operand.getLast? = some '/' then
        refuse call (complainThat "setting times of" operand fault)
      else if fault ≠ .os .noEntry then refuse call (complainThat "cannot touch" operand fault)
      else if style.makes && style.keepsLinks then
        refuse call (complainThat "setting times of" operand fault)
      else if style.makes then
        if ← change call (complainThat "cannot touch" operand)
            (present.withFile operand []) then
          match (← presentCall call).entry operand with
          | .ok (location, _) => modify fun progress =>
              { progress with tree := set progress.tree location }
          | .error _ => return ()

/-- The time that files are to have, by options in their order of importance. -/
def timeAsked
    (call : Call)
    (arguments : Arguments) :
    Except Finish Int := do
  let wrong := fun text => call.failed 1 ("invalid date format ".toList ++ quotedArgument text)
  let now ← match arguments.value? "r" with
    | none => pure call.tree.now
    | some path =>
        match call.entry path with
        | .ok (location, _) => pure (call.tree.timeAt location)
        | .error fault =>
            throw (call.failed 1 (complainThat "failed to get attributes of" path fault))
  match arguments.value? "t", arguments.value? "d" with
  | some text, none => (stampMoment? text).elim (.error (wrong text)) .ok
  | none, some text => (moment? now text).elim (.error (wrong text)) .ok
  | none, none => pure now
  | some _, some _ => throw (call.misused 1 "cannot specify times from more than one source".toList)

/-- Makes empty files and sets times. -/
def touch : Tool :=
  .withOptions
    [flag 'a' "", flag 'c' "no-create", valued 'd' "date", flag 'f' "",
      flag 'h' "no-dereference", flag 'm' "", valued 'r' "reference", valued 't' "",
      named "time" .value] 1
    fun call arguments =>
      match timeAsked call arguments with
      | .error finish => finish
      | .ok time =>
          if arguments.operands.isEmpty then call.misused 1 "missing file operand".toList
          else
            let changes := arguments.has "m" || !arguments.has "a"
            let style : TouchStyle :=
              { makes := !arguments.has "c"
                keepsLinks := arguments.has "h"
                time := if changes then some time else none }
            Work.finish (do
              for operand in arguments.operands do
                if operand ≠ ['-'] then touchOperand call style operand) call 1

/-- Makes a folder, and tells so. -/
def makeOne
    (call : Call)
    (tells : Bool)
    (operand : Octets) :
    Work Unit := do
  let present ← presentCall call
  let made := present.tree.makeFolder (present.pathOf operand)
  if (← change call (complainThat "cannot create directory" operand) made) && tells then
    say (call.name ++ ": created directory ".toList ++ quotedName operand)

/-- The paths of the folders on a way, the shortest first. -/
def waysTo (operand : Octets) : List Octets :=
  let pieces := (withoutSlashes operand).splitOn '/'
  ((List.range pieces.length).map fun n => ['/'].intercalate (pieces.take (n + 1))).filter
    (!·.isEmpty)

/-- Makes the folders on a way that are not there, up to the first that cannot be made. -/
def makeWay
    (call : Call)
    (tells : Bool) :
    List Octets → Work Unit
  | [] => return ()
  | operand :: operands => do
      let present ← presentCall call
      if present.isFolder operand then makeWay call tells operands
      else
        match present.entry operand with
        | .ok _ =>
            let fault := if operands.isEmpty then OsError.alreadyThere else .notFolder
            refuse call (complainThat "cannot create directory" operand (.os fault))
        | .error _ =>
            makeOne call tells operand
            if (← presentCall call).isFolder operand then makeWay call tells operands

/-- Makes folders. -/
def mkdir : Tool :=
  .withOptions
    [valued 'm' "mode", flag 'p' "parents", flag 'v' "verbose", flag 'Z' ""] 1
    fun call arguments =>
      if arguments.operands.isEmpty then call.missingOperand 1
      else
        let tells := arguments.has "v"
        Work.finish (do
          for operand in arguments.operands do
            if arguments.has "p" && !operand.isEmpty then makeWay call tells (waysTo operand)
            else makeOne call tells operand) call 1

/-- How long a file of some length becomes. -/
def lengthAsked
    (sign : Option Char)
    (number before : Nat) :
    Nat :=
  match sign with
  | none => number
  | some '+' => before + number
  | some '-' => before - number
  | some '<' => min before number
  | some '>' => max before number
  | some '/' => before / number * number
  | some _ => (before + number - 1) / number * number

/-- The sign and the number of a length. -/
def lengthForm? (text : Octets) : Option (Option Char × Nat) :=
  match text with
  | [] => none
  | c :: rest =>
      if ['+', '-', '<', '>', '/', '%'].contains c then (count? rest).map (some c, ·)
      else (count? text).map (none, ·)

/-- Makes files as long as asked for. -/
def truncate : Tool :=
  .withOptions
    [flag 'c' "no-create", flag 'o' "io-blocks", valued 'r' "reference", valued 's' "size"] 1
    fun call arguments =>
      match arguments.value? "s" with
      | none => call.misused 1 "you must specify either '--size' or '--reference'".toList
      | some size =>
          match lengthForm? size with
          | none => call.failed 1 ("Invalid number: ".toList ++ quotedArgument size)
          | some (sign, number) =>
              if arguments.operands.isEmpty then call.misused 1 "missing file operand".toList
              else
                Work.finish (do
                  for operand in arguments.operands do
                    let present ← presentCall call
                    let found := present.file operand
                    if found.isOk || !arguments.has "c" then
                      let before := bytesOf (found.toOption.getD [])
                      let wanted := lengthAsked sign number before.length
                      let content := before.take wanted ++
                        List.replicate (wanted - before.length) 0
                      let _ ← change call
                        (fun fault => "cannot open ".toList ++ quotedName operand ++
                          " for writing: ".toList ++ plainWords fault)
                        (present.withFile operand content)) call 1

end Tools
end CaptureKit
