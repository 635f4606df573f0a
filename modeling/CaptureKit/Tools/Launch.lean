import CaptureKit.Shell.Evaluation
import CaptureKit.Storage.Host
import CaptureKit.Text.Quoted

/-!
# Starting programs

A program is started by its name or by a path.  A name is looked for where programs are
installed.  A path leads to an entry of the files as it would for reading.
-/

namespace CaptureKit
namespace Tools

open Storage Text

/-- Where programs are looked for. -/
def programFolders : List String :=
  ["/usr/local/sbin", "/usr/local/bin", "/usr/sbin", "/usr/bin", "/sbin", "/bin"]

/-- What starts for a name.  What stands for a folder itself cannot be started. -/
def startNamed
    (tree : FileTree)
    (pathOf : Octets → String)
    (name : String)
    (arguments : List Octets) :
    Except IoFault Start :=
  if name = "" then .error (.os .noEntry)
  else if name = "." ∨ name = ".." then .error (.os .accessDenied)
  else if nameLimit < name.utf8ByteSize then .error (.os .nameTooLong)
  else
    match programFolders.findSome? fun folder =>
        (startOf tree pathOf readerLimit (octets (folder ++ "/" ++ name)) (octets name)
          arguments).toOption with
    | some start => .ok start
    | none => .error (.os .noEntry)

/-- What starts for a name or a path. -/
def findStart
    (places : Places)
    (tree : FileTree)
    (program : String)
    (arguments : List Octets) :
    Except IoFault Start :=
  let pathOf := fun path : Octets =>
    let path := mend (bytesOf path)
    if isAbsolute path.toList then path else places.workingFolder ++ "/" ++ path
  if program.toList.contains '/' then
    startOf tree pathOf readerLimit (octets program) (octets program) arguments
  else startNamed tree pathOf program arguments

/-- A text that holds a NUL character. -/
def holdsNul (s : String) : Bool :=
  s.toList.any (·.toNat == 0)

/-- The variables that programs get to see. -/
def environmentAt (places : Places) : List (Octets × Octets) :=
  [("HOME".toList, octets places.home),
    ("LC_ALL".toList, ['C']),
    ("PATH".toList, octets (String.intercalate ":" programFolders)),
    ("PWD".toList, octets places.workingFolder)]

/-- What a program is called with. -/
def callAt
    (places : Places)
    (tree : FileTree)
    (start : Start)
    (input : Bytes) :
    Call where
  name := start.name
  arguments := start.arguments
  input := octetsOf input
  inputFault := none
  refusal := none
  streams := [(0, .pipe (octetsOf input)), (1, .pipe []), (2, .pipe [])]
  room := none
  folder := places.workingFolder
  environment := environmentAt places
  mask := 18
  tree := tree.withStreamPaths

/-- The run that a tool makes, with what it wrote to its streams by their paths, and the
files. -/
def Finish.run (finish : Finish) : Run × FileTree :=
  (⟨finish.status,
      bytesOf (finish.written .output) ++ finish.tree.received 1,
      bytesOf (finish.written .complaints) ++ finish.tree.received 2⟩,
    finish.tree.withoutReceived.withoutStreamPaths)

/-- Starts programs, and waits for their end. -/
def launcher (places : Places) : Launcher := fun program arguments input tree =>
  if holdsNul program || arguments.any holdsNul then (.error .nulInArgument, tree)
  else
    match findStart places tree program (arguments.map octets) with
    | .error fault => (.error fault, tree)
    | .ok start =>
        if start.hasRoom (environmentAt places) then
          match Shell.programs start.program with
          | none => (.error (.os .accessDenied), tree)
          | some tool =>
              let (run, tree) := (tool (callAt places tree start input)).run
              (.ok run, tree.workingIn places.workingFolder)
        else (.error (.os .tooMuch), tree)

end Tools
end CaptureKit
