import CaptureKit.CommandLine.Captures
import CaptureKit.CommandLine.Shaders
import CaptureKit.CommandLine.Textures
import CaptureKit.Tools.Launch

/-!
# The program

The only part that touches the system.  It loads the files and folders that the arguments
name, runs a command on them, prints what the command printed, and stores what it
changed.  The first argument names the command.

From here links can be followed, but neither read nor made, and rights cannot be read.  So
a link is loaded as one to the place where it ends, no file that is loaded can be started,
and a command that makes a link is refused before anything is stored.  The storage is taken
to refuse nothing; the program breaks off where it does.
-/

namespace CaptureKit
namespace Program

open Storage Text Tools

/-- A location as a path of the system. -/
def pathOf (location : Location) : String :=
  "/" ++ String.intercalate "/" location

/-- The location of a path as it is written. -/
def locationOf (path : String) : Location :=
  (steps path.toList).map String.ofList

/-- Loads what is at a location and is neither folder nor link.  Only files can be read
from here. -/
def loadLeaf
    (tree : FileTree)
    (location : Location) :
    IO.FS.FileType → IO FileTree
  | .file => do
      try
        let content ← IO.FS.readBinFile (pathOf location)
        return tree.put location (.file content.toList)
      catch _ => return tree.put location (.device .faulty)
  | _ =>
      -- what every system has is there already
      if (tree.get? location).isSome then return tree
      else return tree.put location (.device .faulty)

/-- Loads one entry of a folder without following it. -/
def loadItem
    (tree : FileTree)
    (folder : Location)
    (item : IO.FS.DirEntry) :
    IO FileTree := do
  let location := folder ++ [item.fileName]
  match (← item.path.symlinkMetadata).type with
  | .dir => return tree.put location .folder
  | .symlink => return tree.put location (.link (← IO.FS.realPath item.path).toString)
  | type => loadLeaf tree location type

/-- Loads what is at a location where a way ends: a folder comes with its entries. -/
def loadEntry
    (tree : FileTree)
    (location : Location) :
    IO FileTree := do
  let path ← IO.FS.realPath (pathOf location)
  match (← path.metadata).type with
  | .dir => do
      let items ← path.readDir
      items.foldlM
        (fun tree item => do
          try loadItem tree location item catch _ => return tree)
        (tree.putFolders [] location)
  | type => loadLeaf (tree.putFolders [] location.dropLast) location type

/-- Loads what is on a way from a folder, link by link, up to where it ends. -/
def loadWay
    (tree : FileTree)
    (here : Location) :
    List String → IO FileTree
  | [] => loadEntry tree here
  | ".." :: rest => loadWay tree here.dropLast rest
  | name :: rest => do
      try
        let next := here ++ [name]
        let real := locationOf (← IO.FS.realPath (pathOf next)).toString
        let linked := if real = next then tree else tree.put next (.link (pathOf real))
        loadWay (linked.putFolders [] real.dropLast) real rest
      catch _ => return tree.putFolders [] here

/-- Where the input of the program is, if the path leads there. -/
def inputAt?
    (tree : FileTree)
    (path : String) :
    Option Location :=
  match tree.entryAt path with
  | .ok (location, .device ⟨_, .stream 0 _⟩) => some location
  | _ => none

/-- Loads the input of the program, if one of the paths leads there. -/
def loadInput
    (tree : FileTree)
    (paths : List String) :
    IO FileTree := do
  match paths.findSome? (inputAt? tree) with
  | some location =>
      let content ← IO.FS.readBinFile (pathOf location)
      return tree.put location (.device (.stream 0 content.toList))
  | none => return tree

/-- The host with what is at the paths. -/
def loadHost
    (places : Places)
    (paths : List String) :
    IO Host := do
  let paths := paths.map places.resolve
  let tree ← paths.foldlM
    (fun tree path => loadWay tree [] (locationOf path))
    (installed places.workingFolder)
  return { toPlaces := places, tree := ← loadInput tree paths }

/-- Stores an entry that a command has put at a location.  What was written to a stream is
printed instead. -/
def storeEntry
    (location : Location) :
    Entry → IO Unit
  | .file content => IO.FS.writeBinFile (pathOf location) ⟨content.toArray⟩
  | .folder => IO.FS.createDirAll (pathOf location)
  | .link _ | .device _ | .program .. => pure ()

/-- Removes an entry that a command has removed from a location.  The programs are not those
of the system. -/
def dropEntry
    (location : Location) :
    Entry → IO Unit
  | .file _ | .link _ | .device _ => IO.FS.removeFile (pathOf location)
  | .folder => IO.FS.removeDir (pathOf location)
  | .program .. => pure ()

/-- The entry is still there, if with another content. -/
def isLeft : (entry : Entry) → (afterwards : Option Entry) → Bool
  | .file _, some (.file _) | .device _, some (.device _) => true
  | entry, afterwards => afterwards == some entry

/-- Stores the changes that a command has made to files; what is deeper goes first and
comes last. -/
def store (before after : FileTree) : IO Unit := do
  let sorted := fun tree : FileTree =>
    tree.entries.mergeSort fun a b => a.1.length ≤ b.1.length
  for (location, entry) in (sorted before).reverse do
    unless isLeft entry (after.get? location) do dropEntry location entry
  for (location, entry) in sorted after do
    if before.get? location ≠ some entry then storeEntry location entry

/-- There is a link that was not there before. -/
def hasNewLink (before after : FileTree) : Bool :=
  after.entries.any fun
    | (location, .link target) => before.get? location != some (.link target)
    | _ => false

/-- A command, given what starts other programs. -/
abbrev Command := Launcher → Host → List String → CommandLine.Outcome

/-- The command of a name. -/
def command? : String → Option Command
  | "nv2a_shader" => some CommandLine.Shaders.run
  | "nv2a_tex" => some CommandLine.Textures.run
  | "nv2a_rdc" => some fun _ => CommandLine.Captures.run
  | _ => none

/-- Runs a command on the files of the system. -/
def perform
    (command : Command)
    (arguments : List String) :
    IO UInt32 := do
  let places : Places := ⟨(← IO.FS.realPath ".").toString, (← IO.getEnv "HOME").getD "/"⟩
  let host ← loadHost places (places.workingFolder :: arguments)
  let outcome := command (launcher places) host arguments
  let complaints ← IO.getStderr
  if hasNewLink host.tree outcome.tree then
    complaints.putStrLn "Error: links cannot be made from here"
    return 1
  store host.tree outcome.tree
  (← IO.getStdout).write ⟨outcome.output.toArray⟩
  complaints.write ⟨(outcome.tree.received 2).toArray⟩
  complaints.putStr outcome.complaint
  return UInt32.ofNat outcome.exit

end Program
end CaptureKit

/-- Runs the command that the first argument names. -/
def main (arguments : List String) : IO UInt32 := do
  match arguments with
  | name :: rest =>
      match CaptureKit.Program.command? name with
      | some command => CaptureKit.Program.perform command rest
      | none => do
          (← IO.getStderr).putStrLn ("unknown command " ++ CaptureKit.Text.quoted name)
          return 2
  | [] => do
      (← IO.getStderr).putStrLn "Usage: <nv2a_shader|nv2a_tex|nv2a_rdc> [ARGUMENTS]"
      return 2
