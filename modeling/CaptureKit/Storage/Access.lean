import CaptureKit.Storage.FileTree
import CaptureKit.Storage.IoFault
import CaptureKit.Storage.Path

/-!
# Access to files by path

A path is walked name by name from the root.  Each name but the last must lead to a
folder; links on the way are followed, forty of them at most.  Reading, writing,
listing, removing and linking are defined on where the walk ends, and each refuses as
the operating system does, or as the storage does by its limits.
-/

namespace CaptureKit
namespace Storage

open Text

/-- The names to walk.  A slash at the end is an empty name behind them. -/
def route (path : List Char) : List String :=
  (names path).map String.ofList ++ if endsInSlash path then [""] else []

/-- Where a walk ends. -/
inductive Landing
  /-- At an entry. -/
  | found (location : Location) (entry : Entry)
  /-- In a folder that has no entry of the last name. -/
  | vacant (folder : Location) (name : String)
  deriving DecidableEq

/-- Where the entry is, or would be, that a walk ends at. -/
def Landing.place : Landing → Location
  | .found location _ => location
  | .vacant folder name => folder ++ [name]

/-- What is there when a content was written from the start. -/
def Landing.write
    (content : Bytes) :
    Landing → Except OsError Entry
  | .found _ entry => entry.write content
  | .vacant .. => .ok (.file content)

/-- What a walk does with its last name. -/
inductive Ending
  /-- It is followed if it is a link. -/
  | follow
  /-- It is taken as it is. -/
  | keep
  /-- It is followed if it is a link, and no slash may stand behind it. -/
  | create
  deriving DecidableEq

/-- How many links one walk follows. -/
def linkLimit : Nat := 40

/-- How many bytes a name may have. -/
def nameLimit : Nat := 255

/-- How many bytes a path may have. -/
def pathLimit : Nat := 4095

/-- Nothing can be made in a folder, and nothing removed from it, since the system itself
fills it. -/
def isSealed (folder : Location) : Bool :=
  folder.head? == some "proc"

namespace FileTree

/-- Walks on from a location; `links` more links may be followed. -/
def walk
    (tree : FileTree)
    (ending : Ending)
    (links : Nat)
    (here : Location) :
    List String → Except OsError Landing
  | [] =>
      match tree.get? here with
      | some entry => .ok (.found here entry)
      | none => .error .noEntry
  | name :: rest =>
      if tree.get? here ≠ some .folder then .error .notFolder
      else if name = "." ∨ name = "" then walk tree ending links here rest
      else if name = ".." then walk tree ending links here.dropLast rest
      else if ending = .create ∧ rest = [""] then .error .isFolder
      else if nameLimit < name.utf8ByteSize then .error .nameTooLong
      else
        match tree.get? (here ++ [name]) with
        | none =>
            if rest.isEmpty && !isSealed here then .ok (.vacant here name) else .error .noEntry
        | some (.link target) =>
            if rest.isEmpty && ending == .keep then
              .ok (.found (here ++ [name]) (.link target))
            else
              match links with
              | 0 => .error .tooManyLinks
              | left + 1 =>
                  walk tree ending left (if isAbsolute target.toList then [] else here)
                    (route target.toList ++ rest)
        | some _ => walk tree ending links (here ++ [name]) rest
termination_by names => (links, names.length)

/-- Where the given names of an absolute path lead. -/
def locateNames
    (tree : FileTree)
    (ending : Ending)
    (path : String)
    (names : List String) :
    Except IoFault Landing :=
  if path.toList.any (·.toNat == 0) then .error .nulInName
  else if path.isEmpty then .error (.os .noEntry)
  else if pathLimit < path.utf8ByteSize then .error (.os .nameTooLong)
  else (tree.walk ending linkLimit [] names).mapError .os

/-- Where an absolute path leads. -/
def locate
    (tree : FileTree)
    (ending : Ending)
    (path : String) :
    Except IoFault Landing :=
  tree.locateNames ending path (route path.toList)

/-- The entry at a path, links followed. -/
def entryAt
    (tree : FileTree)
    (path : String) :
    Except IoFault (Location × Entry) :=
  match tree.locate .follow path with
  | .ok (.found location entry) => .ok (location, entry)
  | .ok (.vacant ..) => .error (.os .noEntry)
  | .error fault => .error fault

/-- The bytes of the file at a path. -/
def readBytes
    (tree : FileTree)
    (path : String) :
    Except IoFault Bytes :=
  match tree.entryAt path with
  | .ok (_, entry) => entry.read
  | .error fault => .error fault

/-- The text of the file at a path. -/
def readText
    (tree : FileTree)
    (path : String) :
    Except IoFault String :=
  match tree.readBytes path with
  | .ok bytes => (decode bytes).mapError fun _ => .notText
  | .error fault => .error fault

/-- Makes the file at a path have this content, and makes the file if there is none; the
files afterwards come with the fault, if any.  A path that asks for a folder is refused.  What
was in a file is gone once it is opened, so a file that does not take all of the content is
left with the part that it took. -/
def writeBytes
    (tree : FileTree)
    (path : String)
    (content : Bytes) :
    FileTree × Option IoFault :=
  match tree.locate .create path with
  | .error fault => (tree, some fault)
  | .ok landing =>
      let limits := tree.limitsAt landing.place
      let (taken, refused) := limits.cut content
      match limits.opening, landing.write taken with
      | some error, _ | none, .error error => (tree, some (.os error))
      | none, .ok entry => (tree.overwrite landing.place entry, refused.map .os)

/-- The entries of the folder at a path. -/
def readFolder
    (tree : FileTree)
    (path : String) :
    Except IoFault (List (String × Entry)) :=
  match tree.entryAt path with
  | .ok (location, .folder) => .ok (tree.children location)
  | .ok _ => .error (.os .notFolder)
  | .error fault => .error fault

/-- A path whose last name stands for a folder whatever the files are. -/
def namesFolderItself (path : List Char) : Bool :=
  match (names path).getLast? with
  | none => true
  | some last => last == ['.'] || last == ['.', '.']

/-- Removes the file or link at a path. -/
def removeFile
    (tree : FileTree)
    (path : String) :
    Except IoFault FileTree :=
  match tree.locateNames .keep path ((names path.toList).map String.ofList) with
  | .ok (.found location entry) =>
      if entry = .folder || namesFolderItself path.toList then .error (.os .isFolder)
      else if endsInSlash path.toList then .error (.os .notFolder)
      else if isSealed location.dropLast then .error (.os .notPermitted)
      else
        match (tree.limitsAt location).removal with
        | some error => .error (.os error)
        | none => .ok (tree.remove location)
  | .ok (.vacant ..) => .error (.os .noEntry)
  | .error fault => .error fault

/-- Makes a folder at a path where there is nothing. -/
def makeFolder
    (tree : FileTree)
    (path : String) :
    Except IoFault FileTree :=
  match tree.locateNames .keep path ((names path.toList).map String.ofList) with
  | .ok (.found ..) => .error (.os .alreadyThere)
  | .ok (.vacant folder name) => .ok (tree.put (folder ++ [name]) .folder)
  | .error fault => .error fault

/-- Makes the folders that are missing on a way from a path on. -/
def makeFoldersFrom
    (tree : FileTree)
    (path : String) :
    List String → Except IoFault FileTree
  | [] => .ok tree
  | name :: rest =>
      let next := path ++ "/" ++ name
      match tree.entryAt next with
      | .ok (_, .folder) => makeFoldersFrom tree next rest
      | _ =>
          match tree.makeFolder next with
          | .ok made => makeFoldersFrom made next rest
          | .error fault => .error fault

/-- Makes the folders that are missing on an absolute path. -/
def makeFolders
    (tree : FileTree)
    (path : String) :
    Except IoFault FileTree :=
  tree.makeFoldersFrom "" ((names path.toList).map String.ofList)

/-- Makes a link at a path where nothing is. -/
def makeLink
    (tree : FileTree)
    (target path : String) :
    Except IoFault FileTree :=
  if target.toList.any (·.toNat == 0) then .error .nulInName
  else if path.toList.any (·.toNat == 0) then .error .nulInName
  else if target.isEmpty then .error (.os .noEntry)
  else if pathLimit < target.utf8ByteSize then .error (.os .nameTooLong)
  else
    match tree.locate .keep path with
    | .ok (.found ..) => .error (.os .alreadyThere)
    | .ok (.vacant folder name) =>
        match (tree.limitsAt (folder ++ [name])).link with
        | some error => .error (.os error)
        | none => .ok (tree.put (folder ++ [name]) (.link target))
    | .error fault => .error fault

end FileTree

end Storage
end CaptureKit
