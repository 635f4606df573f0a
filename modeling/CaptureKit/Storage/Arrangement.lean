import CaptureKit.Storage.FileTree

/-!
# What other programs do to files

A command reads, writes, removes and links.  Other programs also change rights and times,
move what is there, give a file further locations, and have streams of their own that are
found by paths.
-/

namespace CaptureKit
namespace Storage

open Text

/-- The rights of an entry that nobody has changed, three bits each for its owner, its group
and all others. -/
def Entry.usualRights : Entry → Nat
  | .file _ => 420
  | .folder | .program .. => 493
  | .link _ => 511
  | .device _ => 438

namespace FileTree

/-- What is at two locations is one file. -/
def areSame
    (tree : FileTree)
    (location other : Location) :
    Bool :=
  (tree.twins location).contains other

/-- When the entry at a location was changed. -/
def timeAt
    (tree : FileTree)
    (location : Location) :
    Int :=
  (tree.times.lookup location).getD 0

/-- The tree with another time of change at a location. -/
def withTime
    (tree : FileTree)
    (location : Location)
    (time : Int) :
    FileTree :=
  { tree with
    times := (tree.twins location).foldl (fun times twin => noted 0 times twin time) tree.times }

/-- The rights of the entry at a location. -/
def rightsAt
    (tree : FileTree)
    (location : Location) :
    Nat :=
  (tree.rights.lookup location).getD ((tree.get? location).elim 0 Entry.usualRights)

/-- The tree with other rights at a location. -/
def withRights
    (tree : FileTree)
    (location : Location)
    (rights : Nat) :
    FileTree :=
  let isTwin := (tree.twins location).contains
  { tree with
    rights := (tree.twins location).map (·, rights) ++ tree.rights.filter (!isTwin ·.1) }

/-- The file at a location can be started. -/
def isStartable
    (tree : FileTree)
    (location : Location) :
    Bool :=
  let rights := tree.rightsAt location
  rights % 2 == 1 || rights / 8 % 2 == 1 || rights / 64 % 2 == 1

/-- The tree with a new entry at a location, where another one may have been. -/
def replace
    (tree : FileTree)
    (location : Location)
    (entry : Entry) :
    FileTree :=
  (tree.remove location).put location entry

/-- The tree with the entry at a location at one more. -/
def share
    (tree : FileTree)
    (source target : Location) :
    FileTree :=
  match tree.get? source with
  | none => tree
  | some entry =>
      let tree := tree.remove target
      let group := tree.twins source
      { tree with
        entries := putIn tree.entries target entry
        rights := ((tree.rights.lookup source).map (target, ·)).toList ++ tree.rights
        times := noted 0 tree.times target (tree.timeAt source)
        shared := (target :: group) :: tree.shared.filter (· != group) }

/-- The names that lead from a folder to a location below it. -/
def below? : (folder location : Location) → Option Location
  | [], [] => none
  | [], location => some location
  | _ :: _, [] => none
  | a :: folder, b :: location => if a = b then below? folder location else none

/-- The tree with the entry at a location, and everything below it, at another one. -/
def move
    (tree : FileTree)
    (source target : Location) :
    FileTree :=
  let moved := fun place =>
    if place = source then target
    else
      match below? source place with
      | some rest => target ++ rest
      | none => place
  let tree := tree.remove target
  { tree with
    entries := tree.entries.map fun item => (moved item.1, item.2)
    rights := tree.rights.map fun item => (moved item.1, item.2)
    times := tree.times.map fun item => (moved item.1, item.2)
    shared := tree.shared.map (·.map moved) }

/-- All entries below a folder by their path from there, in the order of these paths. -/
def listing
    (tree : FileTree)
    (folder : Location) :
    List (String × Entry) :=
  (tree.entries.filterMap fun item =>
      (below? folder item.1).map fun location => (String.intercalate "/" location, item.2))
    |>.mergeSort fun a b => a.1 ≤ b.1

/-- The tree with streams that got nothing by their paths. -/
def withoutReceived (tree : FileTree) : FileTree :=
  { tree with
    entries := tree.entries.map fun item =>
      match item.2 with
      | .device ⟨source, .stream number _⟩ => (item.1, .device ⟨source, .stream number []⟩)
      | _ => item }

/-- The paths of the streams that a program may open besides the usual ones. -/
def extraStreamPaths : List (Location × Entry) :=
  (List.range' 3 7).map fun number =>
    (["proc", "self", "fd", toString number], .device (.stream number []))

/-- The tree with a path for each stream that a program may open. -/
def withStreamPaths (tree : FileTree) : FileTree :=
  { tree with entries := tree.entries ++ extraStreamPaths }

/-- The tree without the paths of streams that only some programs have. -/
def withoutStreamPaths (tree : FileTree) : FileTree :=
  let isExtra := fun location => (extraStreamPaths.lookup location).isSome
  { tree with entries := tree.entries.filter (!isExtra ·.1) }

end FileTree

end Storage
end CaptureKit
