import CaptureKit.Tools.Work

/-!
# Tools that remove files

`rm` removes files, and folders with everything in them if it is asked to; `rmdir` removes
empty folders; `unlink` removes one file.
-/

namespace CaptureKit
namespace Tools

open Storage Text

/-- How often a tool asks before it acts. -/
inductive Asking
  | never
  | once
  | always
  deriving DecidableEq

/-- How files are removed. -/
structure RemovalStyle where
  /-- What is not there is passed over. -/
  forced : Bool
  /-- Folders are removed with everything in them. -/
  deep : Bool
  /-- Empty folders are removed. -/
  folders : Bool
  /-- Every removal is told. -/
  tells : Bool
  asking : Asking

/-- What kind of entry a question is about. -/
def kindWords : Entry → Octets
  | .file [] => "regular empty file".toList
  | .file _ | .program .. => "regular file".toList
  | .folder => "directory".toList
  | .link _ => "symbolic link".toList
  | .device _ => "character special file".toList

/-- Everything below a folder by its path from there, what is in a folder before the folder
itself. -/
def deepFirst
    (tree : FileTree)
    (folder : Location) :
    List (Location × Entry) :=
  let behindAll := String.singleton (Char.ofNat 0x10FFFF)
  (tree.entries.filterMap fun item =>
      (FileTree.below? folder item.1).map fun location => (location, item.2))
    |>.mergeSort fun a b => comesFirst false (a.1 ++ [behindAll]) (b.1 ++ [behindAll])

/-- Removes one entry, after asking if need be. -/
def removeEntry
    (call : Call)
    (style : RemovalStyle)
    (shown : Octets)
    (location : Location)
    (entry : Entry) :
    Work Unit := do
  let words := "remove ".toList ++ kindWords entry ++ ' ' :: quotedName shown
  let agreed ← if style.asking = .always then ask call words else pure true
  if agreed then
    modify fun progress => { progress with tree := progress.tree.remove location }
    if style.tells then
      let front := if entry = .folder then "removed directory " else "removed "
      say (front.toList ++ quotedName shown)

/-- Removes a folder with everything in it.  A link to the folder itself stays. -/
def removeFolder
    (call : Call)
    (style : RemovalStyle)
    (operand : Octets)
    (location : Location) :
    Work Unit := do
  let present ← presentCall call
  for (path, entry) in deepFirst present.tree location do
    let shown := path.foldl (fun shown name => joined shown (octets name)) operand
    removeEntry call style shown (location ++ path) entry
  let present ← presentCall call
  if isLinkedFolder present operand then
    refuse call (complainThat "cannot remove" operand (.os .notFolder))
  else if (present.tree.children location).isEmpty then
    removeEntry call style operand location .folder
  else refuse call (complainThat "cannot remove" operand (.os .notEmpty))

/-- Removes what an operand names. -/
def removeOperand
    (call : Call)
    (style : RemovalStyle)
    (operand : Octets) :
    Work Unit := do
  let present ← presentCall call
  match present.ownEntry operand with
  | .error fault =>
      if style.forced ∧ (fault = .os .noEntry ∨ fault = .os .notFolder) then return ()
      else refuse call (complainThat "cannot remove" operand fault)
  | .ok (location, .folder) =>
      let name := lastName operand
      if style.deep then
        if name = ['.'] ∨ name = ['.', '.'] then
          refuse call ("refusing to remove '.' or '..' directory: skipping ".toList ++
            quotedName (withoutSlashes operand ++
              (if operand.getLast? = some '/' then ['/'] else [])))
        else if location = [] then
          refuse call ("it is dangerous to operate recursively on ".toList ++ quotedName operand)
          warn call "use --no-preserve-root to override this failsafe".toList
        else removeFolder call style operand location
      else if style.folders then
        if (present.tree.children location).isEmpty then
          if isLinkedFolder present operand then
            refuse call (complainThat "cannot remove" operand (.os .notFolder))
          else removeEntry call style operand location .folder
        else refuse call (complainThat "cannot remove" operand (.os .notEmpty))
      else refuse call (complainThat "cannot remove" operand (.os .isFolder))
  | .ok (location, entry) => removeEntry call style operand location entry

/-- The words that say how often `rm` asks. -/
def askingChoices : Choices Asking :=
  [(["never", "no", "none"], .never), (["once"], .once), (["always", "yes"], .always)]

/-- How often `rm` asks, or the complaint about the word that should say so. -/
def askingOf (arguments : Arguments) : Except Octets Asking :=
  arguments.options.foldlM
    (fun asking (key, value) =>
      match key, value with
      | "f", _ => .ok .never
      | "i", _ => .ok .always
      | "I", _ => .ok .once
      | "interactive", [] => .ok .always
      | "interactive", _ :: word => chooseWord askingChoices "--interactive" word
      | _, _ => .ok asking)
    .never

/-- The question before many or deep removals. -/
def removalQuestion
    (deep : Bool)
    (count : Nat) :
    Option Octets :=
  if deep ∨ 3 < count then
    some ("remove ".toList ++ (toString count).toList ++
      (if count = 1 then " argument" else " arguments").toList ++
      (if deep then " recursively" else "").toList)
  else none

/-- Removes files. -/
def rm : Tool :=
  .withOptions
    [flag 'f' "force", flag 'i' "", flag 'I' "", named "interactive" .perhaps,
      flag 'r' "recursive", flag 'R' "", flag 'd' "dir", flag 'v' "verbose",
      named "one-file-system" .nothing, named "no-preserve-root" .nothing,
      named "preserve-root" .perhaps] 1
    fun call arguments =>
      match askingOf arguments with
      | .error words => call.misused 1 words
      | .ok asking =>
          let deep := arguments.has "r" || arguments.has "R"
          let style : RemovalStyle :=
            { forced := arguments.lastOf? ["f", "i", "I", "interactive"] == some "f"
              deep
              folders := arguments.has "d"
              tells := arguments.has "v"
              asking }
          if arguments.operands.isEmpty then
            if style.forced then call.atOnce 0 else call.missingOperand 1
          else
            Work.finish (do
              match removalQuestion deep arguments.operands.length, asking with
              | some question, .once =>
                  if ← ask call question then
                    for operand in arguments.operands do
                      removeOperand call style operand
              | _, _ =>
                  for operand in arguments.operands do
                    removeOperand call style operand) call 1

/-- The folders on a way, the deepest first, without the last name of each. -/
def foldersOnWay (operand : Octets) : List Octets :=
  let pieces := (withoutSlashes operand).splitOn '/'
  ((List.range pieces.length).map fun n => ['/'].intercalate (pieces.take n)).reverse.filter
    (!·.isEmpty)

/-- Removes one empty folder, and tells whether it is gone. -/
def removeEmptyFolder
    (call : Call)
    (tells lenient : Bool)
    (words : String)
    (operand : Octets) :
    Work Bool := do
  let present ← presentCall call
  if tells then say (call.name ++ ": removing directory, ".toList ++ quotedName operand)
  let fail := fun error : OsError => do
    refuse call (complainThat words operand (.os error))
    return false
  match present.ownEntry operand with
  | .error fault => do
      refuse call (complainThat words operand fault)
      return false
  | .ok (location, .folder) =>
      if lastName operand = ['.'] then fail .invalidArgument
      else if isLinkedFolder present operand then do
        refuse call (words.toList ++ ' ' :: quotedName operand ++
          ": Symbolic link not followed".toList)
        return false
      else if !(present.tree.children location).isEmpty || location = [] then
        if lenient then return false
        else fail .notEmpty
      else do
        modify fun progress => { progress with tree := progress.tree.remove location }
        return true
  | .ok _ => fail .notFolder

/-- Removes folders on a way one by one up to the first that stays. -/
def removeWay
    (call : Call)
    (tells lenient : Bool) :
    List Octets → Work Unit
  | [] => return ()
  | folder :: folders => do
      if ← removeEmptyFolder call tells lenient "failed to remove directory" folder then
        removeWay call tells lenient folders

/-- Removes empty folders. -/
def rmdir : Tool :=
  .withOptions
    [flag 'p' "parents", flag 'v' "verbose", named "ignore-fail-on-non-empty" .nothing] 1
    fun call arguments =>
      let tells := arguments.has "v"
      let lenient := arguments.has "ignore-fail-on-non-empty"
      if arguments.operands.isEmpty then call.missingOperand 1
      else
        Work.finish (do
          for operand in arguments.operands do
            let gone ← removeEmptyFolder call tells lenient "failed to remove" operand
            if gone && arguments.has "p" then
              removeWay call tells lenient (foldersOnWay operand)) call 1

/-- Removes one file. -/
def unlink : Tool :=
  .withOptions [] 1 fun call arguments =>
    match arguments.operands with
    | [] => call.missingOperand 1
    | [operand] =>
        Work.finish (do
          match call.ownEntry operand with
          | .error fault => refuse call (complainThat "cannot unlink" operand fault)
          | .ok (_, .folder) =>
              refuse call (complainThat "cannot unlink" operand (.os .isFolder))
          | .ok (location, _) =>
              modify fun progress => { progress with tree := progress.tree.remove location })
          call 1
    | _ :: operand :: _ => call.extraOperand 1 operand

end Tools
end CaptureKit
