import CaptureKit.Tools.Options

/-!
# Work on files

A tool that makes, moves or removes files goes through its operands one by one.  Each step
may change the files, write lines, and ask a question that a line of the input answers;
after a refusal the tool goes on with the next operand, and fails in the end.
-/

namespace CaptureKit
namespace Tools

open Storage Text

/-- How far a tool has come. -/
structure Progress where
  tree : FileTree
  /-- What was written, the last piece first. -/
  pieces : List (Stream × Octets)
  /-- The input from which the next answer is read. -/
  unread : Octets
  succeeded : Bool

/-- A step of a tool. -/
abbrev Work := StateM Progress

/-- The call with the files as they are now. -/
def presentCall (call : Call) : Work Call := do
  return { call with tree := (← get).tree }

/-- Writes a line of output. -/
def say (line : Octets) : Work Unit :=
  modify fun progress =>
    { progress with pieces := (.output, line ++ ['\n']) :: progress.pieces }

/-- Writes a line of complaint. -/
def warn
    (call : Call)
    (words : Octets) :
    Work Unit :=
  modify fun progress =>
    { progress with pieces := (.complaints, call.complaint words) :: progress.pieces }

/-- Refuses an operand with a line of complaint. -/
def refuse
    (call : Call)
    (words : Octets) :
    Work Unit := do
  warn call words
  modify fun progress => { progress with succeeded := false }

/-- Changes the files, or refuses with a complaint about what is in the way. -/
def change
    (call : Call)
    (words : IoFault → Octets) :
    Except IoFault FileTree → Work Bool
  | .ok tree => do
      modify fun progress => { progress with tree := tree }
      return true
  | .error fault => do
      refuse call (words fault)
      return false

/-- Asks a question; a line that starts with `y` says yes. -/
def ask
    (call : Call)
    (words : Octets) :
    Work Bool := do
  let progress ← get
  let answer := progress.unread.takeWhile (· != '\n')
  set { progress with
    pieces := (.complaints, call.name ++ ": ".toList ++ words ++ "? ".toList) :: progress.pieces
    unread := progress.unread.drop (answer.length + 1) }
  return answer.head? == some 'y' || answer.head? == some 'Y'

/-- Goes through work from the start, and ends. -/
def Work.finish
    (work : Work Unit)
    (call : Call)
    (failure : Nat) :
    Finish :=
  let ((), progress) := work.run ⟨call.tree, [], call.input, true⟩
  let read := call.input.length - progress.unread.length
  { status := .code (if progress.succeeded then 0 else failure)
    pieces := progress.pieces.reverse
    unread := if read = 0 then call.input else call.left read
    tree := progress.tree }

/-- A path without the slashes at its end, one that is all slashes kept as one. -/
def withoutSlashes (path : Octets) : Octets :=
  match (path.reverse.dropWhile (· == '/')).reverse with
  | [] => path.take 1
  | front => front

/-- The last name of a path. -/
def lastName (path : Octets) : Octets :=
  match (withoutSlashes path).reverse.takeWhile (· != '/') with
  | [] => path.take 1
  | name => name.reverse

/-- The path of a name in a folder. -/
def joined (folder name : Octets) : Octets :=
  if folder.getLast? = some '/' then folder ++ name else folder ++ '/' :: name

/-- A path asks for a folder although a link is in its place. -/
def isLinkedFolder
    (call : Call)
    (operand : Octets) :
    Bool :=
  operand.getLast? == some '/' &&
    match call.ownEntry (withoutSlashes operand) with
    | .ok (_, .link _) => true
    | _ => false

/-- A complaint that names an operand and says what is in the way. -/
def complainThat
    (words : String)
    (operand : Octets)
    (fault : IoFault) :
    Octets :=
  words.toList ++ ' ' :: quotedName operand ++ ": ".toList ++ plainWords fault

/-- Whether one way comes before another: name by name, a folder before what is in it. -/
def comesFirst (backwards : Bool) : Location → Location → Bool
  | [], _ => true
  | _ :: _, [] => false
  | a :: way, b :: other =>
      if a = b then comesFirst backwards way other
      else if backwards then b < a else a < b

end Tools
end CaptureKit
