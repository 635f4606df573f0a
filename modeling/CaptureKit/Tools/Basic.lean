import CaptureKit.Storage.Access
import CaptureKit.Storage.Arrangement
import CaptureKit.Text.Octet
import CaptureKit.Tools.Naming
import CaptureKit.Tools.Run

/-!
# Tools

Programs of the operating system cannot be started from here, so the program brings the
small tools that listings and comparisons are made with.  A tool reads its input and its
files as octets.  It leaves a status, what it wrote, and the files.

Commands take any launcher, and these tools with the shell beside them are one.  Nothing
but the program itself uses it.
-/

namespace CaptureKit
namespace Tools

open Storage Text

/-- What a stream of a tool is connected with. -/
inductive Outlet
  /-- The file at a location. -/
  | file (location : Location)
  | device (device : Device)
  /-- What is no file, with the text that can be read from it. -/
  | pipe (text : Octets)

/-- What a tool is started with. -/
structure Call where
  /-- The name under which it was started. -/
  name : Octets
  arguments : List Octets
  input : Octets
  /-- Why the input cannot be read, if it cannot. -/
  inputFault : Option OsError
  /-- Why all output is refused, if it is. -/
  refusal : Option OsError
  /-- The streams that are open, by number. -/
  streams : List (Nat × Outlet)
  /-- How much of the output somebody waits for, if that is limited. -/
  room : Option Nat
  /-- The folder at which relative paths start. -/
  folder : String
  /-- Variables by name. -/
  environment : List (Octets × Octets)
  /-- The rights that new files do not get. -/
  mask : Nat
  tree : FileTree

/-- Where a tool writes. -/
inductive Stream
  | output
  | complaints
  deriving DecidableEq

/-- What a tool leaves. -/
structure Finish where
  status : ExitStatus
  /-- What it wrote, in order. -/
  pieces : List (Stream × Octets)
  /-- The part of the input that it did not read. -/
  unread : Octets
  tree : FileTree

/-- A tool by its behaviour. -/
abbrev Tool := Call → Finish

/-- What was written to a stream. -/
def Finish.written
    (finish : Finish)
    (stream : Stream) :
    Octets :=
  (finish.pieces.filter (·.1 == stream)).flatMap Prod.snd

/-- How many octets a tool takes at most from what has no end. -/
def endlessSize : Nat := 1048576

/-- What a tool reads from a device. -/
def deviceOctets (device : Device) : Except IoFault Octets :=
  match device.source with
  | .holding content => .ok (octetsOf content)
  | .endless => .ok (List.replicate endlessSize '\x00')
  | .refusing error => .error (.os error)

/-- What a tool reads from an entry. -/
def entryOctets : Entry → Except IoFault Octets
  | .device device => deviceOctets device
  | entry => entry.read.map octetsOf

namespace Call

/-- The file that a stream is connected with, if it is one. -/
def placeOf
    (call : Call)
    (stream : Nat) :
    Option Location :=
  match call.streams.lookup stream with
  | some (.file location) => some location
  | _ => none

/-- The input is a file, so what was read too much of it can be given back. -/
def seekable (call : Call) : Bool :=
  (call.placeOf 0).isSome

/-- There is no input. -/
def closed (call : Call) : Bool :=
  (call.streams.lookup 0).isNone

/-- A path as the root sees it: a relative one starts at the working folder. -/
def pathOf
    (call : Call)
    (operand : Octets) :
    String :=
  let path := mend (bytesOf operand)
  if path.isEmpty || isAbsolute path.toList then path else call.folder ++ "/" ++ path

/-- The entry that an operand names, links followed.  The path of a stream leads to what the
stream is connected with. -/
def entry
    (call : Call)
    (operand : Octets) :
    Except IoFault (Location × Entry) :=
  match call.tree.entryAt (call.pathOf operand) with
  | .ok (location, .device ⟨source, .stream number received⟩) =>
      let own := (location, Entry.device ⟨source, .stream number received⟩)
      match call.streams.lookup number with
      | none => .error (.os .noEntry)
      | some (.file place) => .ok ((call.tree.get? place).elim own (place, ·))
      | some (.device device) => .ok (location, .device device)
      | some (.pipe _) => .ok own
  | result => result

/-- The entry that an operand names, a link taken as it is. -/
def ownEntry
    (call : Call)
    (operand : Octets) :
    Except IoFault (Location × Entry) :=
  match call.tree.locate .keep (call.pathOf operand) with
  | .ok (.found location entry) => .ok (location, entry)
  | .ok (.vacant ..) => .error (.os .noEntry)
  | .error fault => .error fault

/-- The content of the file that an operand names. -/
def file
    (call : Call)
    (operand : Octets) :
    Except IoFault Octets :=
  match call.entry operand with
  | .ok (_, .device ⟨_, .stream number _⟩) =>
      match number, call.streams.lookup number with
      | 0, _ => .ok call.input
      | _, some (.pipe text) => .ok text
      | _, _ => .ok []
  | .ok (_, entry) => entryOctets entry
  | .error fault => .error fault

/-- The files after a content was written to the one that an operand names. -/
def withFile
    (call : Call)
    (operand : Octets)
    (content : Bytes) :
    Except IoFault FileTree :=
  let path := call.pathOf operand
  let written := match call.tree.writeBytes path content with
    | (tree, none) => .ok tree
    | (_, some fault) => .error fault
  match call.tree.entryAt path with
  | .ok (_, .device ⟨_, .stream number _⟩) =>
      match call.streams.lookup number with
      | none => .error (.os .noEntry)
      | some (.file place) => .ok (call.tree.overwrite place (.file content))
      | some (.device device) =>
          (((Entry.device device).write content).map fun _ => call.tree).mapError .os
      | some (.pipe _) => written
  | _ => written

/-- The operand names a folder. -/
def isFolder
    (call : Call)
    (operand : Octets) :
    Bool :=
  match call.entry operand with
  | .ok (_, .folder) => true
  | _ => false

/-- Ends with a status after writing pieces in order. -/
def inOrder
    (call : Call)
    (status : Nat)
    (pieces : List (Stream × Octets))
    (unread : Octets) :
    Finish :=
  ⟨.code status, pieces.filter (!·.2.isEmpty), unread, call.tree⟩

/-- Ends with a status.  The complaints come before the output, which is held back until
the end. -/
def leave
    (call : Call)
    (status : Nat)
    (output complaints unread : Octets) :
    Finish :=
  call.inOrder status [(.complaints, complaints), (.output, output)] unread

/-- Ends at once with this status, no input read. -/
def atOnce
    (call : Call)
    (status : Nat) :
    Finish :=
  call.leave status [] [] call.input

/-- Ends with success and this output, no input read. -/
def printed
    (call : Call)
    (output : Octets) :
    Finish :=
  call.leave 0 output [] call.input

/-- The input that is left when some octets at its front were needed.  What cannot be
given back is read block by block. -/
def left
    (call : Call)
    (needed : Nat) :
    Octets :=
  if call.seekable then call.input.drop needed
  else call.input.drop ((needed + blockSize - 1) / blockSize * blockSize)
where
  /-- How much is read at once. -/
  blockSize : Nat := 8192

/-- A line of complaint in the name of the tool. -/
def complaint
    (call : Call)
    (words : Octets) :
    Octets :=
  call.name ++ ": ".toList ++ words ++ ['\n']

/-- Failure with one line of complaint, no input read. -/
def failed
    (call : Call)
    (status : Nat)
    (words : Octets) :
    Finish :=
  call.leave status [] (call.complaint words) call.input

/-- Failure with a complaint and a hint at the help. -/
def misused
    (call : Call)
    (status : Nat)
    (words : Octets) :
    Finish :=
  call.leave status []
    (call.complaint words ++ "Try '".toList ++ call.name ++
      " --help' for more information.\n".toList)
    call.input

/-- Failure since an operand is missing. -/
def missingOperand
    (call : Call)
    (status : Nat) :
    Finish :=
  call.misused status "missing operand".toList

/-- Failure since there is an operand too many. -/
def extraOperand
    (call : Call)
    (status : Nat)
    (operand : Octets) :
    Finish :=
  call.misused status ("extra operand ".toList ++ quotedArgument operand)

end Call

/-- What the operating system said, without its number. -/
def plainWords : IoFault → Octets
  | .os error => error.words.toList
  | fault => octets fault.message

/-- The complaint that names a source and what the operating system said. -/
def complainPlainly
    (source : Octets)
    (fault : IoFault) :
    Octets :=
  nameIfPlain source ++ ": ".toList ++ plainWords fault

/-- The name of a source, in which a dash is the input. -/
def sourceName (source : Octets) : Octets :=
  if source = ['-'] then "standard input".toList else source

/-- A source with its content, or why it cannot be read. -/
abbrev Source := Octets × Except IoFault Octets

/-- Whether a source stands for the input. -/
def isInput
    (call : Call)
    (operand : Octets) :
    Bool :=
  operand == ['-'] ||
    match call.entry operand with
    | .ok (_, .device ⟨_, .stream 0 _⟩) => true
    | _ => false

/-- The sources that operands name, in order.  A dash stands for the input, which can be
read once. -/
def sourcesFrom
    (call : Call)
    (input : Octets) :
    List Octets → List Source × Octets
  | [] => ([], input)
  | operand :: operands =>
      if isInput call operand then
        let (more, unread) := sourcesFrom call [] operands
        let content := match call.inputFault with
          | some error => .error (.os error)
          | none => .ok input
        ((operand, content) :: more, unread)
      else
        let (more, unread) := sourcesFrom call input operands
        ((operand, call.file operand) :: more, unread)

/-- The sources that operands name, the input if there are none, and the input that is
left unread. -/
def sources
    (call : Call)
    (operands : List Octets) :
    List Source × Octets :=
  sourcesFrom call call.input (if operands.isEmpty then [['-']] else operands)

/-- What can be read of sources, in order. -/
def readable (sources : List Source) : List (Octets × Octets) :=
  sources.filterMap fun source => source.2.toOption.map (source.1, ·)

/-- The complaints about sources that cannot be read. -/
def complaintsOn
    (call : Call)
    (words : Octets → IoFault → Octets)
    (sources : List Source) :
    Octets :=
  sources.flatMap fun source =>
    match source.2 with
    | .ok _ => []
    | .error fault => call.complaint (words source.1 fault)

/-- The complaint about a source that cannot be read, in front of what stands for it. -/
def complainOf
    (call : Call)
    (words : Octets → IoFault → Octets)
    (source : Octets)
    (fault : IoFault) :
    Stream × Octets :=
  (.complaints, call.complaint (words source fault))

/-- What a tool writes about each of its sources in turn. -/
def inTurn
    (call : Call)
    (words : Octets → IoFault → Octets)
    (shown : Octets → Octets → Octets)
    (sources : List Source) :
    List (Stream × Octets) :=
  sources.map fun source =>
    match source.2 with
    | .ok content => (.output, shown source.1 content)
    | .error fault => complainOf call words source.1 fault

/-- The complaint at the end of a tool that has read the input, though there is none. -/
def closingWords
    (call : Call)
    (sources : List Source) :
    Octets :=
  if call.closed && sources.any (·.1 == ['-']) then
    call.complaint (complainPlainly ['-'] (.os .badDescriptor))
  else []

/-- The status of a tool that could read all of its sources, or not. -/
def statusOf (sources : List Source) : Nat :=
  if sources.all fun source => source.2.isOk then 0 else 1

/-- A tool that turns the content of each of its operands into output. -/
def filterTool
    (words : Octets → IoFault → Octets)
    (transform : Octets → Octets) :
    Call → List Octets → Finish :=
  fun call operands =>
    let (sources, unread) := sources call operands
    call.inOrder (statusOf sources)
      (inTurn call words (fun _ => transform) sources ++
        [(.complaints, closingWords call sources)])
      unread

/-- Why sources cannot all be read, if so, and their contents otherwise. -/
def contentsOf
    (call : Call)
    (words : Octets → IoFault → Octets)
    (operands : List Octets) :
    Except Octets (List Octets × Octets) :=
  let (sources, unread) := sources call operands
  let complaints := complaintsOn call words sources
  if complaints.isEmpty then .ok ((readable sources).map Prod.snd, unread)
  else .error complaints

end Tools
end CaptureKit
