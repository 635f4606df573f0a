import CaptureKit.Shell.FoundPrograms
import CaptureKit.Shell.Job
import CaptureKit.Shell.Reading
import CaptureKit.Storage.System
import CaptureKit.Text.Numeral
import CaptureKit.Tools.Basic

/-!
# The state of a shell

A shell has parameters, variables, functions and options; it works in a folder of the
files, and its streams are connected with channels.  A channel holds text that is still to
be read, collects what is written, or stands for a file.  What a part of a script changes
for itself only is undone afterwards; files and channels are shared by all parts.
-/

namespace CaptureKit
namespace Shell

open Storage Text Tools

/-- A command in the background as the one who has written something. -/
structure Sender where
  /-- The number of its job. -/
  job : Nat
  /-- The stretch of time to which the shell belongs that has put it in the background. -/
  era : Nat
  deriving DecidableEq

/-- What a stream is connected with. -/
inductive Channel
  /-- Text that can be read once. -/
  | source (rest : Octets)
  /-- Collects what is written, the last piece first, up to the room that may be given. -/
  | sink (pieces : List Octets) (room : Option Nat)
  /-- A stream of the shell itself, with the room that may be left. -/
  | outer (stream : Stream) (room : Option Nat)
  /-- Holds back what a command in the background writes to another channel. -/
  | later (sender : Sender) (target : Nat)
  /-- A place in a file. -/
  | file (location : Location) (offset : Nat) (reads writes appends : Bool)
  | device (device : Device)
  /-- A folder, which cannot be read. -/
  | folder

/-- A variable. -/
structure Variable where
  /-- Its value, if it has one. -/
  value : Option Octets
  /-- Programs get to see it. -/
  exported : Bool
  /-- It keeps its value for ever. -/
  fixed : Bool

/-- Why a script does not go on with its next command. -/
inductive Jump
  /-- Leaves so many loops. -/
  | leave (levels : Nat)
  /-- Leaves all but one of so many loops, and begins that one again. -/
  | again (levels : Nat)
  /-- Returns from a function, with a status of its choice or without. -/
  | give (chosen : Bool)
  /-- Ends the shell. -/
  | stop
  /-- Ends the shell because of a fault, unless something can go on with a failure. -/
  | fault
  /-- Another program takes the place of the shell and ends so. -/
  | replaced (status : ExitStatus)
  /-- A signal ends the shell. -/
  | slain (signal : Nat)
  deriving DecidableEq

/-- What an open function keeps to itself, as it was before. -/
inductive Kept
  | variable (name : Octets) (before : Option Variable)
  /-- The letters of the options that were set. -/
  | options (letters : List Char)

/-- What a command in the background has written, and others do not see yet. -/
structure HeldText where
  sender : Sender
  /-- The channel that it goes to. -/
  target : Nat
  text : Octets
  /-- When it was written. -/
  time : Nat

/-- A signal that is on its way. -/
structure SentSignal where
  /-- The command in the background that has sent it, if it was one. -/
  sender : Option Sender
  /-- The number of the process that it is for. -/
  process : Nat
  signal : Nat
  time : Nat

/-- The state of a shell. -/
structure State where
  /-- The name under which it complains. -/
  name : Octets
  parameters : List Octets
  bindings : List (Octets × Variable)
  functions : List (Octets × Command)
  /-- The programs that were found by their names. -/
  found : FoundPrograms
  aliases : Aliases
  /-- The letters of the options that are set. -/
  options : List Char
  /-- What to do at signals, and at the end, which counts as signal 0. -/
  traps : List (Nat × Octets)
  /-- The texts that scripts hold, by number. -/
  documents : List Word
  tree : FileTree
  folder : String
  channels : Array Channel
  /-- What the streams of the shell itself have got, the last piece first. -/
  pieces : List (Stream × Octets)
  /-- What commands in the background have written, in order. -/
  held : List HeldText
  /-- The channel of each open stream. -/
  streams : List (Nat × Nat)
  /-- The status of the last command. -/
  status : Nat
  /-- Output of the current command of the shell could not be written. -/
  isRefused : Bool
  /-- The status before the trap that is running, if one is. -/
  trapped : Option Nat
  /-- The status of the last command whose output was used. -/
  substituted : Option Nat
  /-- The line of the current command. -/
  line : Nat
  /-- The command of the shell itself that is running, if one is. -/
  running : Option Octets
  /-- How many loops are open. -/
  loops : Nat
  /-- What the open functions keep to themselves. -/
  kept : List (List Kept)
  /-- How many parts that run on their own stand in one another. -/
  depth : Nat
  /-- The number of the shell's process, by which all its parts call it. -/
  own : Nat
  /-- The number of the process of this part. -/
  process : Nat
  /-- The numbers of the processes that have started it, the last one first. -/
  ancestors : List Nat
  /-- The signals that were ignored when it started, which it ignores for ever. -/
  deaf : List Nat
  /-- Signals that were sent and have reached nobody yet. -/
  sent : List SentSignal
  /-- The command in the background to which this part belongs, if it does. -/
  sender : Option Sender
  /-- How often loops may still go round, which is limited in the background. -/
  patience : Option Nat
  /-- The numbers of the processes that shells further out have in the background, each with the
  time of its end. -/
  outside : List (Nat × Nat)
  /-- Signals that wait for what they are trapped with. -/
  pending : List Nat
  /-- Commands in the background. -/
  jobs : Jobs
  /-- How many processes were put in the background, by all parts and shells together. -/
  started : Nat
  /-- The number of the last of them that this part knows of. -/
  lastStarted : Option Nat
  /-- The time that has gone by, in millionths of a second. -/
  clock : Nat
  /-- The stretch of time that is looked at, and how many there were.  Commands in the background
  are run at once and so each have one of their own. -/
  era : Nat
  eras : Nat
  /-- The rights that new files do not get. -/
  mask : Nat
  /-- The parameter whose options are read next, and the place of the letter in it. -/
  optionIndex : Nat
  optionOffset : Option Nat

/-- The number of the first process. -/
def firstProcess : Nat := 4242

/-- What changes a state and may not get to its end. -/
abbrev Act := ExceptT Jump (StateM State)

namespace State

/-- A variable by its name. -/
def find
    (state : State)
    (name : Octets) :
    Option Variable :=
  state.bindings.lookup name

/-- The value of a variable. -/
def value?
    (state : State)
    (name : Octets) :
    Option Octets :=
  (state.find name).bind (·.value)

/-- The state with another variable, or without it.  With other folders to look for programs
those that were found are forgotten. -/
def withVariable
    (state : State)
    (name : Octets)
    (value : Option Variable) :
    State :=
  { state with
    bindings := (value.map (name, ·)).toList ++ state.bindings.filter (·.1 != name)
    found := if name = "PATH".toList then [] else state.found }

/-- An option is set. -/
def has
    (state : State)
    (option : Char) :
    Bool :=
  state.options.contains option

/-- The state with a variable that has a value.  Others stay exported if they were. -/
def assigned
    (state : State)
    (name value : Octets)
    (exported : Bool) :
    State :=
  let before := state.find name
  state.withVariable name (some {
    value := some value
    exported := exported || state.has 'a' || before.any (·.exported)
    fixed := before.any (·.fixed) })

/-- The state with something as it was before a function. -/
def restored
    (state : State) :
    Kept → State
  | .variable name before => state.withVariable name before
  | .options letters => { state with options := letters }

/-- The variables that programs get to see. -/
def environment (state : State) : List (Octets × Octets) :=
  state.bindings.filterMap fun item =>
    if item.2.exported then item.2.value.map (item.1, ·) else none

/-- The channel of a stream, with its number. -/
def channel?
    (state : State)
    (stream : Nat) :
    Option (Nat × Channel) :=
  (state.streams.lookup stream).bind fun index =>
    (state.channels[index]?).map (index, ·)

/-- The state with another channel. -/
def withChannel
    (state : State)
    (index : Nat)
    (channel : Channel) :
    State :=
  { state with channels := state.channels.setIfInBounds index channel }

/-- The state with one more channel, and the number of that. -/
def opened
    (state : State)
    (channel : Channel) :
    Nat × State :=
  (state.channels.size, { state with channels := state.channels.push channel })

/-- The state with other parameters, whose options are read from the first one on. -/
def withParameters
    (state : State)
    (parameters : List Octets) :
    State :=
  { state with parameters, optionIndex := 1, optionOffset := none }

/-- The state with a stream connected with a channel, or closed. -/
def connected
    (state : State)
    (stream : Nat)
    (index : Option Nat) :
    State :=
  { state with
    streams := (index.map (stream, ·)).toList ++ state.streams.filter (·.1 != stream) }

/-- The state without the channels from some number on, unless something still goes to one
of them. -/
def withChannels
    (state : State)
    (count : Nat) :
    State :=
  let isUsed := state.streams.any (count ≤ ·.2) || state.held.any (count ≤ ·.target)
  if isUsed then state else { state with channels := state.channels.shrink count }

/-- The text that can be read from a stream. -/
def readable
    (state : State)
    (stream : Nat) :
    Octets :=
  match state.channel? stream with
  | some (_, .source rest) => rest
  | some (_, .device device) => (deviceOctets device).toOption.getD []
  | some (_, .file location offset true _ _) =>
      match state.tree.get? location with
      | some (.file content) | some (.program _ content) => (octetsOf content).drop offset
      | _ => []
  | _ => []

/-- The state after all but the given text was read from a stream. -/
def withUnread
    (state : State)
    (stream : Nat)
    (unread : Octets) :
    State :=
  match state.channel? stream with
  | some (index, .source _) => state.withChannel index (.source unread)
  | some (index, .file location offset reads writes appends) =>
      let taken := (state.readable stream).length - unread.length
      state.withChannel index (.file location (offset + taken) reads writes appends)
  | _ => state

/-- The file that a stream is connected with, if it is one. -/
def fileOf
    (state : State)
    (stream : Nat) :
    Option Location :=
  match state.channel? stream with
  | some (_, .file location ..) => some location
  | _ => none

/-- What the streams are connected with, as a tool sees it. -/
def outlets (state : State) : List (Nat × Outlet) :=
  state.streams.map fun (stream, index) =>
    (stream, match state.channels[index]? with
      | some (.file location ..) => .file location
      | some (.device device) => .device device
      | some (.source rest) => .pipe rest
      | _ => .pipe [])

/-- Content with other content put over it from some place on. -/
def overlaid
    (content : Bytes)
    (offset : Nat)
    (added : Bytes) :
    Bytes :=
  let padding := List.replicate (offset - content.length) 0
  (content ++ padding).take offset ++ added ++ content.drop (offset + added.length)

/-- How much of a text has room, and the room that is left then. -/
def fitting
    (text : Octets) :
    Option Nat → Octets × Option Nat
  | none => (text, none)
  | some room => (text.take room, some (room - text.length))

/-- The state after text was written to a channel. -/
def writtenAt
    (state : State)
    (index : Nat)
    (text : Octets) :
    Except OsError State :=
  if text.isEmpty then .ok state
  else
    match state.channels[index]? with
    | some (.sink pieces room) =>
        let (part, left) := fitting text room
        if part.isEmpty then .error .brokenPipe
        else .ok (state.withChannel index (.sink (part :: pieces) left))
    | some (.outer stream room) =>
        let (part, left) := fitting text room
        if part.isEmpty then .error .brokenPipe
        else
          .ok { state.withChannel index (.outer stream left) with
            pieces := (stream, part) :: state.pieces }
    | some (.file location offset reads true appends) =>
        match state.tree.get? location with
        | some (.file content) =>
            let place := if appends then content.length else offset
            let added := bytesOf text
            .ok { state.withChannel index
                (.file location (place + added.length) reads true appends) with
              tree := state.tree.overwrite location (.file (overlaid content place added)) }
        | _ => .ok state
    | some (.later sender target) =>
        .ok { state with held := state.held ++ [⟨sender, target, text, state.clock⟩] }
    | some (.device ⟨_, .dropping⟩) => .ok state
    | some (.device ⟨_, .refusing error⟩) => .error error
    | _ => .error .badDescriptor

/-- The state after text was written to a stream. -/
def written
    (state : State)
    (stream : Nat)
    (text : Octets) :
    Except OsError State :=
  match state.streams.lookup stream with
  | some index => state.writtenAt index text
  | none => if text.isEmpty then .ok state else .error .badDescriptor

/-- Everything that a channel has collected. -/
def collected
    (state : State)
    (index : Nat) :
    Octets :=
  match state.channels[index]? with
  | some (.sink pieces _) => pieces.reverse.flatten
  | _ => []

/-- A channel has collected as much as it takes. -/
def isFilled
    (state : State)
    (index : Nat) :
    Bool :=
  match state.channels[index]? with
  | some (.sink _ (some 0)) => true
  | _ => false

/-- Something was left unread in a channel. -/
def hasUnread
    (state : State)
    (index : Nat) :
    Bool :=
  match state.channels[index]? with
  | some (.source rest) => !rest.isEmpty
  | _ => false

/-- How much a stream takes, if that is limited. -/
def roomOf
    (state : State)
    (stream : Nat) :
    Option Nat :=
  match state.channel? stream with
  | some (_, .sink _ room) | some (_, .outer _ room) => room
  | _ => none

/-- Why the input cannot be read, if it cannot. -/
def inputFault (state : State) : Option OsError :=
  match state.channel? 0 with
  | some (_, .source _) | some (_, .file _ _ true _ _) | some (_, .device _) => none
  | some (_, .folder) => some .isFolder
  | _ => some .badDescriptor

/-- Why nothing can be written to the output, if that is so. -/
def refusal (state : State) : Option OsError :=
  match state.channel? 1 with
  | none => some .badDescriptor
  | some (_, .device ⟨_, .refusing .noSpace⟩) => some .noSpace
  | _ => none

/-- Something is done at some signal. -/
def hasTraps (state : State) : Bool :=
  state.traps.any (!·.2.isEmpty)

/-- The state with the files as something else has left them. -/
def withTree
    (state : State)
    (tree : FileTree) :
    State :=
  { state with tree := { tree.workingIn state.folder with now := state.clock } }

/-- A path as the root sees it. -/
def pathOf
    (state : State)
    (operand : Octets) :
    String :=
  let path := mend (bytesOf operand)
  if path.isEmpty || isAbsolute path.toList then path
  else if state.folder = "/" then state.folder ++ path
  else state.folder ++ "/" ++ path

/-- What a tool of the shell is called with that has this name and these arguments.  It reads
no input and no variables. -/
def ownCall
    (state : State)
    (name : Octets)
    (arguments : List Octets) :
    Call where
  name
  arguments
  input := []
  inputFault := none
  refusal := none
  streams := state.outlets
  room := none
  folder := state.folder
  environment := []
  mask := state.mask
  tree := state.tree

/-- What a tool is called with that has this name and these arguments. -/
def call
    (state : State)
    (name : Octets)
    (arguments : List Octets) :
    Call :=
  { state.ownCall name arguments with
    input := state.readable 0
    inputFault := state.inputFault
    refusal := state.refusal
    room := state.roomOf 1
    environment := state.environment }

end State

/-- What a complaint of the shell starts with. -/
def State.prefixText (state : State) : Octets :=
  let place := state.name ++ ": ".toList ++ (toString state.line).toList ++ ": ".toList
  match state.running with
  | some name => place ++ name ++ ": ".toList
  | none => place

/-- Whether a pipe that nobody reads any more ends what writes to it. -/
def State.diesOfPipe (state : State) : Bool :=
  (state.traps.lookup 13).isNone && !state.deaf.contains 13

/-- Ends the shell as the signal of a pipe that nobody reads does. -/
def dieOfPipe : Act Unit :=
  throw (.replaced (.signal 13))

/-- Writes to a stream; what cannot be written is lost. -/
def write
    (stream : Nat)
    (text : Octets) :
    Act Unit := do
  let state ← get
  match state.written stream text with
  | .ok state => set state
  | .error error =>
      if error = .brokenPipe ∧ state.diesOfPipe then dieOfPipe
      else if stream = 1 then set { state with isRefused := true }

/-- Complains in the name of the shell. -/
def complain (words : Octets) : Act Unit := do
  let state ← get
  write 2 (state.prefixText ++ words ++ ['\n'])

/-- Sets the status. -/
def setStatus (status : Nat) : Act Unit :=
  modify fun state => { state with status := status }

/-- Gives up with a complaint and a status. -/
def abort
    {α : Type}
    (status : Nat)
    (words : Octets) :
    Act α := do
  complain words
  setStatus status
  throw .fault

/-- Gives a variable a value, unless it is fixed. -/
def assign
    (name value : Octets)
    (exported : Bool) :
    Act Unit := do
  if ((← get).find name).any (·.fixed) then abort 2 (name ++ ": is read only".toList)
  if name = "OPTIND".toList then
    if value = [] ∨ !value.all Char.isDigit then abort 2 ("Illegal number: ".toList ++ value)
    modify fun state =>
      { state with optionIndex := max 1 (decimalValue value), optionOffset := none }
  modify fun state => state.assigned name value exported

/-- Runs an act and tells how it ended. -/
def attempt {α : Type} (act : Act α) : Act (Except Jump α) := fun state =>
  let (result, after) := act state
  (.ok result, after)

/-- Runs an act and changes the state afterwards, however it ended. -/
def afterwards
    {α : Type}
    (act : Act α)
    (change : State → State) :
    Act α := fun state =>
  let (result, after) := act state
  (result, change after)

end Shell
end CaptureKit
