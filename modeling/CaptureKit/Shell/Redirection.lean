import CaptureKit.Shell.Expansion

/-!
# Redirections

A redirection connects a stream of a command with a file, with another stream, or with a
text of the script.  Afterwards the streams are connected as before; what was written
stays.
-/

namespace CaptureKit
namespace Shell

open Storage Text Tools

/-- A redirection with its operand expanded; a text that `<<` announced is expanded later. -/
structure Wire where
  stream : Nat
  connection : Connection
  operand : Octets

/-- Expands the operands of redirections. -/
def expandWires
    (substitute : Substitution)
    (redirections : List Redirection) :
    Act (List Wire) :=
  redirections.mapM fun
    | .mk stream (.document index) _ => return ⟨stream, .document index, []⟩
    | .mk stream connection operand => do
        return ⟨stream, connection, ← expandText substitute operand⟩

/-- Why a file cannot be opened for reading or writing. -/
def openingWords
    (reading : Bool)
    (path : Octets)
    (fault : IoFault) :
    Octets :=
  let why := match fault, reading with
    | .os .noEntry, true | .os .notFolder, true => "No such file".toList
    | .os .noEntry, false | .os .notFolder, false => "Directory nonexistent".toList
    | fault, _ => plainWords fault
  (if reading then "cannot open " else "cannot create ").toList ++ path ++ ": ".toList ++ why

/-- The state with one more channel, to which a stream is connected. -/
def State.joined
    (state : State)
    (stream : Nat)
    (channel : Channel) :
    State :=
  let (index, state) := state.opened channel
  state.connected stream (some index)

/-- Connects a stream with a device, or with what another stream is connected with. -/
def connectDevice
    (state : State)
    (stream : Nat) :
    Device → Except IoFault State
  | ⟨_, .closed error⟩ => .error (.os error)
  | ⟨_, .stream number _⟩ =>
      match state.streams.lookup number with
      | some index => .ok (state.connected stream (some index))
      | none => .error (.os .noEntry)
  | device => .ok (state.joined stream (.device device))

/-- What a path leads to if the path of a stream leads to the file that the stream is
connected with. -/
def State.behindStream
    (state : State) :
    Location × Entry → Location × Entry
  | (location, .device ⟨source, .stream number received⟩) =>
      match (state.fileOf number).bind fun place => (state.tree.get? place).map (place, ·) with
      | some found => found
      | none => (location, .device ⟨source, .stream number received⟩)
  | found => found

/-- The text of the file at a path, and the state after it was read.  What is no file is read
to its end through the stream whose path it is. -/
def State.textAt
    (state : State)
    (path : Octets) :
    Except IoFault (Octets × State) :=
  match (state.tree.entryAt (state.pathOf path)).map state.behindStream with
  | .ok (_, .device ⟨_, .stream number _⟩) =>
      if (state.channel? number).isNone then .error (.os .noEntry)
      else .ok (state.readable number, state.withUnread number [])
  | .ok (_, entry) => (entryOctets entry).map (·, state)
  | .error fault => .error fault

/-- Connects a stream with a file that is there. -/
def connectSource
    (state : State)
    (stream : Nat)
    (path : Octets) :
    Except IoFault State :=
  match (state.tree.entryAt (state.pathOf path)).map state.behindStream with
  | .ok (location, .file _) | .ok (location, .program ..) =>
      .ok (state.joined stream (.file location 0 true false false))
  | .ok (_, .device device) => connectDevice state stream device
  | .ok (_, .folder) => .ok (state.joined stream .folder)
  | .ok _ => .ok (state.joined stream (.source []))
  | .error fault => .error fault

/-- Connects a stream with a file that may be new; it is emptied unless it `keeps` its
content. -/
def connectTarget
    (state : State)
    (stream : Nat)
    (path : Octets)
    (reads keeps appends refuses : Bool) :
    Except IoFault State :=
  match state.tree.locate .create (state.pathOf path) with
  | .ok (.vacant folder name) =>
      let location := folder ++ [name]
      let isTaken := match state.tree.locate .keep (state.pathOf path) with
        | .ok (.found ..) => true
        | _ => false
      if refuses && isTaken then .error (.os .alreadyThere)
      else
        .ok ({ state with tree := state.tree.put location (.file []) }.joined stream
          (.file location 0 reads true appends))
  | .ok (.found location entry) =>
      match state.behindStream (location, entry) with
      | (location, .file _) =>
          if refuses then .error (.os .alreadyThere)
          else
            let emptied := if keeps then state.tree else state.tree.overwrite location (.file [])
            .ok ({ state with tree := emptied }.joined stream (.file location 0 reads true appends))
      | (_, .device device) => connectDevice state stream device
      | (location, .program ..) =>
          .ok ({ state with tree := state.tree.overwrite location (.file []) }.joined stream
            (.file location 0 reads true appends))
      | _ => .error (.os .isFolder)
  | .error fault => .error fault

/-- Makes one connection, or tells why it cannot be made. -/
def connect
    (state : State)
    (wire : Wire) :
    Except Octets State :=
  let reading := (connectSource state wire.stream wire.operand).mapError
    (openingWords true wire.operand)
  let writing := fun keeps appends refuses =>
    (connectTarget state wire.stream wire.operand false keeps appends refuses).mapError
      (openingWords false wire.operand)
  match wire.connection with
  | .source => reading
  | .target forced => writing false false (!forced && state.has 'C')
  | .ending => writing true true false
  | .both =>
      (connectTarget state wire.stream wire.operand true true false false).mapError
        (openingWords true wire.operand)
  | .document _ => .ok (state.joined wire.stream (.source wire.operand))
  | .stream =>
      match wire.operand with
      | ['-'] => .ok (state.connected wire.stream none)
      | [digit] =>
          if digit.isDigit then
            let other := digit.toNat - '0'.toNat
            match state.streams.lookup other with
            | some index => .ok (state.connected wire.stream (some index))
            | none =>
                if other = wire.stream then .ok state
                else .error (digit :: ": Bad file descriptor".toList)
          else .error "Syntax error: Bad fd number".toList
      | _ => .error "Syntax error: Bad fd number".toList

/-- The redirection with the text that `<<` announced expanded, unless that fails. -/
def Wire.filled?
    (substitute : Substitution)
    (wire : Wire) :
    Act (Option Wire) := do
  match wire.connection with
  | .document index => do
      let text := ((← get).documents[index]?).getD []
      match ← attempt (expandDocument substitute text) with
      | .ok operand => return some { wire with operand }
      | .error .fault => return none
      | .error jump => throw jump
  | _ => return some wire

/-- Makes connections in their order up to one that cannot be made, which is complained
about, and tells whether there was none.  If the streams are kept to be connected again, one
whose connection fails for want of another stream is closed, unless it was connected before. -/
def connectAll
    (substitute : Substitution)
    (kept : Bool) :
    (done : List Nat) → List Wire → Act Bool
  | _, [] => return true
  | done, wire :: wires => do
      match ← wire.filled? substitute with
      | none => return false
      | some filled =>
          match connect (← get) filled with
          | .ok state => do
              set state
              connectAll substitute kept (wire.stream :: done) wires
          | .error words => do
              let closes := match wire.connection with
                | .stream => kept && !done.contains wire.stream
                | _ => false
              if closes then modify (·.connected wire.stream none)
              complain words
              return false

/-- Runs an act with its streams connected by redirections, and tells whether that could
be done.  If the connections are to stay, they are not undone afterwards; the streams are
kept for that unless the shell ends anyway. -/
def withWires
    (substitute : Substitution)
    (kept stay : Bool)
    (wires : List Wire)
    (act : Act Unit) :
    Act Bool := do
  let before ← get
  let undo := fun state : State =>
    if stay then state
    else
      (wires.foldl
        (fun state wire => state.connected wire.stream (before.streams.lookup wire.stream))
        state).withChannels before.channels.size
  if ← connectAll substitute kept [] wires then
    afterwards act undo
    return true
  else
    modify undo
    setStatus 2
    return false

end Shell
end CaptureKit
