import CaptureKit.Shell.Builtins
import CaptureKit.Shell.Redirection
import CaptureKit.Shell.Script
import CaptureKit.Tools.Starting
import CaptureKit.Tools.Table

/-!
# Running shell scripts

A script is run line by line.  Commands change the state of the shell, apart from those
that run on their own: parts in parentheses, parts of pipes, commands whose output is
used, and commands in the background.

Commands may stand in one another, and functions may call themselves, only so many times;
a script that goes deeper is ended by the signal of memory that is used up.
-/

namespace CaptureKit
namespace Shell

open Storage Text Tools

/-- How a command is run. -/
structure Mode where
  /-- Its failure is looked at, so it does not end a shell that ends at failures. -/
  tested : Bool
  /-- Nothing is left to do behind it, so a program can take the place of the shell. -/
  last : Bool

/-- The mode of commands that others follow. -/
def Mode.inner (mode : Mode) : Mode := { mode with last := false }

/-- The mode of commands whose failure is looked at. -/
def Mode.ofTest : Mode := ⟨true, false⟩

/-- Runs commands. -/
abbrev Runner := Mode → Command → Act Unit

/-- What programs do that a shell starts, be it in the place of this one; nothing for those
that it cannot start. -/
abbrev Programs := (inPlace : Bool) → Start → Option (Act ExitStatus)

/-- The first lines of a text. -/
def firstLines : (count : Nat) → Octets → Octets
  | 0, _ => []
  | _, [] => []
  | count + 1, c :: s => c :: firstLines (if c = '\n' then count else count + 1) s

/-- Runs the text of a script line by line, and tells whether there was a command in it;
`fuel` bounds the number of lines.  A shell that is asked to shows what it has read from a
file. -/
def runLines
    (run : Runner)
    (mode : Mode)
    (fromFile : Bool) :
    (fuel : Nat) → Place → Act Bool
  | 0, _ => return false
  | fuel + 1, place => do
      let echo := fun text => do
        if fromFile && (← get).has 'v' then write 2 text
      match readLine { place with aliases := (← get).aliases } with
      | .error (fault, line) => do
          echo (firstLines (line + 1 - place.line) place.rest)
          modify fun state => { state with line := line }
          abort 2 fault.words.toList
      | .ok none => do
          echo place.rest
          return false
      | .ok (some (command, after)) => do
          echo (place.rest.take (place.rest.length - after.rest.length))
          modify fun state => { state with documents := state.documents ++ after.documents.reverse }
          if !(← get).has 'n' then
            run (if after.atEnd then mode else mode.inner) command
          let more ← runLines run mode fromFile fuel { after with documents := [] }
          return more || !command.isNothing

/-- Runs a script, which is a success if there is no command in it. -/
def runScript
    (run : Runner)
    (mode : Mode)
    (fromFile : Bool)
    (text : Octets) :
    Act Unit := do
  let place := Place.start text (← get).documents.length
  if !(← runLines run mode fromFile (text.length + 1) place) then setStatus 0

/-- Runs a script that is in no file. -/
def runText
    (run : Runner)
    (mode : Mode)
    (text : Octets) :
    Act Unit :=
  runScript run mode false text

/-- Runs a script that is read from a file. -/
def runFileText
    (run : Runner)
    (text : Octets) :
    Act Unit :=
  runScript run ⟨false, false⟩ true text

/-- Does what is trapped with signals, one after another; the status is then the given one
again.  What leaves the trap leaves the signals behind it waiting. -/
def runTraps
    (run : Runner)
    (status : Nat) :
    List Nat → Act Unit
  | [] => return ()
  | signal :: later => do
      match (← get).traps.lookup signal with
      | none => runTraps run status later
      | some action => do
          match ← attempt (runText run ⟨false, false⟩ action) with
          | .ok () => do
              setStatus status
              runTraps run status later
          | .error jump => do
              modify fun state => { state with pending := later ++ state.pending }
              match jump with
              | .leave _ | .again _ | .give false => setStatus status
              | _ => pure ()
              throw jump

/-- Does what is trapped with the signals that wait for it. -/
def runPending (run : Runner) : Act Unit := do
  let state ← get
  if !state.pending.isEmpty then
    let status := state.trapped.getD state.status
    set { state with pending := [], trapped := some status }
    afterwards (runTraps run status state.pending) fun after =>
      { after with trapped := state.trapped }

/-- Does what is trapped with the end of the shell, whose status stays as it was. -/
def runLastTrap (run : Runner) : Act Unit := do
  let state ← get
  match state.traps.lookup 0 with
  | some action =>
      if action.isEmpty then return ()
      else do
        set { state with
          traps := state.traps.filter (·.1 != 0)
          running := none
          trapped := some state.status }
        match ← attempt (runText run ⟨false, false⟩ action) with
        | .ok () | .error (.give _) => setStatus state.status
        | .error jump => throw jump
  | none => return ()

/-- Runs an act to the end of its shell: faults and wishes to leave end it, and what is
trapped with the end is done. -/
def toTheEnd
    (run : Runner)
    (act : Act Unit) :
    Act (Option ExitStatus) := do
  let result ← attempt act
  let ended ← match result with
    | .error (.replaced status) => pure (some status)
    | .error (.slain signal) => throw (.slain signal)
    | _ => do
        match ← attempt (runLastTrap run) with
        | .error (.slain signal) => throw (.slain signal)
        | .error (.replaced status) => pure (some status)
        | _ => pure none
  modify fun state => { state with traps := state.traps.filter (·.1 != 0) }
  return ended

/-- Runs an act with which its shell ends, and what is trapped with that end. -/
def endWith
    (run : Runner)
    (act : Act Unit) :
    Act Unit := do
  match ← toTheEnd run act with
  | some status => throw (.replaced status)
  | none => return ()

/-- Runs an act on its own, and takes over its status. -/
def onItsOwn
    (run : Runner)
    (act : Act Unit) :
    Act Unit := do
  modify (·.revealed.withProcess)
  let before ← get
  set before.isolated
  let ended ← toTheEnd run act
  let after ← get
  set (before.rejoined after).withEndedChild
  match ended with
  | some status => takeStatus status
  | none => return ()

/-- Runs an act on its own with which a shell ends, so that it needs no shell of its own. -/
def asLast
    (run : Runner)
    (act : Act Unit) :
    Act Unit := do
  let before ← get
  let ended ← toTheEnd run act
  let after ← get
  set { before.rejoined after with traps := after.traps }
  match ended with
  | some status => throw (.replaced status)
  | none => return ()

/-- The signals that parts on their own and other shells have sent reach this one. -/
def receiveSent : Act Unit := do
  let state ← get
  if !state.sent.isEmpty then
    let state := state.settled (·.time ≤ state.clock)
    let (received, others) := state.sent.partition fun item =>
      item.process == state.process && item.time ≤ state.clock
    set { state with sent := others }
    for item in received do
      receive item.signal

/-- Runs a command on its own and gives what it prints, without line feeds at the end. -/
def outputOf (run : Runner) : Substitution := fun command => do
  let before ← get
  let (index, opened) := before.opened (.sink [] none)
  set (opened.connected 1 (some index))
  onItsOwn run (run ⟨false, true⟩ command)
  modify (·.awaiting index)
  let after ← get
  set ({ after with
    streams := before.streams
    status := before.status
    substituted := some after.status }.withChannels before.channels.size)
  let text := (after.collected index).filter (·.toNat != 0)
  return (text.reverse.dropWhile (· == '\n')).reverse

/-- Sets the status to that of the last command whose output was used. -/
def takeSubstituted : Act Unit :=
  modify fun state => { state with status := state.substituted.getD 0 }

/-- The path is that of a file that can be started. -/
def checkStartable
    (state : State)
    (path : Octets) :
    Except OsError Unit :=
  match state.tree.entryAt (state.pathOf path) with
  | .ok (location, .program ..) | .ok (location, .file _) =>
      if state.tree.isStartable location then .ok () else .error .accessDenied
  | .ok _ => .error .accessDenied
  | .error (.os error) => .error error
  | .error _ => .error .noEntry

/-- The path of a program, looked for by its name in folders. -/
def programIn
    (state : State)
    (name : Octets) :
    List Octets → Except OsError Octets
  | [] => .error .noEntry
  | folder :: folders =>
      let path := if folder.isEmpty then name else folder ++ '/' :: name
      match checkStartable state path with
      | .ok () => .ok path
      | .error error =>
          match programIn state name folders with
          | .ok found => .ok found
          | .error other => .error (if error = .accessDenied then error else other)

/-- The path of the program that a name or a path stands for. -/
def State.program
    (state : State)
    (name : Octets) :
    Except OsError Octets :=
  if name.contains '/' then (checkStartable state name).map fun () => name
  else
    match state.found.path? name with
    | some path => .ok path
    | none => programIn state name (((state.value? "PATH".toList).getD []).splitOn ':')

/-- The state that remembers where a program was found by its name. -/
def State.remembering
    (state : State)
    (name path : Octets) :
    State :=
  if name.contains '/' then state else { state with found := state.found.adding name path }

/-- What starts for a path.  A file that does not say what reads it is read by a shell. -/
def State.startAt
    (state : State)
    (path name : Octets)
    (arguments : List Octets) :
    Except OsError Start :=
  match startOf state.tree state.pathOf readerLimit path name arguments with
  | .ok start => if start.hasRoom state.environment then .ok start else .error .tooMuch
  | .error (.os .notStartable) => .ok ⟨"sh", "/bin/sh".toList, path :: arguments⟩
  | .error (.os error) => .error error
  | .error _ => .error .noEntry

/-- The state with what tools have put into streams by their paths written to these. -/
def drained (state : State) : State :=
  let streams := (state.streams.map (·.1)).filter (0 < ·)
  if streams.all fun stream => (state.tree.received stream).isEmpty then state
  else
    let cleared := { state with tree := state.tree.withoutReceived }
    streams.foldl
      (fun after stream =>
        (after.written stream (octetsOf (state.tree.received stream))).toOption.getD after)
      cleared

/-- Writes what a tool wrote.  When output is refused, no more of it is written, and the
refusal is given back. -/
def writePieces (refused : Option OsError) : List (Stream × Octets) → Act (Option OsError)
  | [] => return refused
  | (stream, text) :: pieces => do
      if stream = .output ∧ refused.isSome then writePieces refused pieces
      else
        match (← get).written (if stream = .output then 1 else 2) text with
        | .ok state => do
            set state
            writePieces refused pieces
        | .error error => writePieces (if stream = .output then some error else refused) pieces

/-- Runs a tool, and tells how it ended and why its output could not be written. -/
def runTool
    (tool : Tool)
    (call : Call) :
    Act (ExitStatus × Option OsError) := do
  let finish := tool call
  modify fun state => drained ((state.withTree finish.tree).withUnread 0 finish.unread)
  let refused ← writePieces none finish.pieces
  return (finish.status, refused)

/-- Runs a program. -/
def runProgram
    (tool : Tool)
    (start : Start) :
    Act ExitStatus := do
  let time := if start.program = "sleep" then sleepingTime start.arguments else 0
  modify fun state => state.after (state.clock + time)
  let (status, refused) ← runTool tool ((← get).call start.name start.arguments)
  match refused with
  | none => return status
  | some error => do
      if error = .brokenPipe ∧ (← get).diesOfPipe then return .signal 13
      let (words, worst) := refusal start.program start.name error
      write 2 words
      return match status with
        | .code number => .code (max number worst)
        | status => status

/-- Runs a tool as a command of the shell. -/
def runShellTool
    (tool : Tool)
    (name : Octets) :
    Builtin := fun arguments => do
  let state ← get
  let front := state.prefixText.take (state.prefixText.length - 2)
  let finish := tool (state.ownCall front arguments)
  let refused ← writePieces none finish.pieces
  match refused, finish.status with
  | some error, _ => do
      if error = .brokenPipe ∧ state.diesOfPipe then dieOfPipe
      complain (name ++ ": I/O error".toList)
      setStatus 1
  | none, .code number => setStatus number
  | none, status => takeStatus status

/-- What the name of a command stands for. -/
inductive Meaning
  | special (builtin : Builtin)
  | function (body : Command)
  | regular (builtin : Builtin)
  | program (path : Octets)
  | missing (error : OsError)

/-- The complaint about a program that cannot be started, and the status.  A program that is
started at once, and not looked for before, has a status of its own if it is none. -/
def missingWords
    (atOnce : Bool)
    (name : Octets) :
    OsError → Octets × Nat
  | .noEntry | .notFolder => (name ++ ": not found".toList, 127)
  | error =>
      (name ++ ": ".toList ++ error.words.toList,
        if !atOnce || error = .tooManyLinks || error = .nameTooLong then 127 else 126)

/-- Commands of the shell that run others. -/
structure RunningBuiltins where
  special : List (String × Builtin)
  regular : List (String × Builtin)

/-- What a name stands for; functions can be left out. -/
def meaning
    (builtins : RunningBuiltins)
    (state : State)
    (functions : Bool)
    (name : Octets) :
    Meaning :=
  let word := String.ofList name
  match (specialBuiltins.lookup word).or (builtins.special.lookup word) with
  | some builtin => .special builtin
  | none =>
      match if functions then state.functions.lookup name else none with
      | some body => .function body
      | none =>
          match (regularBuiltins.lookup word).or (builtins.regular.lookup word) with
          | some builtin => .regular builtin
          | none =>
              match shellTools.lookup word with
              | some tool => .regular (runShellTool tool name)
              | none =>
                  match state.program name with
                  | .ok path => .program path
                  | .error error => .missing error

/-- Runs a command of the shell under its name; if it can fail, the shell goes on.  It has
failed if its output could not be written. -/
def runBuiltin
    (canFail : Bool)
    (name : Octets)
    (builtin : Builtin)
    (arguments : List Octets) :
    Act Unit := do
  let before := (← get).running
  modify fun state => { state with running := some name, isRefused := false }
  let result ← attempt (builtin arguments)
  if result.isOk && (← get).isRefused then
    complain (name ++ ": I/O error".toList)
    modify fun state => { state with status := state.status ||| 1 }
  modify fun state => { state with running := before, isRefused := false }
  match result with
  | .error .fault => if canFail then return () else throw .fault
  | .error jump => throw jump
  | .ok () => return ()

/-- How many functions may be open at once. -/
def functionLimit : Nat := 1000

/-- Runs a function: its parameters are its arguments, and its variables are as before
afterwards. -/
def runFunction
    (run : Runner)
    (mode : Mode)
    (body : Command)
    (arguments : List Octets) :
    Act Unit := do
  let before ← get
  if functionLimit ≤ before.kept.length then
    abort 2 ("Maximum function recursion depth (".toList ++ (toString functionLimit).toList ++
      ") reached".toList)
  set { before with
    parameters := arguments
    loops := 0
    kept := [] :: before.kept
    optionIndex := 1
    optionOffset := none }
  let restore := fun state : State =>
    { (state.kept.headD []).foldl State.restored state with
      parameters := before.parameters
      loops := before.loops
      kept := before.kept
      optionIndex := before.optionIndex
      optionOffset := before.optionOffset }
  match ← attempt (run mode.inner body) with
  | .error (.give _) | .ok () => modify restore
  | .error jump => do
      modify restore
      throw jump

/-- Complains about a program that cannot be started. -/
def complainOfStart
    (atOnce : Bool)
    (name : Octets)
    (error : OsError) :
    Act Unit := do
  let (words, status) := missingWords atOnce name error
  complain words
  setStatus status

/-- Runs a program, which takes the place of the shell if nothing is left to do. -/
def startProgram
    (programs : Programs)
    (mode : Mode)
    (path name : Octets)
    (arguments : List Octets) :
    Act Unit := do
  match (← get).startAt path name arguments with
  | .error error => complainOfStart true name error
  | .ok start =>
      let inPlace := mode.last && !(← get).hasTraps
      match programs inPlace start with
      | none => complainOfStart true name .accessDenied
      | some act => do
          let status ← act
          if inPlace then throw (.replaced status)
          else do
            modify (·.withProcess.withEndedChild)
            takeStatus status

/-- Runs what the name of a command stands for. -/
def runMeaning
    (run : Runner)
    (programs : Programs)
    (mode : Mode)
    (forced : Bool)
    (name : Octets)
    (arguments : List Octets) :
    Meaning → Act Unit
  | .special builtin => runBuiltin forced name builtin arguments
  | .regular builtin => runBuiltin true name builtin arguments
  | .function body => runFunction run mode body arguments
  | .program path => do
      modify (·.remembering name path)
      startProgram programs mode path name arguments
  | .missing error => complainOfStart (name.contains '/') name error

/-- Runs arguments as a script. -/
def evalWords
    (run : Runner)
    (tested : Bool) :
    Builtin := fun arguments =>
  runText run ⟨tested, false⟩ (spaced arguments)

/-- Runs a file as a part of the script. -/
def runFile (run : Runner) : Builtin := fun arguments => do
  match arguments with
  | [] => setStatus 0
  | path :: _ => do
      let state ← get
      let folders := ((state.value? "PATH".toList).getD []).splitOn ':'
      let found := if path.contains '/' then some path
        else (folders.map fun folder => if folder.isEmpty then path else folder ++ '/' :: path).find?
          fun path => (state.textAt path).isOk
      match found with
      | none => abort 2 (path ++ ": not found".toList)
      | some path =>
          match state.textAt path with
          | .error fault => do
              if fault = .os .isFolder then setStatus 0
              else abort 2 (openingWords true path fault)
          | .ok (text, state) => do
              set { state with running := some path }
              match ← attempt (runFileText run text) with
              | .error (.give _) | .ok () => return ()
              | .error jump => throw jump

/-- Lets a program take the place of the shell. -/
def replaceShell (programs : Programs) : Builtin := fun arguments => do
  match arguments with
  | [] => setStatus 0
  | name :: arguments => do
      let state ← get
      let found := do
        let start ← state.startAt (← state.program name) name arguments
        match programs true start with
        | some act => pure act
        | none => .error .accessDenied
      match found with
      | .ok act => throw (.replaced (← act))
      | .error error => do
          complainOfStart true name error
          throw .stop

/-- What a name means, in words. -/
def describe
    (builtins : RunningBuiltins)
    (brief : Bool)
    (name : Octets) :
    Act Unit := do
  let tell := fun words : String =>
    write 1 ((if brief then name else name ++ words.toList) ++ ['\n'])
  let alias? := (← get).aliases.lookup name
  if keywords.contains (String.ofList name) then tell " is a shell keyword"
  else if alias?.isSome then
    let text := alias?.getD []
    write 1 (if brief then "alias ".toList ++ shownAlias (name, text)
      else name ++ " is an alias for ".toList ++ text ++ ['\n'])
  else
    match meaning builtins (← get) true name with
    | .special _ => tell " is a special shell builtin"
    | .regular _ => tell " is a shell builtin"
    | .function _ => tell " is a shell function"
    | .program path => do
        let wasFound := ((← get).found.path? name).isSome
        if !wasFound then modify (·.remembering name path)
        let words := if wasFound then " is a tracked alias for " else " is "
        write 1 ((if brief then path else name ++ words.toList ++ path) ++ ['\n'])
    | .missing _ => do
        if !brief then write 1 (name ++ ": not found\n".toList)
        setStatus 127

/-- Says what names mean. -/
def typeNames (builtins : RunningBuiltins) : Builtin := fun arguments => do
  setStatus 0
  for name in arguments do
    describe builtins false name

/-- Looks for programs by their names and remembers them, or lists those it remembers. -/
def lookForNames : Builtin := fun arguments => do
  let (letters, operands) ← readOptions ['r', 'v'] arguments
  setStatus 0
  if letters.contains 'r' then
    modify fun state => { state with found := [] }
    return ()
  if operands.isEmpty then write 1 (← get).found.listing
  for operand in operands do
    let name := String.ofList operand
    modify fun state => { state with found := state.found.without operand }
    let state ← get
    let isOwn := (specialBuiltins ++ regularBuiltins).any (·.1 == name) ||
      (shellTools.lookup name).isSome || (state.functions.lookup operand).isSome
    if !isOwn then
      match state.program operand with
      | .ok path => set (state.remembering operand path)
      | .error error => do
          complain (missingWords false operand error).1
          setStatus 1

/-- The commands of the shell that run others, apart from `command` and `type`. -/
def runningBuiltins
    (run : Runner)
    (programs : Programs)
    (tested : Bool) :
    RunningBuiltins where
  special := [("eval", evalWords run tested), (".", runFile run), ("exec", replaceShell programs)]
  regular := []

/-- Runs a command but no function, or says what it means. -/
def runCommandWord
    (run : Runner)
    (programs : Programs)
    (tested : Bool) :
    Builtin := fun arguments => do
  let builtins := runningBuiltins run programs tested
  let (letters, operands) ← readOptions ['p', 'v', 'V'] arguments
  setStatus 0
  match operands with
  | [] => return ()
  | name :: rest =>
      if letters.contains 'v' || letters.contains 'V' then
        describe builtins (letters.contains 'v') name
      else do
        modify fun state => { state with running := none }
        runMeaning run programs ⟨tested, false⟩ true name rest
          (meaning builtins (← get) false name)

/-- All commands of the shell that run others. -/
def allRunningBuiltins
    (run : Runner)
    (programs : Programs)
    (tested : Bool) :
    RunningBuiltins :=
  let builtins := runningBuiltins run programs tested
  { builtins with
    regular := [("command", runCommandWord run programs tested), ("hash", lookForNames),
      ("type", typeNames { builtins with
        regular := ["command", "hash", "type"].map (·, succeed) })] }

/-- Expands a text that is no part of the script; a text that cannot be read stays as it
is. -/
def expandPrompt
    (substitute : Substitution)
    (text : Octets) :
    Act Octets := do
  if text.all fun c => c != '$' && c != '\\' && c != backTick then return text
  else
    let place := Place.start text (← get).documents.length
    match readDocument (readScript (8 * text.length + 16)) text place with
    | .error _ => return text
    | .ok (word, after) => do
        modify fun state => { state with documents := state.documents ++ after.documents.reverse }
        match ← attempt (expandDocument substitute word) with
        | .ok expanded => return expanded
        | .error _ => return text

/-- Shows the words of a command before it runs, in the channel of complaints. -/
def showTrace
    (substitute : Substitution)
    (errors : Option Nat)
    (assignments : List (Octets × Octets))
    (fields : List Octets) :
    Act Unit := do
  let state ← get
  if state.has 'x' then
    set (state.withOption 'x' false)
    let front ← expandPrompt substitute ((state.value? "PS4".toList).getD [])
    let words := assignments.map (fun item => item.1 ++ '=' :: item.2) ++ fields
    modify fun after => { after with
      options := state.options
      status := state.status
      substituted := state.substituted }
    modify fun after =>
      (errors.bind fun index =>
        (after.writtenAt index (front ++ spaced words ++ ['\n'])).toOption).getD after

/-- Expands the values of assignments, and gives them to the variables one by one. -/
def assignAll
    (substitute : Substitution)
    (exported : Bool)
    (assignments : List Word) :
    Act (List (Octets × Octets)) :=
  assignments.filterMapM fun word => do
    match assignment? word with
    | none => return none
    | some (name, value) => do
        let text ← expandValue substitute value
        assign name text exported
        return some (name, text)

/-- Expands the words of a command; words that mark variables may hold assignments. -/
def expandWords
    (substitute : Substitution)
    (words : List Word) :
    Act (List Octets) := do
  match words with
  | [] => return []
  | first :: rest => do
      let front ← expandFields substitute first
      let marking := ["export", "readonly", "local"].contains (String.ofList (front.headD []))
      let others ← rest.mapM fun word =>
        match if marking then assignment? word else none with
        | some (name, value) => do
            return [name ++ '=' :: (← expandValue substitute value)]
        | none => expandFields substitute word
      return front ++ others.flatten

/-- Undoes assignments. -/
def restoring
    (saved : List (Octets × Option Variable))
    (state : State) :
    State :=
  saved.foldl (fun state item => state.withVariable item.1 item.2) state

/-- Runs a simple command. -/
def runSimple
    (run : Runner)
    (programs : Programs)
    (mode : Mode)
    (line : Nat)
    (assignments words : List Word)
    (redirections : List Redirection) :
    Act Unit := do
  modify fun state => { state with line := line, substituted := none }
  let substitute := outputOf run
  let fields ← expandWords substitute words
  let wires ← expandWires substitute redirections
  let errors := (← get).streams.lookup 2
  match fields with
  | [] => do
      let connected ← withWires substitute true false wires do
        let given ← assignAll substitute false assignments
        showTrace substitute errors given []
        takeSubstituted
      if !connected then return ()
  | name :: arguments => do
      let builtins := allRunningBuiltins run programs mode.tested
      let found := meaning builtins (← get) true name
      let isSpecial := match found with
        | .special _ => true
        | _ => false
      let stay := name == "exec".toList
      let connected ← withWires substitute true (stay && isSpecial) wires do
        let state ← get
        let saved := assignments.filterMap fun word =>
          (assignment? word).map fun item => (item.1, state.find item.1)
        let keep := isSpecial && !(stay && arguments.isEmpty)
        let given ← assignAll substitute (!isSpecial || stay) assignments
        showTrace substitute errors given fields
        let assigned ← get
        let found := if isSpecial || assignments.isEmpty then found
          else meaning builtins assigned true name
        let act := runMeaning run programs mode false name arguments found
        let restored := fun after : State =>
          let hasPath := saved.any (·.1 == "PATH".toList)
          { restoring saved after with found := if hasPath then state.found else after.found }
        if keep || isSpecial then act else afterwards act restored
      if !connected && isSpecial then throw .fault

/-- How a part of a pipe has ended. -/
structure Stage where
  /-- It has written as much as there was room for. -/
  filled : Bool
  /-- It has not read all that the part before has written. -/
  leaves : Bool

/-- Some part has filled its room, and the parts behind it have used all they were given, so
they might have used more. -/
def wantsMore : List Stage → Bool
  | [] => false
  | stage :: stages => (stage.filled && stages.all (!·.leaves)) || wantsMore stages

/-- Runs the commands of a pipe, each on its own: what one prints the next one reads. -/
def runStages
    (run : Runner)
    (tested : Bool)
    (room : Nat)
    (input : Option Nat) :
    List Command → Act (List Stage)
  | [] => return []
  | command :: rest => do
      let before ← get
      let reading := match input with
        | some index => before.connected 0 (some index)
        | none => before
      match rest with
      | [] => do
          set reading
          onItsOwn run (run ⟨tested, true⟩ command)
          modify fun state => { state with streams := before.streams }
          return [⟨false, input.any (← get).hasUnread⟩]
      | _ :: _ => do
          let (index, opened) := reading.opened (.sink [] (some room))
          set (opened.connected 1 (some index))
          onItsOwn run (run ⟨tested, true⟩ command)
          modify (·.awaiting index)
          let after ← get
          let stage : Stage := ⟨after.isFilled index, input.any after.hasUnread⟩
          let (next, after) := after.opened (.source (after.collected index))
          set { after with
            streams := before.streams
            status := before.status }
          return stage :: (← runStages run tested room (some next) rest)

/-- Runs a pipe.  A command that has no more room is ended; if that could matter to the
commands behind it, the pipe is run again with more room. -/
def runPipe
    (run : Runner)
    (tested : Bool)
    (commands : List Command) :
    (rounds : Nat) → (room : Nat) → Act Unit
  | 0, room => do
      let before ← get
      let _ ← runStages run tested room none commands
      modify (·.withChannels before.channels.size)
  | rounds + 1, room => do
      let before ← get
      let stages ← runStages run tested room none commands
      if wantsMore stages then
        set before
        runPipe run tested commands rounds (4 * room)
      else modify (·.withChannels before.channels.size)

/-- How a part of a loop has ended. -/
inductive LoopEnd
  | through
  /-- The loop goes on from its beginning. -/
  | again
  /-- The loop is left. -/
  | left
  deriving DecidableEq

/-- Repeats an act, given the status that the loop has so far, until it says that it is
done. -/
def repeatAct : (limit : Nat) → (Nat → Act (LoopEnd × Nat)) → (status : Nat) → Act Unit
  | 0, _, _ => throw (.slain 9)
  | limit + 1, act, status => do
      match ← act status with
      | (.left, status) => setStatus status
      | (_, status) => repeatAct limit act status

/-- Runs a part of a loop, and tells how it has ended. -/
def runBody (act : Act Unit) : Act LoopEnd := do
  modify fun state => { state with loops := state.loops + 1 }
  let result ← attempt act
  modify fun state => { state with loops := state.loops - 1 }
  match result with
  | .ok () => return .through
  | .error (.leave levels) =>
      if levels ≤ 1 then return .left else throw (.leave (levels - 1))
  | .error (.again levels) =>
      if levels ≤ 1 then return .again else throw (.again (levels - 1))
  | .error jump => throw jump

/-- Counts a round of a loop.  When there were too many, the loop goes on for ever. -/
def countRound : Act Unit := do
  let state ← get
  match state.patience with
  | none => return ()
  | some 0 => do
      set { state with clock := endlessTime }
      throw .stop
  | some (rounds + 1) => set { state with patience := some rounds }

/-- Runs a loop with a condition. -/
def runLoop
    (run : Runner)
    (limit : Nat)
    (mode : Mode)
    (success : Bool)
    (condition body : Command) :
    Act Unit :=
  let step := fun status => do
    countRound
    let ended ← runBody (run .ofTest condition)
    if ended = .through then
      if ((← get).status == 0) == success then
        let ended ← runBody (run mode.inner body)
        return (ended, (← get).status)
      else return (.left, status)
    else return (ended, status)
  repeatAct limit step 0

/-- Runs a loop over fields. -/
def runEach
    (run : Runner)
    (mode : Mode)
    (name : Octets)
    (body : Command) :
    List Octets → Act Unit
  | [] => return ()
  | value :: values => do
      assign name value false
      if (← runBody (run mode.inner body)) ≠ .left then runEach run mode name body values

/-- Whether one of some patterns fits a text. -/
def fitsOne
    (substitute : Substitution)
    (text : Octets) :
    List Word → Act Bool
  | [] => return false
  | pattern :: patterns => do
      if fits (← expandPattern substitute pattern) text then return true
      fitsOne substitute text patterns

/-- Runs the first branch that fits a text. -/
def runBranches
    (run : Runner)
    (mode : Mode)
    (text : Octets) :
    List Branch → Act Unit
  | [] => setStatus 0
  | .mk patterns body :: branches => do
      if ← fitsOne (outputOf run) text patterns then
        if body.isNothing then setStatus 0 else run mode body
      else runBranches run mode text branches

/-- Runs a command with redirections, and tells whether these could be made. -/
def runRedirected
    (run : Runner)
    (kept : Bool)
    (redirections : List Redirection)
    (act : Act Unit) :
    Act Bool := do
  withWires (outputOf run) kept false (← expandWires (outputOf run) redirections) act

/-- The state of a job, in which what goes to some streams is held back. -/
def State.holding
    (state : State)
    (sender : Sender)
    (streams : List Nat) :
    State :=
  streams.foldl
    (fun after stream =>
      match state.channel? stream with
      | some (index, .sink ..) | some (index, .outer ..) | some (index, .file ..)
      | some (index, .later ..) =>
          after.joined stream (.later sender index)
      | _ => after)
    state

/-- Runs an act in the background, by so many processes.  It is run at once, but what it
writes is not seen before the shell has to do with other programs again. -/
def runBehind
    (size : Nat)
    (act : Act (Option ExitStatus)) :
    Act Unit := do
  let before ← get
  let number := before.started + size
  let era := before.eras + 1
  let sender : Sender := ⟨number, before.era⟩
  let apart := { before.isolated with
    sender := some sender
    patience := some backgroundRounds
    process := firstProcess + number
    started := number
    era := era
    eras := era }
  set ((apart.holding sender [1, 2]).joined 0 (.source []))
  let ended ← act
  modify (·.revealedAll)
  let after ← get
  let slot := before.jobs.freeSlot
  let ignored := (after.traps.filter (·.2.isEmpty)).map (·.1) ++ after.deaf
  let job : Job := ⟨slot, number, size, ended.getD (.code (after.status % 256)), after.clock,
    ignored, false, false⟩
  set ({ before.rejoined after with
    streams := before.streams
    jobs := job :: before.jobs.without slot
    lastStarted := some number
    clock := before.clock
    patience := before.patience
    status := 0 }.withTree after.tree)

/-- How often a loop may begin again. -/
def loopLimit : Nat := 1000000000

/-- Runs a command that is no simple one, or the like. -/
def runCompound
    (run : Runner)
    (mode : Mode) :
    Command → Act Unit
  | .nothing | .simple .. => return ()
  | .redirected line body redirections => do
      modify fun state => { state with line := line }
      if !(← runRedirected run true redirections (run mode.inner body)) then
        if (← get).has 'e' && !mode.tested then throw .stop
  | .pipeline commands => runPipe run mode.tested commands 8 65536
  | .negated body => do
      run .ofTest body
      modify fun state => { state with status := if state.status = 0 then 1 else 0 }
  | .chain success first second => do
      run .ofTest first
      if ((← get).status == 0) == success then run mode second
  | .sequence first second => do
      run mode.inner first
      run mode second
  | .background body redirections =>
      runBehind body.processes (toTheEnd run do
        let _ ← runRedirected run false redirections (endWith run (run ⟨false, true⟩ body)))
  | .isolated line body redirections => do
      modify fun state => { state with line := line }
      let isLast := mode.last && !(← get).hasTraps
      (if isLast then asLast run else onItsOwn run) do
        let _ ← runRedirected run false redirections
          (endWith run (run { mode with last := true } body))
  | .choice condition yes no => do
      run .ofTest condition
      if (← get).status = 0 then run mode yes
      else if no.isNothing then setStatus 0
      else run mode no
  | .loop success condition body => runLoop run loopLimit mode success condition body
  | .each line name words body => do
      modify fun state => { state with line := line }
      let fields ← words.mapM (expandFields (outputOf run))
      match fields.flatten with
      | [] => setStatus 0
      | fields => runEach run mode name body fields
  | .select line subject branches => do
      modify fun state => { state with line := line }
      let text ← expandText (outputOf run) subject
      runBranches run mode text branches
  | .function name body => do
      modify fun state => { state with
        functions := (name, body) :: state.functions.filter (·.1 != name)
        found := state.found.without name
        status := 0 }

/-- A failure of the command may end a shell that ends at failures. -/
def Command.isChecked : Command → Bool
  | .simple .. | .pipeline _ | .isolated .. | .background .. => true
  | _ => false

/-- Ends the shell if a command has failed and nothing looks at it. -/
def checkFailure
    (mode : Mode)
    (command : Command) :
    Act Unit := do
  let state ← get
  if state.has 'e' && !mode.tested && command.isChecked && state.status != 0 then throw .stop

/-- What a shell is asked to run. -/
inductive Request
  /-- A script, the name it goes by, and its parameters. -/
  | text (text name : Octets) (parameters : List Octets)
  /-- A file that holds the script. -/
  | file (path : Octets) (parameters : List Octets)
  /-- The script is the input. -/
  | input (parameters : List Octets)

/-- Reads the options of a shell, where `c` asks for a script in the arguments and `s` for
one in the input. -/
def shellOptions : List Octets → Act (List Char × List Octets)
  | [] => return ([], [])
  | ['-'] :: rest | ['-', '-'] :: rest => return ([], rest)
  | (sign :: c :: letters) :: rest => do
      if sign = '-' ∨ sign = '+' then
        let wanted := (c :: letters).filter fun letter => letter == 'c' || letter == 's'
        for letter in c :: letters do
          if optionLetters.contains letter then setOption letter (sign = '-')
          else if letter ≠ 'c' ∧ letter ≠ 'o' ∧ letter ≠ 'l' then illegalOption letter
        let named := (c :: letters).contains 'o'
        match named, rest with
        | true, name :: rest => do
            setNamedOption name (sign = '-')
            let (more, operands) ← shellOptions rest
            return (wanted ++ more, operands)
        | _, rest => do
            let (more, operands) ← shellOptions rest
            return (wanted ++ more, operands)
      else return ([], (sign :: c :: letters) :: rest)
  | rest => return ([], rest)

/-- The request that the arguments of a shell make. -/
def readRequest
    (name : Octets)
    (arguments : List Octets) :
    Act Request := do
  let (wanted, operands) ← shellOptions arguments
  if wanted.contains 'c' then
    match operands with
    | [] => abort 2 "-c requires an argument".toList
    | [text] => return .text text name []
    | text :: called :: parameters => return .text text called parameters
  else
    match wanted.contains 's', operands with
    | false, path :: parameters => return .file path parameters
    | _, operands => return .input operands

/-- Runs what the arguments of a shell ask for. -/
def runRequest
    (run : Runner)
    (name : Octets)
    (arguments : List Octets) :
    Act Unit := do
  match ← readRequest name arguments with
  | .text text called parameters => do
      modify fun state => { state with name := called, parameters }
      runText run ⟨false, false⟩ text
  | .file path parameters => do
      let state ← get
      match state.textAt path with
      | .ok (text, state) => do
          set { state with name := path, parameters }
          runFileText run text
      | .error fault => do
          if fault ≠ .os .isFolder then abort 2 (openingWords true path fault)
  | .input parameters => do
      let state ← get
      let text := state.readable 0
      set { state.withUnread 0 [] with parameters }
      runFileText run text

/-- Variables that a shell has from the start, besides those of its environment. -/
def usualVariables (call : Call) : List (String × Octets) :=
  [("IFS", [' ', '\t', '\n']), ("OPTIND", ['1']), ("PS1", ['#', ' ']), ("PS2", ['>', ' ']),
    ("PS4", ['+', ' ']), ("PPID", ['1']), ("PWD", octets call.folder)]

/-- A shell before its first command. -/
def State.start (call : Call) : State where
  name := call.name
  parameters := []
  bindings :=
    let usual := usualVariables call
    usual.map (fun item => (item.1.toList, {
      value := some item.2
      exported := call.environment.any (·.1 == item.1.toList)
      fixed := false })) ++
    (call.environment.filter fun item => !usual.any fun other => other.1.toList == item.1).map
      fun item => (item.1, ⟨some item.2, true, false⟩)
  functions := []
  found := []
  aliases := []
  options := []
  traps := []
  documents := []
  tree := call.tree
  folder := call.folder
  channels := #[if call.inputFault = some .isFolder then .folder else .source call.input,
    if call.refusal = some .noSpace then .device .full else .outer .output call.room,
    .outer .complaints none]
  pieces := []
  held := []
  streams := (if call.closed then [] else [(0, 0)]) ++
    (if call.refusal = some .badDescriptor then [] else [(1, 1)]) ++ [(2, 2)]
  status := 0
  isRefused := false
  trapped := none
  substituted := none
  line := 0
  running := none
  loops := 0
  kept := []
  depth := 0
  own := firstProcess
  process := firstProcess
  ancestors := [1]
  deaf := []
  sent := []
  sender := none
  patience := none
  outside := []
  pending := []
  jobs := []
  started := 0
  lastStarted := none
  clock := 0
  era := 0
  eras := 0
  mask := call.mask
  optionIndex := 1
  optionOffset := none

/-- The tool that is a shell. -/
def shellTool (run : Runner) : Tool := fun call =>
  let act := toTheEnd run (runRequest run call.name call.arguments)
  let (result, state) := act (State.start call)
  let state := state.revealedAll
  let status := match result with
    | .ok (some status) => status
    | .error (.slain signal) => .signal signal
    | _ => .code (state.status % 256)
  { status
    pieces := state.pieces.reverse
    unread := state.readable 0
    tree := state.tree }

/-- How far the numbers of a shell's process and of one that it starts are apart. -/
def processStep : Nat := 100000

/-- A shell that another one starts.  It has the streams and the files of that one, and ignores
what that one ignores. -/
def State.startedShell
    (state : State)
    (inPlace : Bool)
    (start : Start) :
    State :=
  let call := state.call start.name start.arguments
  let number := if inPlace then state.process else state.process + processStep
  let ancestors := if inPlace then state.ancestors else state.process :: state.ancestors
  let starter := (toString (ancestors.headD 1)).toList
  { (State.start call).assigned "PPID".toList starter false with
    tree := state.tree
    channels := state.channels
    streams := state.streams
    pieces := state.pieces
    held := state.held
    own := number
    process := number
    ancestors
    sender := state.sender
    patience := state.patience
    outside := state.processes
    started := state.started
    deaf := (state.traps.filter (·.2.isEmpty)).map (·.1) ++ state.deaf
    clock := state.clock
    era := state.era
    eras := state.eras }

/-- Runs a shell that this one starts, and tells how it ended. -/
def runShell
    (run : Runner)
    (inPlace : Bool)
    (start : Start) :
    Act ExitStatus := do
  let before ← get
  set (before.startedShell inPlace start)
  let ended ← attempt (toTheEnd run (runRequest run start.name start.arguments))
  let after ← get
  set { before.rejoined after with
    status := before.status
    sent := before.sent ++ after.sent }
  return match ended with
    | .ok (some status) => status
    | .error (.slain signal) => .signal signal
    | _ => .code (after.status % 256)

/-- The programs, of which shells run scripts so. -/
def programsWith (run : Runner) : Programs := fun inPlace start =>
  if shellNames.contains start.program then some (runShell run inPlace start)
  else (tool? start.program).map (runProgram · start)

/-- Runs a command; commands may stand in one another so many times. -/
def execute : (depth : Nat) → Runner
  | 0, _, _ => throw (.slain 11)
  | depth + 1, mode, command => do
      if (← get).has 'n' then return ()
      let run := execute depth
      match command with
      | .simple line assignments words redirections =>
          runSimple run (programsWith run) mode line assignments words redirections
      | command => runCompound run mode command
      receiveSent
      runPending run
      checkFailure mode command

/-- How many times commands may stand in one another. -/
def depthLimit : Nat := 20000

/-- The programs of a system by their names. -/
def programs (name : String) : Option Tool :=
  if shellNames.contains name then some (shellTool (execute depthLimit)) else tool? name

end Shell
end CaptureKit
