import CaptureKit.Shell.Builtins.Basic

/-!
# Signals

Signals have numbers and names.  A shell ignores them, does what is trapped with them, or
ends.
-/

namespace CaptureKit
namespace Shell

open Storage Text Tools

/-- The names of signals by number, as this shell spells them. -/
def signalNames : List (String × Nat) :=
  [("EXIT", 0), ("HUP", 1), ("INT", 2), ("QUIT", 3), ("ILL", 4), ("TRAP", 5), ("ABRT", 6),
    ("BUS", 7), ("FPE", 8), ("KILL", 9), ("USR1", 10), ("SEGV", 11), ("USR2", 12), ("PIPE", 13),
    ("ALRM", 14), ("TERM", 15), ("16", 16), ("CHLD", 17), ("CONT", 18), ("STOP", 19),
    ("TSTP", 20), ("TTIN", 21), ("TTOU", 22), ("URG", 23), ("XCPU", 24), ("XFSZ", 25),
    ("VTALRM", 26), ("PROF", 27), ("WINCH", 28), ("IO", 29), ("PWR", 30), ("SYS", 31), ("32", 32),
    ("33", 33), ("RTMIN", 34)] ++
    (List.range 15).map (fun n => ("RTMIN+" ++ toString (n + 1), 35 + n)) ++
    (List.range 14).map (fun n => ("RTMAX-" ++ toString (14 - n), 50 + n)) ++ [("RTMAX", 64)]

/-- The number of a signal. -/
def signalOf?
    (least : Nat)
    (name : Octets) :
    Option Nat :=
  if name ≠ [] ∧ name.all Char.isDigit then
    let n := decimalValue name
    if n ≤ 64 then some n else none
  else
    (signalNames.find? fun item =>
      least ≤ item.2 && item.1.toList == name.map Char.toUpper).map Prod.snd

/-- The name of a signal. -/
def nameOfSignal (signal : Nat) : Octets :=
  ((signalNames.find? fun item => item.2 == signal).map fun item => item.1.toList).getD []

/-- What becomes of a signal to the shell: it is ignored, waits for its trap, or ends the
shell, or the part of it that runs on its own. -/
def receive (signal : Nat) : Act Unit := do
  let state ← get
  if signal = 0 ∨ state.deaf.contains signal then return ()
  else
    let endHere := throw (if state.depth = 0 then .slain signal else .replaced (.signal signal))
    match state.traps.lookup signal with
    | some [] => return ()
    | some _ =>
        if signal = 9 then endHere
        else set { state with pending := state.pending ++ [signal] }
    | none => if isHarmless signal then return () else endHere

/-- What the shell says about a program that a signal has ended; of some signals nothing. -/
def signalWords : Nat → Option String
  | 1 => some "Hangup"
  | 3 => some "Quit"
  | 4 => some "Illegal instruction"
  | 5 => some "Trace/breakpoint trap"
  | 6 => some "Aborted"
  | 7 => some "Bus error"
  | 8 => some "Floating point exception"
  | 9 => some "Killed"
  | 10 => some "User defined signal 1"
  | 11 => some "Segmentation fault"
  | 12 => some "User defined signal 2"
  | 14 => some "Alarm clock"
  | 15 => some "Terminated"
  | 16 => some "Stack fault"
  | 24 => some "CPU time limit exceeded"
  | 25 => some "File size limit exceeded"
  | 26 => some "Virtual timer expired"
  | 27 => some "Profiling timer expired"
  | 29 => some "I/O possible"
  | 30 => some "Power failure"
  | 31 => some "Bad system call"
  | 2 | 13 => none
  | n => some (if n < 34 then "Unknown signal " ++ toString n
      else "Real-time signal " ++ toString (n - 34))

/-- Takes over the status of a process that has ended. -/
def takeStatus : ExitStatus → Act Unit
  | .code number => setStatus number
  | .signal number => do
      match signalWords number with
      | some words => write 2 (words.toList ++ ['\n'])
      | none => pure ()
      setStatus (128 + number)

/-- How `kill` is used. -/
def killUsage : Octets :=
  "Usage: kill [-s sigspec | -signum | -sigspec] [pid | job]... or\nkill -l [exitstatus]".toList

/-- Sends a signal to processes, of which this shell, those that have started it and those in
the background of one of these are the only ones that can be found. -/
def sendTo
    (signal : Nat)
    (targets : List Octets) :
    Act Unit := do
  setStatus 0
  for target in targets do
    let state ← get
    match target with
    | '%' :: sign => do
        match state.jobs.named? sign with
        | .error words => abort 2 (words.toList ++ if words.endsWith " " then target else [])
        | .ok _ => noProcess
    | _ => do
        let number ← needNumber (if target.head? = some '-' then target.tail else target)
        let job? := (state.jobAt? number).filter fun job =>
          !job.isNoticed && state.clock ≤ job.ends
        let isOutside := state.ancestors.contains number ||
          (state.outside.lookup number).any (state.clock ≤ ·)
        match job? with
        | some job => set (state.withSignal job signal state.clock)
        | none => do
            if number = state.process then receive signal
            else if isOutside then
              let item : SentSignal := ⟨state.sender, number, signal, state.clock⟩
              if signal ≠ 0 then set { state with sent := state.sent ++ [item] }
            else noProcess
where
  /-- Complains that there is no such process. -/
  noProcess : Act Unit := do
    complain "No such process\n".toList
    setStatus 1

/-- Lists the names of signals. -/
def listSignals (operands : List Octets) : Act Unit := do
  setStatus 0
  match operands with
  | [] =>
      write 1 (unlines ("0".toList :: (signalNames.drop 1).map fun item => item.1.toList))
  | operand :: _ => do
      let n ← needNumber operand
      let n := if 128 < n then n - 128 else n
      if 0 < n ∧ n ≤ 64 then write 1 (nameOfSignal n ++ ['\n'])
      else abort 2 ("invalid signal number or exit status: ".toList ++ operand)
where
  /-- Lines with a line feed behind each. -/
  unlines (lines : List Octets) : Octets := lines.flatMap (· ++ ['\n'])

/-- Sends a signal, or lists the names of signals. -/
def kill : Builtin := fun arguments => do
  let (signal, listing, targets) ← match arguments with
    | ('-' :: name) :: rest =>
        match signalOf? 1 name with
        | some signal => pure (signal, false, rest)
        | none =>
            match name, rest with
            | ['-'], rest => pure (15, false, rest)
            | ['l'], ('-' :: c :: _) :: _ => illegalOption c
            | ['l'], rest => pure (15, true, rest)
            | 's' :: [], named :: rest =>
                match signalOf? 1 named with
                | some signal => pure (signal, false, rest)
                | none => abort 2 ("invalid signal number or name: ".toList ++ named)
            | 's' :: [], [] => abort 2 "No arg for -s option".toList
            | 's' :: named, rest =>
                match signalOf? 1 named with
                | some signal => pure (signal, false, rest)
                | none => abort 2 ("invalid signal number or name: ".toList ++ named)
            | 'l' :: c :: _, _ | c :: _, _ => illegalOption c
            | [], _ => abort 2 killUsage
    | rest => pure (15, false, rest)
  if listing then listSignals targets
  else if targets.isEmpty then abort 2 killUsage
  else sendTo signal targets

/-- Lists what is done at signals. -/
def listTraps : Act Unit := do
  let traps := (← get).traps.mergeSort fun a b => a.1 ≤ b.1
  for (signal, action) in traps do
    write 1 ("trap -- ".toList ++ readable action ++ ' ' :: nameOfSignal signal ++ ['\n'])

/-- Says what to do at signals. -/
def trap : Builtin := fun arguments => do
  let (_, operands) ← readOptions [] arguments
  setStatus 0
  let (action, signals) := match operands with
    | [] => (none, [])
    | [signal] => (none, [signal])
    | action :: signals =>
        if action ≠ [] ∧ action.all Char.isDigit then (none, action :: signals)
        else (if action = ['-'] then none else some action, signals)
  if operands.isEmpty then listTraps
  else
    for name in signals do
      match signalOf? 0 name with
      | some signal =>
          modify fun state => { state with
            traps := (action.map (signal, ·)).toList ++ state.traps.filter (·.1 != signal) }
      | none => do
          write 2 ("trap: ".toList ++ name ++ ": bad trap\n".toList)
          setStatus 1
          return ()

end Shell
end CaptureKit
