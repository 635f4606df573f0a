import CaptureKit.Shell.Builtins.Signals

/-!
# Commands in the background

A command in the background is run at once; its status is kept for whoever waits for it.
-/

namespace CaptureKit
namespace Shell

open Storage Text Tools

/-- The job that a sign behind a percent sign names. -/
def jobSigned (operand sign : Octets) : Act Job := do
  match (← get).jobs.named? sign with
  | .ok job => return job
  | .error words => abort 2 (words.toList ++ if words.endsWith " " then operand else [])

/-- The job that an operand of a command names, by a sign or by the number of its process. -/
def jobNamed? (operand : Octets) : Act (Option Job) := do
  match operand with
  | '%' :: sign => return some (← jobSigned operand sign)
  | operand => return (← get).jobAt? (← needNumber operand)

/-- Waits until some time, unless a signal that is trapped comes first. -/
def waitUntil (time : Nat) : Act Bool := do
  let state ← get
  match state.interruption? time with
  | some item => do
      set (state.after item.time)
      setStatus (128 + item.signal)
      return false
  | none => do
      set (state.after time)
      return true

/-- Waits for the end of a job, and gives its status. -/
def waitFor (number : Nat) : Act Unit := do
  modify fun state =>
    state.settled fun item => item.process == firstProcess + number
  let finished := fun job : Job => { job with isNoticed := true, isOver := true }
  match (← get).jobs.find? (·.number == number) with
  | none => setStatus 127
  | some job => do
      if ← waitUntil job.ends then
        modify fun state =>
          let jobs := if job.isNoticed then state.jobs else state.jobs.noticing job
          let last := { state with jobs := jobs.change number finished }
          if job.isNoticed then last else last.withEndedChild
        match job.status with
        | .signal signal =>
            if job.isNoticed then setStatus (128 + signal) else takeStatus job.status
        | .code status => setStatus status

/-- Waits for commands in the background, and gives the status of the last one that is
named. -/
def wait : Builtin := fun arguments => do
  let (_, operands) ← readOptions [] arguments
  setStatus 0
  if operands.isEmpty then
    modify fun state => state.settled fun _ => true
    if ← waitUntil (← get).lastTime then
      modify fun state =>
        let last := if state.jobs.all (·.isNoticed) then state else state.withEndedChild
        { last with jobs := last.jobs.map fun job => { job with isNoticed := true, isOver := true } }
  for operand in operands do
    match ← jobNamed? operand with
    | none => setStatus 127
    | some job => waitFor job.number

/-- The state of jobs that a signal has ended, in words. -/
def endingWords : Nat → String
  | 2 => "Interrupt"
  | 13 => "Broken pipe"
  | n => (signalWords n).getD ""

/-- Tells of a job; one that is over is forgotten. -/
def showJob
    (tale : JobTale)
    (job : Job) :
    Act Unit := do
  let state ← get
  let mark := match state.jobs.findIdx? (·.number == job.number) with
    | some 0 => '+'
    | some 1 => '-'
    | _ => ' '
  let runs := !job.isNoticed && state.clock ≤ job.ends
  write 1 (job.shown tale mark firstProcess (job.stateWords endingWords runs))
  if !runs then set { (← get) with jobs := state.jobs.without job.slot }

/-- Lists jobs. -/
def listJobs : Builtin := fun arguments => do
  let (letters, operands) ← readOptions ['l', 'p'] arguments
  let tale := match letters.getLast? with
    | some 'l' => JobTale.processes
    | some _ => .leader
    | none => .states
  setStatus 0
  if operands.isEmpty then
    for job in (← get).jobs do
      showJob tale job
  else
    for operand in operands do
      match operand with
      | '%' :: sign => showJob tale (← jobSigned operand sign)
      | _ => abort 2 ("No such job: ".toList ++ operand)

/-- Goes on with a job, which no shell without a terminal can do. -/
def resumeJob : Builtin := fun arguments => do
  let (_, operands) ← readOptions [] arguments
  let refused := fun name : Octets => do
    abort 2 ("job ".toList ++ name ++ " not created under job control".toList)
  match operands with
  | [] => do
      let _ ← jobSigned [] []
      refused "(null)".toList
  | operand :: _ =>
      match operand with
      | '%' :: sign => do
          let _ ← jobSigned operand sign
          refused operand
      | _ => abort 2 ("No such job: ".toList ++ operand)

end Shell
end CaptureKit
