import CaptureKit.Shell.State

/-!
# What goes on in the background

A command in the background is run at once, in a stretch of time of its own.  What it writes
and the signals that it sends have the times at which that happens, and nobody notices them
before the clock of the shell has reached these times.  Parts of a script that run on their own
are here as well: they are processes like the commands in the background, but the shell
waits for them.
-/

namespace CaptureKit
namespace Shell

open Storage Text Tools

/-- How often the loops of a command in the background go round.  One that would go on for ever
has to be ended by a signal, and what it does after so many rounds comes too late. -/
def backgroundRounds : Nat := 2000

/-- The time that is never reached. -/
def endlessTime : Nat := 1000000000000000

/-- Signals that do not end a process. -/
def isHarmless (signal : Nat) : Bool :=
  [0, 17, 18, 19, 20, 21, 22, 23, 28].contains signal

namespace State

/-- The job of the process with some number. -/
def jobAt?
    (state : State)
    (process : Nat) :
    Option Job :=
  state.jobs.find? fun job => firstProcess + job.number == process

/-- The state after the shell has waited for a process of its own. -/
def withProcess (state : State) : State :=
  { state with jobs := state.jobs.afterProcess state.clock }

/-- The state in which a process of its own has ended, which is a signal by itself. -/
def withEndedChild (state : State) : State :=
  if (state.traps.lookup 17).any (!·.isEmpty) && !(state.pending ++ state.deaf).contains 17 then
    { state with pending := state.pending ++ [17] }
  else state

/-- The state in which a job has got a signal at some time: it ends if it would go on, and
writes and sends nothing more. -/
def withSignal
    (state : State)
    (target : Job)
    (signal time : Nat) :
    State :=
  let sender : Sender := ⟨target.number, state.era⟩
  let ending := fun job : Job =>
    if time < job.ends then { job with status := .signal signal, ends := time } else job
  if isHarmless signal || target.ignored.contains signal then state
  else
    { state with
      jobs := state.jobs.change target.number ending
      held := state.held.filter fun item => item.sender != sender || item.time ≤ time
      sent := state.sent.filter fun item => item.sender != some sender || item.time ≤ time }

/-- The state in which the signals among those sent that meet a condition have reached the
jobs they are for, in the order of their times. -/
def settled
    (state : State)
    (meets : SentSignal → Bool) :
    State :=
  let reaches := fun item : SentSignal => meets item && (state.jobAt? item.process).isSome
  let due := (state.sent.filter reaches).mergeSort fun a b => a.time ≤ b.time
  due.foldl
    (fun after item =>
      match after.jobAt? item.process with
      | some job => after.withSignal job item.signal item.time
      | none => after)
    { state with sent := state.sent.filter (!reaches ·) }

/-- The state in which what was written in the background up to some time is seen. -/
def revealedUntil
    (state : State)
    (time : Nat) :
    State :=
  let (seen, held) := state.held.partition fun item =>
    item.sender.era == state.era && item.time ≤ time
  if seen.isEmpty then state
  else
    let inOrder := seen.mergeSort fun a b => a.time ≤ b.time
    let after := inOrder.foldl
      (fun after item =>
        ({ after with clock := item.time }.writtenAt item.target item.text).toOption.getD after)
      { state with held := held }
    { after with clock := state.clock }

/-- The state in which what was written in the background by now is seen. -/
def revealed (state : State) : State :=
  state.revealedUntil state.clock

/-- The state in which everything that was written in the background is seen. -/
def revealedAll (state : State) : State :=
  state.revealedUntil ((state.held.map (·.time)).foldl max state.clock)

/-- The state after some more time. -/
def after
    (state : State)
    (time : Nat) :
    State :=
  let clock := max state.clock time
  let state := state.settled (·.time ≤ clock)
  { state with clock, tree := { state.tree with now := clock } }.revealed

/-- The time at which all commands in the background are over. -/
def lastTime (state : State) : Nat :=
  (state.jobs.map (·.ends)).foldl max state.clock

/-- The first signal that is trapped and reaches the shell before some time, with the time at
which it does. -/
def interruption?
    (state : State)
    (time : Nat) :
    Option SentSignal :=
  let reaches := fun item : SentSignal =>
    item.process == state.process && item.time < time &&
      (state.traps.lookup item.signal).any (!·.isEmpty)
  ((state.sent.filter reaches).mergeSort fun a b => a.time ≤ b.time).head?

/-- The state after the last of what was written in the background to a channel. -/
def awaiting
    (state : State)
    (index : Nat) :
    State :=
  let awaited := state.held.filter fun item =>
    item.sender.era == state.era && item.target == index
  state.after ((awaited.map (·.time)).foldl max state.clock)

/-- How far the numbers of the processes of a part and of a part in it are apart. -/
def partStep : Nat := 1000

/-- The numbers of the processes in the background that go on, with the times of their ends. -/
def processes (state : State) : List (Nat × Nat) :=
  ((state.jobs.filter (!·.isNoticed)).map fun job => (firstProcess + job.number, job.ends)) ++
    state.outside

/-- The state in which a part of a script runs on its own. -/
def isolated (state : State) : State :=
  { state with
    depth := state.depth + 1
    process := state.process + partStep
    ancestors := state.process :: state.ancestors
    outside := state.processes
    traps := state.traps.filter (·.2.isEmpty)
    jobs := [] }

/-- The state after a part that ran on its own: files and channels stay as it left them. -/
def rejoined
    (before after : State) :
    State :=
  let isUsed := after.held.any (before.channels.size ≤ ·.target)
  { before with
    channels := if isUsed then after.channels else after.channels.shrink before.channels.size
    pieces := after.pieces
    held := after.held
    sent := after.sent
    clock := after.clock
    eras := after.eras
    started := after.started
    patience := after.patience
    status := after.status % 256 }.withTree after.tree

end State

end Shell
end CaptureKit
