import CaptureKit.Text.Octet
import CaptureKit.Tools.Run

/-!
# Jobs

A command in the background is a job.  Jobs are in a table with numbered slots; a slot is
free again when somebody has waited for its job or has been shown that it is over.
-/

namespace CaptureKit
namespace Shell

open Text Tools

/-- A command in the background. -/
structure Job where
  /-- Its place in the table, counted from one. -/
  slot : Nat
  /-- The number of its last process among all that were put in the background. -/
  number : Nat
  /-- How many processes it has. -/
  size : Nat
  status : ExitStatus
  /-- When it ends. -/
  ends : Nat
  /-- The signals that it ignores. -/
  ignored : List Nat
  /-- The shell has noticed its end. -/
  isNoticed : Bool
  /-- Somebody has waited for it. -/
  isOver : Bool

/-- The table of jobs, the last one first. -/
abbrev Jobs := List Job

namespace Jobs

/-- A slot holds a job that somebody may still wait for. -/
def isTaken
    (jobs : Jobs)
    (slot : Nat) :
    Bool :=
  jobs.any fun job => job.slot == slot && !job.isOver

/-- The first slot from one on that is free, where `limit` slots are looked at. -/
def freeSlotFrom
    (jobs : Jobs) :
    (limit slot : Nat) → Nat
  | 0, slot => slot
  | limit + 1, slot => if jobs.isTaken slot then freeSlotFrom jobs limit (slot + 1) else slot

/-- The first free slot. -/
def freeSlot (jobs : Jobs) : Nat :=
  jobs.freeSlotFrom jobs.length 1

/-- The table without the job in a slot. -/
def without
    (jobs : Jobs)
    (slot : Nat) :
    Jobs :=
  jobs.filter (·.slot != slot)

/-- The table in which the shell has noticed which jobs had ended when one of them did. -/
def noticing
    (jobs : Jobs)
    (ended : Job) :
    Jobs :=
  let isEarlier := fun job : Job =>
    job.ends < ended.ends || (job.ends == ended.ends && job.number ≤ ended.number)
  jobs.map fun job => { job with isNoticed := job.isNoticed || isEarlier job }

/-- The table after the shell has waited for a process that used a slot meanwhile. -/
def afterProcess
    (jobs : Jobs)
    (time : Nat) :
    Jobs :=
  (jobs.without jobs.freeSlot).map fun job =>
    { job with isNoticed := job.isNoticed || job.ends ≤ time }

/-- The table with the job of some number changed. -/
def change
    (jobs : Jobs)
    (number : Nat)
    (change : Job → Job) :
    Jobs :=
  jobs.map fun job => if job.number = number then change job else job

/-- The job that a sign names: the last one, the one before, or the one in a slot. -/
def named?
    (jobs : Jobs)
    (sign : Octets) :
    Except String Job :=
  let missing := Except.error "No such job: "
  match sign with
  | [] | ['+'] | ['%'] =>
      match jobs with
      | job :: _ => .ok job
      | [] => .error "No current job"
  | ['-'] =>
      match jobs with
      | _ :: job :: _ => .ok job
      | _ => .error "No previous job"
  | digits =>
      if digits.all Char.isDigit then
        let slot := Nat.ofDigitChars 10 digits 0
        (jobs.find? (·.slot == slot)).elim missing .ok
      else missing

end Jobs

/-- What is told of jobs. -/
inductive JobTale
  | states
  /-- The numbers of processes as well. -/
  | processes
  /-- Only the number of the first process. -/
  | leader
  deriving DecidableEq

/-- The state of a job in words, where `signalText` are those for signals. -/
def Job.stateWords
    (job : Job)
    (signalText : Nat → String)
    (runs : Bool) :
    Octets :=
  if runs then "Running".toList
  else
    match job.status with
    | .code 0 => "Done".toList
    | .code n => "Done(".toList ++ (toString n).toList ++ [')']
    | .signal n => (signalText n).toList

/-- How wide the state of a job is at least. -/
def jobWidth : Nat := 33

/-- What is told of a job.  `mark` is the sign of the last one and of the one before, and
`base` comes before the numbers of processes. -/
def Job.shown
    (job : Job)
    (tale : JobTale)
    (mark : Char)
    (base : Nat)
    (words : Octets) :
    Octets :=
  let first := base + job.number + 1 - job.size
  let digits := fun n : Nat => (toString n).toList
  let padded := fun text : Octets => text ++ List.replicate (max 1 (jobWidth - text.length)) ' '
  let front := '[' :: digits job.slot ++ [']', ' ', mark, ' ']
  match tale with
  | .leader => digits first ++ ['\n']
  | .states =>
      padded (front ++ words) ++ (List.replicate (job.size - 1) [' ', '|', ' ']).flatten ++ ['\n']
  | .processes =>
      let others := (List.range (job.size - 1)).flatMap fun n =>
        let text := List.replicate front.length ' ' ++ digits (first + n + 1) ++ [' ']
        [' ', '|', '\n'] ++ padded text
      padded (front ++ digits first ++ ' ' :: words) ++ others ++ ['\n']

end Shell
end CaptureKit
