import CaptureKit.Storage.FileTree

/-!
# Runs of other programs

A program that is started with arguments and some input ends with a status and leaves
what it wrote to its two outputs.  On the way it may change files.  Which programs there
are is the business of a launcher.
-/

namespace CaptureKit
namespace Tools

open Storage Text

/-- How a program ended. -/
inductive ExitStatus
  /-- It ended by itself with this number. -/
  | code (number : Nat)
  /-- A signal ended it. -/
  | signal (number : Nat)
  deriving DecidableEq, Repr

/-- The names of the signals that can end a program. -/
def signalName? : Nat → Option String
  | 1 => some "SIGHUP"
  | 2 => some "SIGINT"
  | 3 => some "SIGQUIT"
  | 4 => some "SIGILL"
  | 5 => some "SIGTRAP"
  | 6 => some "SIGABRT"
  | 7 => some "SIGBUS"
  | 8 => some "SIGFPE"
  | 9 => some "SIGKILL"
  | 10 => some "SIGUSR1"
  | 11 => some "SIGSEGV"
  | 12 => some "SIGUSR2"
  | 13 => some "SIGPIPE"
  | 14 => some "SIGALRM"
  | 15 => some "SIGTERM"
  | 16 => some "SIGSTKFLT"
  | 24 => some "SIGXCPU"
  | 25 => some "SIGXFSZ"
  | 26 => some "SIGVTALRM"
  | 27 => some "SIGPROF"
  | 29 => some "SIGIO"
  | 30 => some "SIGPWR"
  | 31 => some "SIGSYS"
  | _ => none

/-- Zero alone is success. -/
def ExitStatus.isSuccess (status : ExitStatus) : Bool :=
  status == .code 0

/-- The wording of a status. -/
def ExitStatus.words : ExitStatus → String
  | .code number => s!"exit status: {number}"
  | .signal number =>
      match signalName? number with
      | some name => s!"signal: {number} ({name})"
      | none => s!"signal: {number}"

/-- What a program leaves when it has ended. -/
structure Run where
  status : ExitStatus
  output : Bytes
  diagnostics : Bytes

/-- Starts the named program with arguments and input, and waits for its end. -/
abbrev Launcher := String → List String → Bytes → StateM FileTree (Except IoFault Run)

end Tools
end CaptureKit
