import CaptureKit.Shell.Builtins.Basic

/-!
# Commands that lead elsewhere

These commands leave loops, functions and the shell, or drop parameters.
-/

namespace CaptureKit
namespace Shell

open Storage Text Tools

/-- A number of loops to leave. -/
def loopLevels (arguments : List Octets) : Act Nat := do
  match arguments with
  | [] => return 1
  | argument :: _ => do
      let n ← needNumber argument
      if n = 0 then abort 2 ("Illegal number: ".toList ++ argument) else return n

/-- Leaves loops, or begins a loop again. -/
def leaveLoops (jump : Nat → Jump) : Builtin := fun arguments => do
  let levels ← loopLevels arguments
  let state ← get
  setStatus 0
  if 0 < state.loops then throw (jump (min levels state.loops))

/-- Ends the shell with the status that is given.  In a trap the status is otherwise that from
before the trap. -/
def leaveShell : Builtin := fun arguments => do
  match arguments with
  | [] => modify fun state => { state with status := state.trapped.getD state.status }
  | argument :: _ => setStatus (← needNumber argument)
  throw .stop

/-- Ends a function with the status that is given, or with that of the last command. -/
def leaveFunction : Builtin := fun arguments => do
  match arguments with
  | [] => throw (.give false)
  | argument :: _ => do
      setStatus (← needNumber argument)
      throw (.give true)

/-- Drops parameters from the front. -/
def shift : Builtin := fun arguments => do
  let count ← match arguments with
    | [] => pure 1
    | argument :: _ => needNumber argument
  let state ← get
  if state.parameters.length < count then abort 2 "can't shift that many".toList
  set { state.withParameters (state.parameters.drop count) with status := 0 }

end Shell
end CaptureKit
