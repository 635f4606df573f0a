import CaptureKit.Log.Reading
import CaptureKit.Report

/-!
# Assembling programs from events

An assembly holds the words of the program that is being read and the programs that are
complete.  In a shader dump index 0 starts a program and each further index is the next
one.  In a method trace a load address starts a program, and its words have no index.

An event that is refused may still end the program before it: the words of a program
that is no whole number of instructions are dropped when the refusal is reported.
-/

namespace CaptureKit
namespace Log

open Microcode Text

/-- Why events do not make programs. -/
inductive AssemblyFault
  /-- An index that is not the next one. -/
  | gap (expected found : Nat)
  /-- A program whose words are no whole number of instructions. -/
  | ragged (description : Option String) (wordCount : Nat)
  deriving DecidableEq, Repr

/-- The wording of a fault. -/
def AssemblyFault.message : AssemblyFault → String
  | .gap expected found =>
      s!"missing instruction (expected slot {expected} but found {found})"
  | .ragged description wordCount =>
      let name := description.getD "<unnamed>"
      s!"program {name} has {wordCount} words, which is not a multiple of 4"

/-- A fault of assembly has no cause of its own. -/
def AssemblyFault.report (fault : AssemblyFault) : Report :=
  .plain fault.message

/-- The description of a program by its load address. -/
def loadDescription (address : Word) : String :=
  s!"Shader at 0x{lowerHex address.toNat} ({address.toNat})"

/-- The state of reading programs from events. -/
structure Assembly where
  kind : LogKind
  /-- The words of the program that is being read. -/
  pending : Array Word
  /-- The index of the last instruction that was taken. -/
  lastSlot : Option Nat
  /-- The description of the program that is being read. -/
  description : Option String
  /-- The programs that are complete. -/
  complete : Collection

namespace Assembly

/-- Nothing read yet. -/
def start
    (kind : LogKind)
    (retention : Retention) :
    Assembly :=
  ⟨kind, #[], none, none, .empty retention⟩

/-- Ends the program that is being read.  Its words are gone in any case. -/
def endProgram (assembly : Assembly) : Assembly × Option AssemblyFault :=
  if assembly.pending.isEmpty then (assembly, none)
  else
    let emptied := { assembly with pending := #[] }
    match Slot.ofWords? assembly.pending.toList with
    | some slots =>
        ({ emptied with
            complete := assembly.complete.add ⟨slots, assembly.description⟩ }, none)
    | none => (emptied, some (.ragged assembly.description assembly.pending.size))

/-- Puts an instruction behind the pending words. -/
def append
    (assembly : Assembly)
    (index : Nat)
    (code : Slot) :
    Assembly :=
  { assembly with
    pending := assembly.pending ++ code.words.toArray
    lastSlot := some index }

/-- The index that goes on with the program that is being read. -/
def nextSlot (assembly : Assembly) : Nat :=
  match assembly.lastSlot with
  | some last => last + 1
  | none => 0

/-- Takes one event.  Events of the other kind of log mean nothing. -/
def accept
    (assembly : Assembly)
    (event : Event) :
    Assembly × Option AssemblyFault :=
  match assembly.kind, event with
  | .shaderDump, .slot index code =>
      if index = 0 then
        match assembly.endProgram with
        | (ended, none) => (ended.append 0 code, none)
        | (ended, some fault) => (ended, some fault)
      else if index = assembly.nextSlot then (assembly.append index code, none)
      else (assembly, some (.gap assembly.nextSlot index))
  | .methodTrace, .load address =>
      match assembly.endProgram with
      | (ended, none) => ({ ended with description := some (loadDescription address) }, none)
      | (ended, some fault) => (ended, some fault)
  | .methodTrace, .word value =>
      ({ assembly with pending := assembly.pending.push value }, none)
  | _, _ => (assembly, none)

/-- Ends the last program and gives all of them. -/
def conclude (assembly : Assembly) : Except AssemblyFault Collection :=
  match assembly.endProgram with
  | (ended, none) => .ok ended.complete
  | (_, some fault) => .error fault

/-- Takes events until one is refused, and then finishes. -/
def run
    (assembly : Assembly) :
    List Event → Except AssemblyFault Collection
  | [] => assembly.conclude
  | event :: events =>
      match assembly.accept event with
      | (next, none) => next.run events
      | (_, some fault) => .error fault

end Assembly

/-- The programs that events make. -/
def assemble
    (kind : LogKind)
    (retention : Retention)
    (events : List Event) :
    Except AssemblyFault Collection :=
  (Assembly.start kind retention).run events

/-- The programs in the text of a log. -/
def programs
    (kind : LogKind)
    (retention : Retention)
    (log : List Char) :
    Except AssemblyFault Collection :=
  assemble kind retention (kind.events log)

end Log
end CaptureKit
