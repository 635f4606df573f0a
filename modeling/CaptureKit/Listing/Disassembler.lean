import CaptureKit.Microcode.Program
import CaptureKit.Tools.Run
import CaptureKit.Text.Blank
import CaptureKit.Text.Line
import CaptureKit.Text.Numeral
import CaptureKit.Text.Quoted

/-!
# Disassemblers

A disassembler turns the instructions of a program into lines of text.  Microcode means
nothing to the rest of the library, so there are two of them only: one lists the plain
words, the other asks an external tool, which gets one line of four words per
instruction and answers with the lines that it prints.

A disassembler may answer differently from call to call; what it remembers between
calls is its state.
-/

namespace CaptureKit
namespace Listing

open Microcode Tools Storage Text

/-- Why instructions could not be turned into lines. -/
inductive DisassemblyFault
  /-- The tool could not be started. -/
  | start (program : String) (cause : IoFault)
  /-- The exchange with the tool broke off. -/
  | exchange (cause : IoFault)
  /-- The tool ended without success. -/
  | ended (status : ExitStatus) (diagnostics : String)
  /-- What the tool printed is no text. -/
  | notText (fault : Utf8Fault)
  deriving DecidableEq, Repr

/-- The wording of a fault and its causes. -/
def DisassemblyFault.report : DisassemblyFault → Report
  | .start program cause =>
      .dueTo s!"error starting disassembler {quoted program}" cause.report
  | .exchange cause => .dueTo "error communicating with disassembler" cause.report
  | .ended status diagnostics =>
      .plain s!"disassembler exited with {status.words}: {diagnostics}"
  | .notText fault =>
      .dueTo "disassembler output is not valid UTF-8" (.plain fault.message)

/-- Turns instructions into lines, with comments on them if asked to explain. -/
abbrev Disassembler (σ : Type) :=
  (slots : List Slot) → (explain : Bool) → StateM σ (Except DisassemblyFault (List String))

/-- The four words of an instruction with a space between them. -/
def slotWords (slot : Slot) : List Char :=
  wordText slot.first ++ ' ' :: wordText slot.second ++ ' ' :: wordText slot.third ++
    ' ' :: wordText slot.fourth

/-- The line of an instruction at an index in a plain listing. -/
def wordLine
    (explain : Bool)
    (index : Nat)
    (slot : Slot) :
    String :=
  if explain then s!"; Slot {index}: {String.ofList (slotWords slot)}"
  else s!"; {String.ofList (slotWords slot)}"

/-- The plain listing of instructions. -/
def wordLines
    (slots : List Slot)
    (explain : Bool) :
    List String :=
  slots.mapIdx (wordLine explain)

/-- Lists the plain words as comments. -/
def Disassembler.words {σ : Type} : Disassembler σ :=
  fun slots explain => pure (.ok (wordLines slots explain))

/-- What an external tool reads: one line for each instruction. -/
def toolInput (slots : List Slot) : List Char :=
  slots.flatMap fun slot => slotWords slot ++ ['\n']

/-- What a run of an external tool says: its lines if it succeeded and printed text. -/
def toolAnswer (run : Run) : Except DisassemblyFault (List String) :=
  if run.status.isSuccess then
    match decode run.output with
    | .ok printed => .ok ((lines printed.toList).map String.ofList)
    | .error fault => .error (.notText fault)
  else
    .error (.ended run.status (String.ofList (trim (mend run.diagnostics).toList)))

/-- The arguments of an external tool; it is told to explain by one more. -/
def toolArguments
    (arguments : List String)
    (explain : Bool) :
    List String :=
  if explain then arguments ++ ["--explain"] else arguments

/-- Asks an external tool on every call.  It may change files. -/
def Disassembler.external
    (launch : Launcher)
    (program : String)
    (arguments : List String) :
    Disassembler FileTree :=
  fun slots explain => do
    match ← launch program (toolArguments arguments explain)
        (encode (String.ofList (toolInput slots))) with
    | .ok run => pure (toolAnswer run)
    | .error cause => pure (.error (.start program cause))

end Listing
end CaptureKit
