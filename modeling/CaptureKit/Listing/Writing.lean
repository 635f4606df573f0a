import CaptureKit.Listing.Disassembler
import CaptureKit.Microcode.Collection
import CaptureKit.Storage.Sink

/-!
# Writing the listing of a collection

Each program makes a block: a header, its lines, and an empty line.  A block is written
as soon as it is there, so a failure leaves the blocks before it in the sink.
-/

namespace CaptureKit
namespace Listing

open Microcode Storage Text

/-- Why a listing was not finished. -/
inductive ListingFault
  /-- The program under this header could not be turned into lines. -/
  | disassembly (header : String) (fault : DisassemblyFault)
  /-- The sink refused. -/
  | output (cause : IoFault)
  deriving DecidableEq, Repr

/-- The wording of a fault and its causes. -/
def ListingFault.report : ListingFault → Report
  | .disassembly header fault => .dueTo s!"error disassembling {header}" fault.report
  | .output cause => .dueTo "error writing disassembly" cause.report

/-- The title of a program: its description, or else the name of its source and its
position, counted from one. -/
def header
    (source : String)
    (position : Nat)
    (program : Program) :
    String :=
  program.description.getD s!"Shader {source} - {position}"

/-- The block of a program with the given title and lines. -/
def block
    (title : String)
    (lines : List String) :
    String :=
  "; " ++ title ++ "\n" ++ String.join (lines.map (· ++ "\n")) ++ "\n"

/-- Writes the blocks of programs, the first of which has the given position. -/
def writeFrom
    {σ : Type}
    (disassemble : Disassembler σ)
    (source : String) :
    (position : Nat) → List Program → Sink → StateM σ (Sink × Option ListingFault)
  | _, [], sink => pure (sink, none)
  | position, program :: programs, sink => do
      let title := header source position program
      match ← disassemble program.slots false with
      | .error fault => pure (sink, some (.disassembly title fault))
      | .ok lines =>
          match sink.put (encode (block title lines)) with
          | (next, none) => writeFrom disassemble source (position + 1) programs next
          | (next, some cause) => pure (next, some (.output cause))

/-- Writes the listing of a collection. -/
def write
    {σ : Type}
    (disassemble : Disassembler σ)
    (source : String)
    (collection : Collection)
    (sink : Sink) :
    StateM σ (Sink × Option ListingFault) :=
  writeFrom disassemble source 1 collection.programs sink

end Listing
end CaptureKit
