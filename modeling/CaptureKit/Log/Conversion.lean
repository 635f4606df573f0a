import CaptureKit.Listing.Writing
import CaptureKit.Log.Assembly
import CaptureKit.Storage.Host

/-!
# From a log to a listing

The whole log is read and assembled before anything is written.  When writing has
started, the sink is flushed at its end in any case, and a failure to write counts
before a failure to flush.
-/

namespace CaptureKit
namespace Log

open Listing Microcode Storage Text

/-- A log that could not be read. -/
structure ReadFault where
  path : String
  cause : IoFault
  deriving DecidableEq, Repr

/-- The wording of a fault and its cause. -/
def ReadFault.report (fault : ReadFault) : Report :=
  .dueTo s!"error reading log file {quoted fault.path}" fault.cause.report

/-- The text of the log that a path stands for. -/
def read
    (host : Host)
    (path : String) :
    Except ReadFault String :=
  (host.readText path).mapError (ReadFault.mk (host.resolve path))

/-- Why a log was not converted. -/
inductive ConversionFault
  | reading (fault : ReadFault)
  | assembling (fault : AssemblyFault)
  | writing (fault : ListingFault)
  deriving DecidableEq, Repr

/-- The wording of a fault and its causes. -/
def ConversionFault.report : ConversionFault → Report
  | .reading fault => .dueTo "error reading log" fault.report
  | .assembling fault => .dueTo "error assembling shader programs" fault.report
  | .writing fault => .dueTo "error writing shader programs" fault.report

/-- The programs of the log that a path stands for. -/
def readPrograms
    (host : Host)
    (path : String)
    (kind : LogKind)
    (retention : Retention) :
    Except ConversionFault Collection := do
  let log ← (read host path).mapError .reading
  (programs kind retention log.toList).mapError .assembling

/-- Flushes the sink after writing; the first failure counts. -/
def finishWriting
    (written : Sink × Option ListingFault) :
    Sink × Except ConversionFault Unit :=
  let (sink, flushed) := written.1.flush
  (sink,
    match written.2, flushed with
    | some fault, _ => .error (.writing fault)
    | none, some cause => .error (.writing (.output cause))
    | none, none => .ok ())

/-- Writes the listing of the log that a path stands for.  Headers name the log by the
path as it was given. -/
def convert
    {σ : Type}
    (host : Host)
    (path : String)
    (kind : LogKind)
    (retention : Retention)
    (disassemble : Disassembler σ)
    (sink : Sink) :
    StateM σ (Sink × Except ConversionFault Unit) :=
  match readPrograms host path kind retention with
  | .error fault => pure (sink, .error fault)
  | .ok collection => finishWriting <$> Listing.write disassemble path collection sink

end Log
end CaptureKit
