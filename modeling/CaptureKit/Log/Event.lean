import CaptureKit.Microcode.Collection

/-!
# Events of a log

Two kinds of log hold shader microcode.  A *shader dump* lists the instructions of each
program by index.  A *method trace* records the uploads to the graphics unit: where a
program is loaded, and then its words one by one.
-/

namespace CaptureKit
namespace Log

open Microcode

/-- What a log records. -/
inductive LogKind
  | shaderDump
  | methodTrace
  deriving DecidableEq, Repr

/-- Dumps repeat the same shaders many times, traces keep every upload. -/
def LogKind.usualRetention : LogKind → Retention
  | .shaderDump => .distinct
  | .methodTrace => .all

/-- What one line of a log says about microcode. -/
inductive Event
  /-- The instruction at an index. -/
  | slot (index : Nat) (code : Slot)
  /-- The address at which the following words are loaded. -/
  | load (address : Word)
  /-- The next word. -/
  | word (value : Word)
  deriving DecidableEq, Repr

end Log
end CaptureKit
