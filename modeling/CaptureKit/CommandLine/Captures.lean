import CaptureKit.CommandLine.Outcome
import CaptureKit.Draw.Overview
import CaptureKit.Mesh.HostCall

/-!
# The command for exported captures

One command turns a vertex table into host calls, the other prints the draws of an
overview that use enough textures.  Both read their whole input before they print or
write anything.
-/

namespace CaptureKit
namespace CommandLine
namespace Captures

open Storage Text

/-- What may stand before the name of a command. -/
def outerGrammar : Grammar := ⟨[], 0, 0⟩

/-- What the command for vertex tables takes: a table, and a file for the calls. -/
def meshGrammar : Grammar := ⟨[], 1, 2⟩

/-- What the command for overviews takes. -/
def drawGrammar : Grammar where
  options := [⟨none, "min-textures", .one fun value => (count? value).isSome, false⟩]
  least := 1
  most := 1

/-- What is asked for. -/
inductive Request
  | hostCalls (table : String) (output : Option String)
  | draws (overview : String) (least : Nat)

/-- A report that an action on a path failed. -/
def failure
    (action path : String)
    (cause : Report) :
    Report :=
  .dueTo s!"failed to {action} {quoted path}" cause

/-- Reads and parses the file at a resolved path. -/
def readWith
    {ε α : Type}
    (host : Host)
    (path : String)
    (parse : List Char → Except ε α)
    (report : ε → Report) :
    Except Report α :=
  match host.tree.readText path with
  | .error cause => .error (failure "read" path cause.report)
  | .ok text => (parse text.toList).mapError fun fault => failure "parse" path (report fault)

/-- Turns a table into host calls and prints or writes them.  Writing to the path of the
standard output is printing. -/
def printCalls
    (host : Host)
    (table : String)
    (output : Option String) :
    Outcome :=
  match readWith host (host.resolve table) Mesh.hostCalls Mesh.TableFault.report with
  | .error report => .failed host.tree [] report
  | .ok calls =>
      match output with
      | none => .done host.tree (encode calls)
      | some path =>
          match host.tree.writeBytes (host.resolve path) (encode calls) with
          | (written, none) => .done written (written.received 1)
          | (written, some cause) =>
              .failed written (written.received 1)
                (failure "write" (host.resolve path) cause.report)

/-- The line on a draw, and an empty line. -/
def drawLines (draw : String × Draw) : String :=
  s!"{draw.1}: {draw.2.summary}\n\n"

/-- Prints the draws of an overview that use enough textures. -/
def printDraws
    (host : Host)
    (overview : String)
    (least : Nat) :
    Outcome :=
  match readWith host (host.resolve overview) Draw.overview Draw.OverviewFault.report with
  | .error report => .failed host.tree [] report
  | .ok draws =>
      .done host.tree
        (encode (String.join ((Draw.withTextures least draws).map drawLines)))

/-- Does what is asked for. -/
def perform (host : Host) : Request → Outcome
  | .hostCalls table output => printCalls host table output
  | .draws overview least => printDraws host overview least

/-- The request for host calls. -/
def meshRequest (given : Given) : Except Stop Request :=
  match given.operands with
  | table :: output => .ok (.hostCalls table output.head?)
  | [] => .error .misuse

/-- The request for draws; four textures are enough unless another number is given. -/
def drawRequest (given : Given) : Except Stop Request :=
  match given.operands with
  | overview :: _ =>
      .ok (.draws overview (((given.value? "min-textures").bind count?).getD 4))
  | [] => .error .misuse

/-- The commands, and how each reads its arguments. -/
def readers : List (String × (List String → Except Stop Request)) :=
  [("mesh-to-vertices", fun arguments => meshGrammar.read arguments >>= meshRequest),
    ("matching-draws", fun arguments => drawGrammar.read arguments >>= drawRequest)]

/-- The name under which the command says its version. -/
def title : String := "nv2a_rdc"

/-- How the command is used. -/
def usage : String :=
  title ++ " <mesh-to-vertices <CSV_FILE> [OUTPUT] | matching-draws <EVENT_FILE>>"

/-- Runs the command. -/
def run
    (host : Host)
    (arguments : List String) :
    Outcome :=
  match outerGrammar.readCommand (readers.map Prod.fst) arguments with
  | .error stop => .stopped host.tree title usage stop
  | .ok (name, rest) =>
      match readers.lookup name with
      | none => .stopped host.tree title usage .misuse
      | some reader =>
          match reader rest with
          | .error stop => .stopped host.tree (title ++ "-" ++ name) usage stop
          | .ok request => perform host request

end Captures
end CommandLine
end CaptureKit
