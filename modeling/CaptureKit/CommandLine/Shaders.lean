import CaptureKit.CommandLine.Outcome
import CaptureKit.Log.Conversion

/-!
# The command for shader logs

Each kind of log has a command of its own.  They take the path of a log, the tool that
disassembles it, and what to do with programs that repeat.
-/

namespace CaptureKit
namespace CommandLine
namespace Shaders

open Listing Log Microcode Storage Tools

/-- The flag that every level of the command line has. -/
def verboseForm : OptionForm := ⟨some 'v', "verbose", .none, false⟩

/-- What may stand before the name of a command. -/
def outerGrammar : Grammar := ⟨[verboseForm], 0, 0⟩

/-- What to do with repeated programs, by its name. -/
def retention? : String → Option Retention
  | "unique" => some .distinct
  | "keep-all" => some .all
  | _ => none

/-- What a command takes. -/
def grammar : Grammar where
  options :=
    [verboseForm,
      ⟨some 'd', "disassembler", .one fun _ => true, false⟩,
      ⟨none, "disassembler-arg", .any, true⟩,
      ⟨none, "dedup", .one fun name => (retention? name).isSome, false⟩]
  least := 1
  most := 1

/-- A conversion that is asked for. -/
structure Request where
  kind : LogKind
  path : String
  retention : Retention
  /-- The tool and its arguments. -/
  tool : Option (String × List String)

/-- The commands, and the kind of log that each is for. -/
def kinds : List (String × LogKind) :=
  [("xemu", .shaderDump), ("pgraph", .methodTrace)]

/-- The request that options and operands make.  Arguments for a tool need a tool. -/
def request
    (kind : LogKind)
    (given : Given) :
    Except Stop Request :=
  let toolArguments := given.values "disassembler-arg"
  match given.value? "disassembler", given.operands with
  | none, [path] =>
      if toolArguments.isEmpty then
        .ok ⟨kind, path, retentionOf kind given, none⟩
      else .error .misuse
  | some program, [path] =>
      .ok ⟨kind, path, retentionOf kind given, some (program, toolArguments)⟩
  | _, _ => .error .misuse
where
  /-- What is asked for, or what is usual for the kind of log. -/
  retentionOf (kind : LogKind) (given : Given) : Retention :=
    ((given.value? "dedup").bind retention?).getD kind.usualRetention

/-- Converts a log and prints its listing. -/
def convert
    (launch : Launcher)
    (host : Host)
    (request : Request) :
    Outcome :=
  let disassemble : Disassembler FileTree := match request.tool with
    | some (program, arguments) => .external launch program arguments
    | none => .words
  let ((sink, done), tree) :=
    (Log.convert host request.path request.kind request.retention disassemble
      .unbounded).run host.tree
  match done with
  | .ok () => .done tree sink.kept
  | .error fault =>
      .failed tree sink.kept
        (.dueTo s!"failed to convert {Text.quoted request.path}" fault.report)

/-- The name under which the command says its version. -/
def title : String := "nv2a_shader"

/-- How the command is used. -/
def usage : String := title ++ " [OPTIONS] <xemu|pgraph> <SOURCE_FILE>"

/-- Runs the command.  The disassembler is started by the given launcher. -/
def run
    (launch : Launcher)
    (host : Host)
    (arguments : List String) :
    Outcome :=
  match outerGrammar.readCommand (kinds.map Prod.fst) arguments with
  | .error stop => .stopped host.tree title usage stop
  | .ok (name, rest) =>
      match kinds.lookup name with
      | none => .stopped host.tree title usage .misuse
      | some kind =>
          match grammar.read rest >>= request kind with
          | .error stop => .stopped host.tree (title ++ "-" ++ name) usage stop
          | .ok asked => convert launch host asked

end Shaders
end CommandLine
end CaptureKit
