import CaptureKit.CommandLine.Grammar
import CaptureKit.Report
import CaptureKit.Storage.Host

/-!
# Outcomes of commands

A command leaves an exit code, what it printed, what it complained about, and the files.
A failure is shown with all its causes, numbered if there are several.
-/

namespace CaptureKit
namespace CommandLine

open Storage Text

/-- What is left when a command has ended. -/
structure Outcome where
  exit : Nat
  output : Bytes
  complaint : String
  tree : FileTree

/-- A text whose first line and whose further lines start as given. -/
def indented
    (first further : String)
    (text : String) :
    String :=
  first ++ String.intercalate ("\n" ++ further) (text.splitOn "\n")

/-- The number of a cause, in front of it. -/
def causeNumber (n : Nat) : String :=
  let digits := toString n
  String.ofList (List.replicate (5 - digits.length) ' ') ++ digits ++ ": "

/-- The lines on the causes of a failure. -/
def shownCauses : List String → String
  | [] => ""
  | [cause] => "\n\nCaused by:\n" ++ indented "    " "    " cause
  | causes =>
      "\n\nCaused by:" ++ String.join (causes.mapIdx fun n cause =>
        "\n" ++ indented (causeNumber n) "       " cause)

/-- A failure as it is shown. -/
def shown (report : Report) : String :=
  "Error: " ++ report.message ++ shownCauses report.causes ++ "\n"

namespace Outcome

/-- Success with what was printed. -/
def done
    (tree : FileTree)
    (output : Bytes) :
    Outcome :=
  ⟨0, output, "", tree⟩

/-- A failure after some output. -/
def failed
    (tree : FileTree)
    (output : Bytes)
    (report : Report) :
    Outcome :=
  ⟨1, output, shown report, tree⟩

/-- The outcome of arguments that ask for no command; `title` names what was started, and
`usage` says how it is used. -/
def stopped
    (tree : FileTree)
    (title usage : String) :
    Stop → Outcome
  | .misuse => ⟨2, [], "Usage: " ++ usage ++ "\n", tree⟩
  | .version => done tree (encode (title ++ " 0.1.0\n"))
  | .help => done tree (encode ("Usage: " ++ usage ++ "\n"))

end Outcome

end CommandLine
end CaptureKit
