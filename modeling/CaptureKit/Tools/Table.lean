import CaptureKit.Tools.Columns
import CaptureKit.Tools.Comparison
import CaptureKit.Tools.Condition
import CaptureKit.Tools.Contents
import CaptureKit.Tools.Counting
import CaptureKit.Tools.Letters
import CaptureKit.Tools.Making
import CaptureKit.Tools.Merging
import CaptureKit.Tools.Names
import CaptureKit.Tools.Numbers
import CaptureKit.Tools.Placing
import CaptureKit.Tools.Removing
import CaptureKit.Tools.Searching

/-!
# The tools by name

Each tool is a program that the system has.
-/

namespace CaptureKit
namespace Tools

open Storage Text

/-- Ends with a status and does nothing else. -/
def ending (status : Nat) : Tool := fun call => call.atOnce status

/-- The tools that need nothing but what they are called with. -/
def plainTools : List (String × Tool) :=
  [("true", ending 0), ("false", ending 1), ("sleep", sleep), ("sync", ending 0),
    ("echo", echo), ("printf", printf), ("test", test), ("[", bracket), ("cat", cat), ("tee", tee), ("yes", yes),
    ("head", head), ("tail", tail), ("tac", tac), ("nl", nl), ("wc", wc), ("uniq", uniq),
    ("sort", sort), ("tr", tr), ("cut", cut), ("paste", paste), ("comm", comm), ("fold", fold),
    ("rev", rev), ("cmp", cmp), ("diff", diff), ("rm", rm), ("rmdir", rmdir), ("unlink", unlink),
    ("mv", mv), ("cp", cp), ("ln", ln), ("link", link), ("touch", touch), ("mkdir", mkdir),
    ("truncate", truncate), ("chmod", chmod), ("ls", ls), ("dir", ls), ("basename", basename),
    ("dirname", dirname), ("which", which), ("readlink", readlink), ("realpath", realpath), ("pwd", pwd),
    ("seq", seq), ("grep", grep), ("egrep", egrep), ("fgrep", fgrep)]

/-- The names of the programs that are shells. -/
def shellNames : List String := ["sh", "dash"]

/-- What a tool complains about when its output is refused, and its status then, unless it
has a higher one already. -/
def refusal
    (program : String)
    (name : Octets)
    (error : OsError) :
    Octets × Nat :=
  let line := fun front words : String => name ++ ": ".toList ++ (front ++ words).toList ++ ['\n']
  let words := ": ".append error.words
  let plain := line "write error" words
  match program with
  | "sort" => (line "fflush failed: 'standard output'" words ++ line "write error" "", 2)
  | "diff" => (line "standard output" words, 2)
  | "cmp" => if error = .badDescriptor then ([], 1) else (line "standard output" words, 2)
  | "yes" => (line "standard output" words, 1)
  | "tee" => (line "'standard output'" words, 1)
  | "wc" => (if error = .badDescriptor then plain else line "write error" "", 1)
  | "ls" | "dir" | "grep" | "egrep" | "fgrep" => (plain, 2)
  | "rev" => if error = .badDescriptor then ([], 0) else (plain, 1)
  | _ => (plain, 1)

/-- The tool of a name. -/
def tool? (name : String) : Option Tool :=
  plainTools.lookup name

/-- The names of all programs. -/
def programNames : List String :=
  shellNames ++ plainTools.map Prod.fst

/-- The bytes at the front of every program; they are no text. -/
def programBytes : Bytes := [0x7F, 0x45, 0x4C, 0x46, 0x02, 0x01, 0x01, 0x00, 0xFF]

/-- The files of a system on which the programs are installed, for work in a folder. -/
def installed (folder : String) : FileTree :=
  let others := systemPrograms.filter fun name => !programNames.contains name
  let programs := (programNames ++ others).map fun name =>
    (["usr", "bin", name], Entry.program name programBytes)
  (FileTree.ofEntries (FileTree.system.entries ++ programs)).workingIn folder

end Tools
end CaptureKit
