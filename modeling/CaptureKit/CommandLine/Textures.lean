import CaptureKit.CommandLine.Outcome
import CaptureKit.Texture.Comparer
import CaptureKit.Texture.Folder
import CaptureKit.Texture.Replacement

/-!
# The command for texture folders

Finds the copies in a folder with a comparing tool, prints the exemplars, and replaces
the copies.  A dry run prints the copies too and changes nothing.
-/

namespace CaptureKit
namespace CommandLine
namespace Textures

open Storage Text Texture Tools

/-- What the command takes. -/
def grammar : Grammar where
  options :=
    [⟨some 'd', "difftool", .one fun _ => true, false⟩,
      ⟨some 'n', "no-change", .none, false⟩,
      ⟨none, "delete", .none, false⟩]
  least := 0
  most := 1

/-- What is asked for. -/
structure Request where
  /-- The folder, if it is not the working folder. -/
  path : Option String
  tool : String
  /-- What becomes of the copies; nothing in a dry run. -/
  fate : Option Fate

/-- The request that options and operands make. -/
def request (given : Given) : Request where
  path := given.operands.head?
  tool := (given.value? "difftool").getD "diff"
  fate :=
    if given.has "no-change" then none
    else if given.has "delete" then some .deleted
    else some .linked

/-- The last name on a path. -/
def fileName (path : String) : String :=
  String.ofList ((names path.toList).getLast?.getD [])

/-- The line on a copy in a dry run. -/
def copyLine (path exemplar : String) : String :=
  s!"Duplicate {path} == {exemplar}\n"

/-- What a dry run prints. -/
def dryLines (verdicts : List Verdict) : String :=
  String.join <| verdicts.map fun
    | .exemplar path => fileName path ++ "\n"
    | .copy path exemplar => copyLine path exemplar

/-- Prints the exemplars and replaces the copies, one after the other, up to the first
that cannot be replaced. -/
def settle
    (fate : Fate)
    (tree : FileTree) :
    List Verdict → String × FileTree × Option ReplacementFault
  | [] => ("", tree, none)
  | .exemplar path :: verdicts =>
      let (printed, after) := settle fate tree verdicts
      (fileName path ++ "\n" ++ printed, after)
  | .copy path exemplar :: verdicts =>
      match replaceCopy tree path exemplar fate with
      | (replaced, none) => settle fate replaced verdicts
      | (left, some fault) => ("", left, some fault)

/-- Printing changes nothing: settling leaves the files that replacing the copies leaves. -/
theorem settle_snd
    (fate : Fate)
    (tree : FileTree)
    (verdicts : List Verdict) :
    (settle fate tree verdicts).2 = replaceCopies fate tree verdicts := by
  induction verdicts generalizing tree with
  | nil => rfl
  | cons verdict verdicts ih =>
      cases verdict with
      | exemplar path => exact ih tree
      | copy path exemplar =>
          rw [settle, replaceCopies]
          split <;> simp [*]

/-- Finds the copies in the folder and settles them. -/
def settleFolder
    (launch : Launcher)
    (host : Host)
    (request : Request) :
    Outcome :=
  let folder := match request.path with
    | some path => host.resolve path
    | none => host.workingFolder
  let compare := Comparer.byTool launch request.tool
  match (findCopies host.tree folder compare).run host.tree with
  | ((_, .error fault), tree) =>
      .failed tree []
        (.dueTo s!"failed to find duplicate textures in {quoted folder}" fault.report)
  | ((_, .ok verdicts), tree) =>
      match request.fate with
      | none => .done tree (encode (dryLines verdicts))
      | some fate =>
          match settle fate tree verdicts with
          | (printed, settled, none) => .done settled (encode printed)
          | (printed, settled, some fault) => .failed settled (encode printed) fault.report

/-- The name under which the command says its version. -/
def title : String := "nv2a_tex"

/-- How the command is used. -/
def usage : String := title ++ " [OPTIONS] [PATH]"

/-- Runs the command.  The comparing tool is started by the given launcher. -/
def run
    (launch : Launcher)
    (host : Host)
    (arguments : List String) :
    Outcome :=
  match grammar.read arguments with
  | .error stop => .stopped host.tree title usage stop
  | .ok given => settleFolder launch host (request given)

end Textures
end CommandLine
end CaptureKit
