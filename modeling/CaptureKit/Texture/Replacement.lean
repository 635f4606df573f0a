import CaptureKit.Storage.Access
import CaptureKit.Text.Quoted
import CaptureKit.Texture.Classification

/-!
# Replacing copies

A copy is removed, and unless it is to be deleted a link to its exemplar takes its
place.  The removal comes first: it stays if the link cannot be made.
-/

namespace CaptureKit
namespace Texture

open Storage Text

/-- What becomes of a copy. -/
inductive Fate
  /-- A link to the exemplar takes its place. -/
  | linked
  /-- Nothing takes its place. -/
  | deleted
  deriving DecidableEq, Repr

/-- A copy that could not be replaced. -/
structure ReplacementFault where
  path : String
  cause : IoFault
  deriving DecidableEq, Repr

/-- The wording of a fault and its cause. -/
def ReplacementFault.report (fault : ReplacementFault) : Report :=
  .dueTo s!"error replacing duplicate {quoted fault.path}" fault.cause.report

/-- Replaces the file at a path; the files afterwards come with the fault, if any. -/
def replaceCopy
    (tree : FileTree)
    (path exemplar : String)
    (fate : Fate) :
    FileTree × Option ReplacementFault :=
  match tree.removeFile path with
  | .error cause => (tree, some ⟨path, cause⟩)
  | .ok removed =>
      match fate with
      | .deleted => (removed, none)
      | .linked =>
          match removed.makeLink exemplar path with
          | .ok linked => (linked, none)
          | .error cause => (removed, some ⟨path, cause⟩)

/-- Replaces every copy among verdicts, up to the first that cannot be replaced. -/
def replaceCopies
    (fate : Fate)
    (tree : FileTree) :
    List Verdict → FileTree × Option ReplacementFault
  | [] => (tree, none)
  | .exemplar _ :: verdicts => replaceCopies fate tree verdicts
  | .copy path exemplar :: verdicts =>
      match replaceCopy tree path exemplar fate with
      | (replaced, none) => replaceCopies fate replaced verdicts
      | (left, some fault) => (left, some fault)

end Texture
end CaptureKit
