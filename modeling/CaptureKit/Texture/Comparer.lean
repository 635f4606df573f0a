import CaptureKit.Tools.Run
import CaptureKit.Storage.Access
import CaptureKit.Texture.Classification

/-!
# Comparers

Files are compared by their bytes, or by a tool that gets both paths and succeeds if the
files are the same.
-/

namespace CaptureKit
namespace Texture
namespace Comparer

open Storage Text Tools

/-- Answers by a function of the two paths. -/
def ofAnswers
    {σ : Type}
    (answer : (earlier later : String) → Except IoFault Bool) :
    Comparer σ :=
  fun earlier later => pure (answer earlier later)

/-- Files are the same if something that is read off their bytes is. -/
def byReading
    {α : Type}
    [BEq α]
    (read : Bytes → α) :
    Comparer FileTree :=
  fun earlier later => do
    let tree ← get
    pure do
      let a ← tree.readBytes earlier
      let b ← tree.readBytes later
      pure (read a == read b)

/-- Files are the same if their bytes are. -/
def byContent : Comparer FileTree :=
  byReading id

/-- Files are the same if the tool succeeds on them.  It may change files. -/
def byTool
    (launch : Launcher)
    (program : String) :
    Comparer FileTree :=
  fun earlier later => do
    let run ← launch program [earlier, later] []
    pure (run.map (·.status.isSuccess))

end Comparer
end Texture
end CaptureKit
