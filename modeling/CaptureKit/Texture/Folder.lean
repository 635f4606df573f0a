import CaptureKit.Storage.Access
import CaptureKit.Text.Quoted
import CaptureKit.Texture.Classification
import CaptureKit.Texture.Name

/-!
# Textures of a folder

The textures of a folder are its entries with the name of a texture, in the order of their
names.  Folders and links are left out, so a copy that has become a link is not looked at
again; whatever else has such a name is taken, a pipe or a device too.
-/

namespace CaptureKit
namespace Texture

open Storage Text

/-- The path of an entry of a folder. -/
def entryPath (folder name : String) : String :=
  if endsInSlash folder.toList then folder ++ name else folder ++ "/" ++ name

/-- The texture that an entry of a folder is, if it is one. -/
def asTexture?
    (folder : String)
    (item : String × Entry) :
    Option Dump :=
  if item.2.IsLeaf ∧ isDumpName item.1.toList then
    some ⟨entryPath folder item.1, item.2.size⟩
  else none

/-- The textures among the entries of a folder, in the order of their names. -/
def ofEntries
    (folder : String)
    (entries : List (String × Entry)) :
    List Dump :=
  (entries.mergeSort fun a b => a.1 ≤ b.1).filterMap (asTexture? folder)

/-- Why the copies in a folder could not be found. -/
inductive FindFault
  | folder (path : String) (cause : IoFault)
  | comparison (fault : ComparisonFault)
  deriving DecidableEq, Repr

/-- The wording of a fault and its cause. -/
def FindFault.report : FindFault → Report
  | .folder path cause => .dueTo s!"error reading directory {quoted path}" cause.report
  | .comparison ⟨⟨earlier, later⟩, cause⟩ =>
      .dueTo s!"error comparing {quoted earlier} and {quoted later}" cause.report

/-- The verdicts on the textures of a folder, with the comparisons made.  The folder is
looked at once, before the first comparison. -/
def findCopies
    {σ : Type}
    (tree : FileTree)
    (folder : String)
    (compare : Comparer σ) :
    StateM σ (List Comparison × Except FindFault (List Verdict)) :=
  match tree.readFolder folder with
  | .error cause => pure ([], .error (.folder folder cause))
  | .ok entries => do
      let (made, verdicts) ← classify compare (ofEntries folder entries)
      pure (made, verdicts.mapError .comparison)

end Texture
end CaptureKit
