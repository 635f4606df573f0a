import CaptureKit.Storage.Access
import CaptureKit.Text.Quoted

/-!
# Hosts

A host is what a command finds when it starts: the files, the folder it works in, and
the home folder.
-/

namespace CaptureKit
namespace Storage

open Text

/-- The files and the places on them. -/
structure Host extends Places where
  tree : FileTree

namespace Host

/-- The host with other files. -/
def withTree
    (host : Host)
    (tree : FileTree) :
    Host :=
  { host with tree := tree }

/-- The text of the file that a path stands for. -/
def readText
    (host : Host)
    (path : String) :
    Except IoFault String :=
  host.tree.readText (host.resolve path)

end Host

end Storage
end CaptureKit
