import CaptureKit.Tools.Work

/-!
# Contents of folders

`ls` writes the names of files and the contents of folders, one name a line, in the order
of their octets unless another one is asked for.  Names that start with a dot are left out
unless they are asked for.
-/

namespace CaptureKit
namespace Tools

open Storage Text

/-- Which names with a dot in front are shown. -/
inductive Hidden
  | leftOut
  | shown
  /-- The folder itself and its parent are shown as well. -/
  | shownWithBoth
  deriving DecidableEq

/-- What marks the kind of an entry behind its name. -/
inductive KindMarks
  | none
  | folders
  | all
  deriving DecidableEq

/-- What comes first. -/
inductive ContentOrder
  | names
  /-- What was changed last. -/
  | times
  /-- What is largest. -/
  | sizes

/-- How contents are shown. -/
structure ContentStyle where
  hidden : Hidden
  marks : KindMarks
  order : ContentOrder
  backwards : Bool
  /-- The folders in a folder follow, each with its contents. -/
  deep : Bool
  /-- Folders are shown by their names only. -/
  namesOnly : Bool
  quotes : Bool
  /-- Links that are operands are followed. -/
  follows : Bool

/-- The mark of an entry. -/
def KindMarks.of
    (marks : KindMarks)
    (entry : Entry) :
    Octets :=
  match marks, entry with
  | .folders, .folder | .all, .folder => ['/']
  | .all, .link _ => ['@']
  | .all, .program .. => ['*']
  | _, _ => []

/-- A name between double quotes. -/
def doubleQuoted (name : Octets) : Octets :=
  '"' :: (name.flatMap fun c =>
    if c = '"' ∨ c = '\\' then ['\\', c]
    else if isShown c then [c] else backslashed c) ++ ['"']

/-- A name as it is shown. -/
def ContentStyle.line
    (style : ContentStyle)
    (name : Octets)
    (entry : Entry) :
    Octets :=
  (if style.quotes then doubleQuoted name else name) ++ style.marks.of entry ++ ['\n']

/-- Whether a name is hidden. -/
def isHidden (name : String) : Bool :=
  name.toList.head? == some '.'

/-- How large an entry is. -/
def entrySize : Entry → Nat
  | .folder => 4096
  | entry => entry.size

/-- The order of entries, each with its location and its name. -/
def ContentStyle.precedes
    (style : ContentStyle)
    (tree : FileTree)
    (a b : Location × String) :
    Bool :=
  let weight := fun place : Location =>
    match style.order with
    | .names => 0
    | .times => tree.timeAt place
    | .sizes => ((tree.get? place).elim 0 entrySize : Nat)
  let (x, y) := (weight a.1, weight b.1)
  if x = y then comesFirst style.backwards [a.2] [b.2] else decide (y < x) != style.backwards

/-- The lines on a folder. -/
def folderLines
    (tree : FileTree)
    (style : ContentStyle)
    (location : Location) :
    Octets :=
  let both := if style.hidden = .shownWithBoth then [(".", Entry.folder), ("..", .folder)] else []
  let items := (both ++ tree.children location).filter fun item =>
    style.hidden ≠ .leftOut || !isHidden item.1
  let placed := fun item : String × Entry =>
    (if item.1 = "." then location
      else if item.1 = ".." then location.dropLast
      else location ++ [item.1], item.1)
  let sorted := items.mergeSort fun a b => style.precedes tree (placed a) (placed b)
  sorted.flatMap fun item => style.line (octets item.1) item.2

/-- The folders below a folder whose contents are shown as well. -/
def foldersBelow
    (tree : FileTree)
    (style : ContentStyle)
    (location : Location) :
    List Location :=
  let found := tree.entries.filterMap fun item =>
    match FileTree.below? location item.1, item.2 with
    | some way, .folder =>
        if style.hidden = .leftOut && way.any isHidden then none else some way
    | _, _ => none
  found.mergeSort (comesFirst style.backwards)

/-- The lines on a folder under its name, and on the folders below it. -/
def folderBlocks
    (tree : FileTree)
    (style : ContentStyle)
    (titled : Bool)
    (operand : Octets)
    (location : Location) :
    List Octets :=
  let title := fun path : Octets => if titled then path ++ [':', '\n'] else []
  let own := title operand ++ folderLines tree style location
  if style.deep then
    own :: (foldersBelow tree style location).map fun way =>
      title (way.foldl (fun path name => joined path (octets name)) operand) ++
        folderLines tree style (location ++ way)
  else [own]

/-- An operand with what it names, a link followed if that leads to a folder. -/
def contentEntry
    (call : Call)
    (style : ContentStyle)
    (operand : Octets) :
    Except IoFault (Octets × Location × Entry) :=
  match call.ownEntry operand, call.entry operand with
  | .ok (location, .link target), .ok (place, .folder) =>
      if style.follows then .ok (operand, place, .folder)
      else .ok (operand, location, .link target)
  | .ok found, _ => .ok (operand, found)
  | .error fault, _ => .error fault

/-- Writes the names of files and the contents of folders. -/
def showContents
    (call : Call)
    (style : ContentStyle)
    (operands : List Octets) :
    Finish :=
  let results := operands.map fun operand => (operand, contentEntry call style operand)
  let complaints := results.flatMap fun result =>
    match result.2 with
    | .ok _ => []
    | .error fault => call.complaint (complainThat "cannot access" result.1 fault)
  let found := (results.filterMap fun result => result.2.toOption).mergeSort fun a b =>
    style.precedes call.tree (a.2.1, String.ofList a.1) (b.2.1, String.ofList b.1)
  let (folders, files) := found.partition fun item => item.2.2 = .folder && !style.namesOnly
  let front := files.flatMap fun item => style.line item.1 item.2.2
  let blocks := folders.flatMap fun item =>
    folderBlocks call.tree style (style.deep || 1 < operands.length) item.1 item.2.1
  call.leave (if complaints.isEmpty then 0 else 2)
    (['\n'].intercalate ((if front.isEmpty then [] else [front]) ++ blocks)) complaints call.input

/-- Writes the names of files and the contents of folders. -/
def ls : Tool :=
  .withOptions
    ([flag 'a' "all", flag 'A' "almost-all", flag 'd' "directory", flag 'F' "", flag 'p' "",
      named "classify" .perhaps, flag 'H' "dereference-command-line", flag 'L' "dereference",
      flag 'Q' "quote-name", flag 'S' "", flag 'R' "recursive", flag 'r' "reverse",
      named "color" .perhaps, named "sort" .value, named "time" .value,
      named "group-directories-first" .nothing] ++ letters "1BCNUfgklmnqstuvx") 2
    fun call arguments =>
      let marks := match arguments.lastOf? ["F", "classify", "p"] with
        | some "p" => KindMarks.folders
        | some _ => .all
        | none => .none
      let hidden := match arguments.lastOf? ["a", "f", "A"] with
        | some "A" => Hidden.shown
        | some _ => .shownWithBoth
        | none => .leftOut
      let order := match arguments.lastOf? ["t", "S", "U", "f", "v"], arguments.value? "sort" with
        | some "t", _ => ContentOrder.times
        | some "S", _ => .sizes
        | some _, _ => .names
        | none, some ['t', 'i', 'm', 'e'] => .times
        | none, some ['s', 'i', 'z', 'e'] => .sizes
        | none, _ => .names
      let style : ContentStyle :=
        { hidden
          marks
          order
          backwards := arguments.has "r"
          deep := arguments.has "R" && !arguments.has "d"
          namesOnly := arguments.has "d"
          quotes := arguments.has "Q"
          follows := ["H", "L"].any arguments.has ||
            (marks != .all && !arguments.has "d" && !arguments.has "l") }
      showContents call style
        (if arguments.operands.isEmpty then [['.']] else arguments.operands)

end Tools
end CaptureKit
