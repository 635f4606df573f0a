import CaptureKit.Storage.IoFault
import CaptureKit.Text.Utf8

/-!
# File trees

A file tree says what is at which location.  A location is the list of names from the
root; the root itself is always a folder.  Nothing is followed here: a link is an entry
like any other.  Names are texts, so a name that is not UTF-8 cannot be told here.

What a device gives and takes is data of the device, and what the storage refuses for
reasons of its own is data of the tree.
-/

namespace CaptureKit
namespace Storage

open Text

/-- The names from the root down to an entry. -/
abbrev Location := List String

/-- What those get who read a device. -/
inductive Source
  /-- These bytes. -/
  | holding (content : Bytes)
  /-- Zeros without end. -/
  | endless
  /-- Nothing; it cannot be read. -/
  | refusing (error : OsError)
  deriving DecidableEq

/-- What becomes of bytes that are written to a device. -/
inductive Drain
  /-- They are gone. -/
  | dropping
  /-- None of them is taken. -/
  | refusing (error : OsError)
  /-- It cannot even be opened to be written to. -/
  | closed (error : OsError)
  /-- It is a stream of the program itself, by its number, with what it got by its path. -/
  | stream (number : Nat) (received : Bytes)
  deriving DecidableEq

/-- An entry that is read and written like a file and keeps nothing: a device, a pipe, or a
stream of the program itself. -/
structure Device where
  source : Source
  drain : Drain
  deriving DecidableEq

/-- Takes everything and holds nothing. -/
def Device.null : Device := ⟨.holding [], .dropping⟩

/-- Takes everything and holds zeros without end. -/
def Device.zeros : Device := ⟨.endless, .dropping⟩

/-- Holds zeros without end and never has room. -/
def Device.full : Device := ⟨.endless, .refusing .noSpace⟩

/-- A terminal where there is none. -/
def Device.terminal : Device := ⟨.refusing .noDevice, .closed .noDevice⟩

/-- Refuses to be read and written. -/
def Device.faulty : Device := ⟨.refusing .inputOutput, .refusing .inputOutput⟩

/-- A stream of the program itself that still holds this and got nothing yet. -/
def Device.stream (number : Nat) (content : Bytes) : Device :=
  ⟨.holding content, .stream number []⟩

/-- What is at a location. -/
inductive Entry
  | file (content : Bytes)
  | folder
  | link (target : String)
  | device (device : Device)
  /-- A program that can be started, by its name. -/
  | program (name : String) (content : Bytes)
  deriving DecidableEq

/-- An entry where a path ends, since it is no folder and no link. -/
def Entry.IsLeaf : Entry → Prop
  | .file _ | .program .. | .device _ => True
  | .folder | .link _ => False

instance : DecidablePred Entry.IsLeaf
  | .file _ | .program .. | .device _ => .isTrue trivial
  | .folder | .link _ => .isFalse id

theorem Entry.isLeaf_iff
    {entry : Entry} :
    entry.IsLeaf ↔ entry ≠ .folder ∧ ∀ target, entry ≠ .link target := by
  cases entry <;> simp [IsLeaf]

/-- How many bytes the system says that an entry has. -/
def Entry.size : Entry → Nat
  | .file content | .program _ content => content.length
  | .link target => target.utf8ByteSize
  | .folder | .device _ => 0

/-- What reading an entry gives.  Zeros without end use up the memory. -/
def Entry.read : Entry → Except IoFault Bytes
  | .file content | .program _ content => .ok content
  | .folder => .error (.os .isFolder)
  | .link _ => .error (.os .tooManyLinks)
  | .device ⟨.holding content, _⟩ => .ok content
  | .device ⟨.endless, _⟩ => .error .outOfMemory
  | .device ⟨.refusing error, _⟩ => .error (.os error)

/-- What writing to an entry makes of it. -/
def Entry.write
    (content : Bytes) :
    Entry → Except OsError Entry
  | .file _ | .program .. => .ok (.file content)
  | .folder => .error .isFolder
  | .link _ => .error .tooManyLinks
  | .device ⟨source, .dropping⟩ => .ok (.device ⟨source, .dropping⟩)
  | .device ⟨source, .refusing error⟩ =>
      if content.isEmpty then .ok (.device ⟨source, .refusing error⟩) else .error error
  | .device ⟨_, .closed error⟩ => .error error
  | .device ⟨source, .stream number received⟩ =>
      .ok (.device ⟨source, .stream number (received ++ content)⟩)

/-- What a stream of the program got by its path, if the entry is this stream. -/
def Entry.received (number : Nat) : Entry → Bytes
  | .device ⟨_, .stream other content⟩ => if other = number then content else []
  | _ => []

/-- What a storage refuses at a location whatever is there: it may lack rights, room or the
means. -/
structure Limits where
  /-- How it refuses to remove what is there. -/
  removal : Option OsError
  /-- How it refuses to make a link there. -/
  link : Option OsError
  /-- How it refuses to open what is there to write to it. -/
  opening : Option OsError
  /-- How many octets it takes there, and how it refuses more. -/
  room : Option (Nat × OsError)
  deriving DecidableEq

/-- Nothing is refused. -/
def Limits.free : Limits := ⟨none, none, none, none⟩

/-- The part of a content that is taken, and how the rest is refused. -/
def Limits.cut
    (limits : Limits)
    (content : Bytes) :
    Bytes × Option OsError :=
  match limits.room with
  | some (room, error) =>
      if room < content.length then (content.take room, some error) else (content, none)
  | none => (content, none)

/-- Entries by location, each location at most once below the root. -/
structure FileTree where
  entries : List (Location × Entry)
  /-- The rights that were changed. -/
  rights : List (Location × Nat)
  /-- When entries were changed, where that was not at the start.  Times count millionths
  of a second from the start on. -/
  times : List (Location × Int)
  /-- The locations of files that are at several, those of one file together. -/
  shared : List (List Location)
  /-- The time by now. -/
  now : Int
  /-- Where the storage refuses something. -/
  limits : List (Location × Limits)
  deriving DecidableEq

namespace FileTree

/-- A tree with these entries that nobody has changed yet. -/
def ofEntries (entries : List (Location × Entry)) : FileTree :=
  ⟨entries, [], [], [], 0, []⟩

/-- A tree with nothing but its root. -/
def empty : FileTree := ofEntries []

/-- The entry at a location. -/
def get?
    (tree : FileTree)
    (location : Location) :
    Option Entry :=
  if location = [] then some .folder else tree.entries.lookup location

/-- Puts an entry at a location of a list of entries. -/
def putIn : List (Location × Entry) → Location → Entry → List (Location × Entry)
  | [], location, entry => [(location, entry)]
  | (l, e) :: entries, location, entry =>
      if l = location then (l, entry) :: entries else (l, e) :: putIn entries location entry

/-- Values by location with another one at a location, or none if it is the usual one. -/
def noted
    {α : Type}
    [DecidableEq α]
    (usual : α)
    (values : List (Location × α))
    (location : Location)
    (value : α) :
    List (Location × α) :=
  let others := values.filter (·.1 != location)
  if value = usual then others else (location, value) :: others

/-- The tree with another entry at a location, which is changed now. -/
def put
    (tree : FileTree)
    (location : Location)
    (entry : Entry) :
    FileTree :=
  { tree with
    entries := putIn tree.entries location entry
    times := noted 0 tree.times location tree.now }

/-- All locations of the file at a location. -/
def twins
    (tree : FileTree)
    (location : Location) :
    List Location :=
  (tree.shared.find? (·.contains location)).getD [location]

/-- The tree with another content of a file, wherever it is. -/
def overwrite
    (tree : FileTree)
    (location : Location)
    (entry : Entry) :
    FileTree :=
  (tree.twins location).foldl (fun tree twin => tree.put twin entry) tree

/-- The tree without the entry at a location. -/
def remove
    (tree : FileTree)
    (location : Location) :
    FileTree :=
  { tree with
    entries := tree.entries.filter (·.1 != location)
    rights := tree.rights.filter (·.1 != location)
    times := tree.times.filter (·.1 != location)
    shared := tree.shared.map (·.filter (· != location)) }

/-- The entries directly in a folder, by name. -/
def children
    (tree : FileTree)
    (folder : Location) :
    List (String × Entry) :=
  tree.entries.filterMap fun item =>
    match item.1.getLast? with
    | some name => if item.1.dropLast = folder then some (name, item.2) else none
    | none => none

/-- The tree with all folders on the way to a location. -/
def putFolders
    (tree : FileTree)
    (done : Location) : Location → FileTree
  | [] => tree
  | name :: rest =>
      let here := done ++ [name]
      let next := match tree.get? here with
        | some _ => tree
        | none => tree.put here .folder
      putFolders next here rest

/-- What the storage refuses at a location. -/
def limitsAt
    (tree : FileTree)
    (location : Location) :
    Limits :=
  (tree.limits.lookup location).getD .free

/-- Where the storage has no limits, nothing is refused. -/
theorem limitsAt_eq_free
    {tree : FileTree}
    (h : tree.limits = [])
    (location : Location) :
    tree.limitsAt location = .free := by
  rw [limitsAt, h]
  rfl

@[simp]
theorem limitsAt_put
    (tree : FileTree)
    (location other : Location)
    (entry : Entry) :
    (tree.put location entry).limitsAt other = tree.limitsAt other :=
  rfl

@[simp]
theorem limitsAt_remove
    (tree : FileTree)
    (location other : Location) :
    (tree.remove location).limitsAt other = tree.limitsAt other :=
  rfl

/-- What a stream got by its path. -/
def received
    (tree : FileTree)
    (number : Nat) :
    Bytes :=
  tree.entries.flatMap (·.2.received number)

/-- What was put at a location is there; the entries elsewhere are as before. -/
theorem lookup_putIn
    (entries : List (Location × Entry))
    (location other : Location)
    (entry : Entry) :
    (putIn entries location entry).lookup other =
      if other = location then some entry else entries.lookup other := by
  induction entries with
  | nil =>
      by_cases h : other = location
      · simp [putIn, h]
      · have h' : (other == location) = false := by simpa using h
        simp [putIn, List.lookup_cons, h, h']
  | cons item entries ih =>
      obtain ⟨l, e⟩ := item
      by_cases hl : l = location
      · subst hl
        by_cases h : other = l
        · simp [putIn, h]
        · have h' : (other == l) = false := by simpa using h
          simp [putIn, List.lookup_cons, h, h']
      · by_cases h : other = l
        · subst h
          simp [putIn, hl]
        · have h' : (other == l) = false := by simpa using h
          simp [putIn, List.lookup_cons, hl, h', ih]

theorem get?_put
    (tree : FileTree)
    {location : Location}
    (below : location ≠ [])
    (other : Location)
    (entry : Entry) :
    (tree.put location entry).get? other =
      if other = location then some entry else tree.get? other := by
  unfold get?
  by_cases h : other = []
  · subst h
    simp [Ne.symm below]
  · simp [h, put, lookup_putIn]

/-- After removing, nothing is at the location; the entries elsewhere are as before. -/
theorem lookup_filter_ne
    (entries : List (Location × Entry))
    (location other : Location) :
    (entries.filter (·.1 != location)).lookup other =
      if other = location then none else entries.lookup other := by
  induction entries with
  | nil => simp
  | cons item entries ih =>
      obtain ⟨l, e⟩ := item
      by_cases hl : l = location
      · subst hl
        by_cases h : other = l
        · subst h
          simpa using ih
        · have h' : (other == l) = false := by simpa using h
          simp [List.lookup_cons, h, h', ih]
      · have hkeep : (l != location) = true := by simpa using hl
        simp only [List.filter_cons, hkeep, ↓reduceIte, List.lookup_cons, ih]
        by_cases h : other = l
        · subst h
          simp [hl]
        · have h' : (other == l) = false := by simpa using h
          simp [h']

theorem get?_remove
    (tree : FileTree)
    {location : Location}
    (below : location ≠ [])
    (other : Location) :
    (tree.remove location).get? other =
      if other = location then none else tree.get? other := by
  unfold get?
  by_cases h : other = []
  · subst h
    simp [Ne.symm below]
  · simp [h, remove, lookup_filter_ne]

end FileTree

end Storage
end CaptureKit
