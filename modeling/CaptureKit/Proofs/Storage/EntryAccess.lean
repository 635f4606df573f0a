import CaptureKit.Proofs.Storage.Children

/-!
# Access to the entries of a folder

A path that ends in the name of an entry leads over its other names to a folder, and from
there to the entry.  So what reading, removing and linking by such a path do is said by the
entry alone, once the path itself is accepted (`pathFault?`) and the way to the folder is known.
A link between two entries of one folder goes the way to this folder twice.

Main statements: what is read from an entry and from a link to an entry beside it
(`readBytes_of_leaf`, `readBytes_of_link`), and what removing and linking leave
(`removeFile_eq_ok_iff`, `makeLink_eq_ok_iff`).  Every path by which something is removed is of
this form (`exists_reaches_of_removeFile`).
-/

namespace CaptureKit
namespace Storage

open FileTree Text

/-- What is wrong with a path itself, whatever the files are. -/
def pathFault? (path : String) : Option IoFault :=
  if path.toList.any (·.toNat == 0) then some .nulInName
  else if path.isEmpty then some (.os .noEntry)
  else if pathLimit < path.utf8ByteSize then some (.os .nameTooLong)
  else none

/-- The names on a path. -/
def namesOf (path : String) : List String :=
  (names path.toList).map String.ofList

/-- The path has these names in front of its last one, and asks for no folder. -/
structure EndsIn (path : String) (front : List String) (name : String) : Prop where
  isFileName : IsFileName name
  namesOf_eq : namesOf path = front ++ [name]
  noSlash : endsInSlash path.toList = false

section Names

/-- The parts of a text are those in front of a slash and those behind it. -/
theorem segments_append_slash (a b : List Char) :
    segments (a ++ '/' :: b) = segments a ++ segments b := by
  induction a with
  | nil =>
      simp [segments]
  | cons c a ih =>
      rw [List.cons_append, segments, segments, ih]
      split
      · rfl
      · cases h : segments a with
        | nil => exact absurd h (segments_ne_nil a)
        | cons first rest => rfl

theorem segments_of_slash_not_mem
    {s : List Char}
    (h : '/' ∉ s) :
    segments s = [s] := by
  induction s with
  | nil =>
      rfl
  | cons c s ih =>
      obtain ⟨hc, hs⟩ := List.ne_and_not_mem_of_not_mem_cons h
      rw [segments, if_neg hc.symm, ih hs]

theorem names_append_slash (a b : List Char) :
    names (a ++ '/' :: b) = names a ++ names b := by
  rw [names, segments_append_slash, List.filter_append]
  rfl

theorem names_of_slash_not_mem
    {s : List Char}
    (h : '/' ∉ s)
    (hne : s ≠ []) :
    names s = [s] := by
  rw [names, segments_of_slash_not_mem h]
  cases s with
  | nil => exact absurd rfl hne
  | cons c s => rfl

/-- A path without a slash at its end is walked by its names. -/
theorem EndsIn.route_eq
    {path name : String}
    {front : List String}
    (h : EndsIn path front name) :
    route path.toList = front ++ [name] := by
  rw [route, h.noSlash, if_neg Bool.false_ne_true, List.append_nil]
  exact h.namesOf_eq

/-- A path that ends in the name of an entry stands for no folder by itself. -/
theorem EndsIn.namesFolderItself_eq
    {path name : String}
    {front : List String}
    (h : EndsIn path front name) :
    namesFolderItself path.toList = false := by
  have hlast : ((names path.toList).map String.ofList).getLast? = some name := by
    rw [show (names path.toList).map String.ofList = front ++ [name] from h.namesOf_eq]
    exact List.getLast?_concat
  rw [List.getLast?_map, Option.map_eq_some_iff] at hlast
  obtain ⟨last, hlast, rfl⟩ := hlast
  obtain ⟨⟨hdot, -, hparent, -⟩, -⟩ := h.isFileName
  rw [namesFolderItself, hlast]
  have hne : last ≠ ['.'] := fun heq => hdot (heq ▸ rfl)
  have hne' : last ≠ ['.', '.'] := fun heq => hparent (heq ▸ rfl)
  simp [hne, hne']

/-- The last name on a path can be the name of an entry, unless it is too long, or the path stands
for a folder by itself. -/
theorem exists_namesOf_eq
    {path : String}
    (h : namesFolderItself path.toList = false) :
    ∃ front name, namesOf path = front ++ [name] ∧
      name ≠ "." ∧ name ≠ "" ∧ name ≠ ".." ∧ '/' ∉ name.toList := by
  rw [namesFolderItself] at h
  split at h
  · cases h
  next last hlast =>
  obtain ⟨front, hnames⟩ := List.getLast?_eq_some_iff.1 hlast
  have hmem : last ∈ names path.toList := hnames ▸ List.mem_concat_self
  obtain ⟨hsegment, hnonempty⟩ := List.mem_filter.1 hmem
  rw [Bool.or_eq_false_iff, beq_eq_false_iff_ne, beq_eq_false_iff_ne] at h
  have hne : ∀ other, last ≠ other → String.ofList last ≠ String.ofList other :=
    fun other hother heq => hother (String.ofList_injective heq)
  refine ⟨front.map String.ofList, String.ofList last, ?_, hne ['.'] h.1, hne [] ?_,
    hne ['.', '.'] h.2, ?_⟩
  · rw [namesOf, hnames, List.map_append]
    rfl
  · rintro rfl
    cases hnonempty
  · rw [String.toList_ofList]
    exact slash_not_mem_of_mem_segments hsegment

end Names

namespace FileTree

section Entries

variable {tree : FileTree} {path name : String} {front : List String} {folder : Location}
  {count : Nat}

theorem locateNames_eq
    (tree : FileTree)
    (ending : Ending)
    (path : String)
    (names : List String) :
    tree.locateNames ending path names =
      match pathFault? path with
      | some fault => .error fault
      | none => (tree.walk ending linkLimit [] names).mapError .os := by
  rw [locateNames, pathFault?]
  split
  · rfl
  · split
    · rfl
    · split <;> rfl

/-- What a path leads to is where the walk of its names ends, if the path is accepted. -/
theorem entryAt_eq_ok_iff
    {location : Location}
    {entry : Entry} :
    tree.entryAt path = .ok (location, entry) ↔
      pathFault? path = none ∧
      tree.walk .follow linkLimit [] (route path.toList) = .ok (.found location entry) := by
  rw [entryAt, locate, locateNames_eq]
  cases pathFault? path with
  | some fault =>
      simp
  | none =>
      cases tree.walk .follow linkLimit [] (route path.toList) with
      | error error => simp [Except.mapError]
      | ok landing => cases landing <;> simp [Except.mapError]

/-- The names of a path lead to a folder exactly if there is a way with few enough links. -/
theorem walk_route_eq_folder_iff
    {links : Nat} :
    tree.walk .follow links [] (route path.toList) = .ok (.found folder .folder) ↔
      ∃ count ≤ links, tree.Reaches [] (namesOf path) count folder := by
  constructor
  · intro h
    obtain ⟨count, hcount, hway⟩ := exists_reaches_of_walk h
    refine ⟨count, hcount, ?_⟩
    rw [route] at hway
    split at hway
    · exact hway.of_append_empty
    · rwa [List.append_nil] at hway
  · rintro ⟨count, hcount, hway⟩
    rw [route, ← namesOf, hway.walk_append (by decide) (by simp), if_pos hcount]
    split
    · rw [walk_cons_of_stay hway.isFolder_end (.inr rfl), walk, hway.isFolder_end]
    · rw [walk, hway.isFolder_end]

/-- A path leads to a folder exactly if it is accepted and there is a way. -/
theorem entryAt_eq_folder_iff :
    tree.entryAt path = .ok (folder, .folder) ↔
      pathFault? path = none ∧
      ∃ count ≤ linkLimit, tree.Reaches [] (namesOf path) count folder := by
  rw [entryAt_eq_ok_iff, walk_route_eq_folder_iff]

/-- The last name is looked for in the folder that the other names lead to. -/
theorem walk_of_reaches
    (hway : tree.Reaches [] front count folder)
    {links : Nat}
    (hcount : count ≤ links)
    {ending : Ending}
    (hending : ending ≠ .create) :
    tree.walk ending links [] (front ++ [name]) =
      tree.walk ending (links - count) folder [name] := by
  rw [hway.walk_append hending (fun _ => List.cons_ne_nil _ _), if_pos hcount]

/-- A name that is kept is found in its folder, or its place is free. -/
theorem locateNames_keep
    (hpath : EndsIn path front name)
    (hway : tree.Reaches [] front count folder)
    (hcount : count ≤ linkLimit) :
    tree.locateNames .keep path (front ++ [name]) =
      match pathFault? path, tree.get? (folder ++ [name]) with
      | some fault, _ => .error fault
      | none, some entry => .ok (.found (folder ++ [name]) entry)
      | none, none =>
          if isSealed folder then .error (.os .noEntry) else .ok (.vacant folder name) := by
  rw [locateNames_eq]
  cases pathFault? path with
  | some fault => rfl
  | none =>
      rw [walk_of_reaches hway hcount (by decide),
        walk_keep_singleton hway.isFolder_end hpath.isFileName.1]
      cases tree.get? (folder ++ [name]) with
      | some entry => rfl
      | none => cases h : isSealed folder <;> rfl

/-- An entry that is no folder and no link is found by its path. -/
theorem entryAt_of_leaf
    (hpath : EndsIn path front name)
    (hway : tree.Reaches [] front count folder)
    (hcount : count ≤ linkLimit)
    {entry : Entry}
    (hentry : tree.get? (folder ++ [name]) = some entry)
    (hleaf : entry.IsLeaf) :
    tree.entryAt path =
      match pathFault? path with
      | some fault => .error fault
      | none => .ok (folder ++ [name], entry) := by
  rw [entryAt, locate, locateNames_eq, hpath.route_eq]
  cases pathFault? path with
  | some fault => rfl
  | none =>
      rw [walk_of_reaches hway hcount (by decide),
        walk_cons_of_isEntryName hway.isFolder_end hpath.isFileName.1 (by decide), hentry]
      cases entry with
      | link target => exact hleaf.elim
      | _ =>
          dsimp only
          rw [walk, hentry]
          rfl

/-- What the entry gives is read by its path. -/
theorem readBytes_of_leaf
    (hpath : EndsIn path front name)
    (hway : tree.Reaches [] front count folder)
    (hcount : count ≤ linkLimit)
    {entry : Entry}
    (hentry : tree.get? (folder ++ [name]) = some entry)
    (hleaf : entry.IsLeaf) :
    tree.readBytes path =
      match pathFault? path with
      | some fault => .error fault
      | none => entry.read := by
  rw [readBytes, entryAt_of_leaf hpath hway hcount hentry hleaf]
  cases pathFault? path <;> rfl

/-- A link to an entry in the same folder goes the way to the folder twice. -/
theorem readBytes_of_link
    (hpath : EndsIn path front name)
    (hway : tree.Reaches [] front count folder)
    (hcount : count ≤ linkLimit)
    (hvalid : pathFault? path = none)
    {target other : String}
    (htarget : EndsIn target front other)
    (habsolute : isAbsolute target.toList = true)
    (hlink : tree.get? (folder ++ [name]) = some (.link target))
    {entry : Entry}
    (hentry : tree.get? (folder ++ [other]) = some entry)
    (hleaf : entry.IsLeaf) :
    tree.readBytes path =
      if 2 * count < linkLimit then entry.read else .error (.os .tooManyLinks) := by
  have hwalk : tree.walk .follow linkLimit [] (front ++ [name]) =
      if 2 * count < linkLimit then .ok (.found (folder ++ [other]) entry)
      else .error .tooManyLinks := by
    rw [walk_of_reaches hway hcount (by decide),
      walk_cons_of_isEntryName hway.isFolder_end hpath.isFileName.1 (by decide), hlink]
    simp only [List.isEmpty_nil, Bool.true_and, habsolute, if_true, List.append_nil]
    rw [if_neg (by decide), htarget.route_eq]
    by_cases hleft : 2 * count < linkLimit
    · rw [if_pos hleft, if_neg (by omega), walk_of_reaches hway (by omega) (by decide)]
      exact walk_singleton_of_isLeaf hway.isFolder_end htarget.isFileName.1 hentry hleaf
    · rw [if_neg hleft]
      split
      · rfl
      · rw [hway.walk_append (by decide) (fun _ => List.cons_ne_nil _ _), if_neg (by omega)]
  rw [readBytes, entryAt, locate, locateNames_eq, hvalid, hpath.route_eq, hwalk]
  by_cases hleft : 2 * count < linkLimit
  · rw [if_pos hleft, if_pos hleft]
    rfl
  · rw [if_neg hleft, if_neg hleft]
    rfl

/-- Removing by a path removes the entry that the path names, unless it is a folder or in one
that the system fills, or the storage refuses. -/
theorem removeFile_eq_ok_iff
    (hpath : EndsIn path front name)
    (hway : tree.Reaches [] front count folder)
    (hcount : count ≤ linkLimit)
    {removed : FileTree} :
    tree.removeFile path = .ok removed ↔
      pathFault? path = none ∧ isSealed folder = false ∧
      (tree.limitsAt (folder ++ [name])).removal = none ∧
      (∃ entry, tree.get? (folder ++ [name]) = some entry ∧ entry ≠ .folder) ∧
      removed = tree.remove (folder ++ [name]) := by
  have hnames : (names path.toList).map String.ofList = front ++ [name] := hpath.namesOf_eq
  rw [removeFile, hnames, locateNames_keep hpath hway hcount]
  cases pathFault? path with
  | some fault =>
      simp
  | none =>
      cases tree.get? (folder ++ [name]) with
      | none =>
          cases isSealed folder <;> simp
      | some entry =>
          simp only [hpath.namesFolderItself_eq, hpath.noSlash, Bool.or_false, decide_eq_true_eq,
            Bool.false_eq_true, if_false, Option.some.injEq, exists_eq_left', true_and,
            List.dropLast_concat]
          by_cases hentry : entry = .folder
          · simp [hentry]
          · cases isSealed folder <;>
              cases (tree.limitsAt (folder ++ [name])).removal <;> simp [hentry, eq_comm]

/-- A path by which something is removed ends in the name of an entry. -/
theorem exists_reaches_of_removeFile
    {removed : FileTree}
    (h : tree.removeFile path = .ok removed) :
    ∃ front name count folder,
      EndsIn path front name ∧ tree.Reaches [] front count folder ∧ count ≤ linkLimit := by
  rw [removeFile, ← namesOf] at h
  split at h
  next location entry hlanding =>
    split at h
    · cases h
    next hfolder =>
    split at h
    · cases h
    next hslash =>
    obtain ⟨-, hitself⟩ := Bool.or_eq_false_iff.1 (Bool.eq_false_iff.2 hfolder)
    obtain ⟨front, name, hnames, hdot, hempty, hparent, hnoslash⟩ := exists_namesOf_eq hitself
    rw [hnames, locateNames_eq] at hlanding
    split at hlanding
    · cases hlanding
    cases hwalk : tree.walk .keep linkLimit [] (front ++ [name]) with
    | error error =>
        rw [hwalk] at hlanding
        cases hlanding
    | ok landing =>
        obtain ⟨count, hcount, folder, hway⟩ := exists_reaches_of_walk_keep hwalk
        rw [walk_of_reaches hway hcount (by decide)] at hwalk
        have hname := isEntryName_of_walk_cons hdot hempty hparent hwalk
        exact ⟨front, name, count, folder,
          ⟨⟨hname, hnoslash⟩, hnames, Bool.eq_false_iff.2 hslash⟩, hway, hcount⟩
  · cases h
  · cases h

/-- A path that can be one holds no NUL. -/
theorem no_nul_of_pathFault?_eq_none
    (h : pathFault? path = none) :
    ¬ path.toList.any (·.toNat == 0) := by
  intro hnul
  rw [pathFault?, if_pos hnul] at h
  cases h

/-- A link is made to what can be a path, where nothing is and the storage allows it. -/
theorem makeLink_eq
    (tree : FileTree)
    (target : String)
    (hnul : ¬ path.toList.any (·.toNat == 0)) :
    tree.makeLink target path =
      match pathFault? target, tree.locate .keep path with
      | some fault, _ => .error fault
      | none, .ok (.found ..) => .error (.os .alreadyThere)
      | none, .ok (.vacant folder name) =>
          match (tree.limitsAt (folder ++ [name])).link with
          | some error => .error (.os error)
          | none => .ok (tree.put (folder ++ [name]) (.link target))
      | none, .error fault => .error fault := by
  rw [makeLink, pathFault?, if_neg hnul]
  split
  · rfl
  · split
    · rfl
    · split
      · rfl
      · cases tree.locate .keep path with
        | error fault => rfl
        | ok landing => cases landing <;> rfl

/-- A link is put at a place that is free for it, to any path that may be one. -/
theorem makeLink_eq_ok_iff_locate
    {target : String}
    {linked : FileTree} :
    tree.makeLink target path = .ok linked ↔
      pathFault? target = none ∧
      ∃ place last, tree.locate .keep path = .ok (.vacant place last) ∧
        (tree.limitsAt (place ++ [last])).link = none ∧
        linked = tree.put (place ++ [last]) (.link target) := by
  by_cases hnul : path.toList.any (·.toNat == 0)
  · rw [makeLink, if_pos hnul, ite_self, locate, locateNames, if_pos hnul]
    simp
  · rw [makeLink_eq tree target hnul]
    cases pathFault? target with
    | some fault =>
        simp
    | none =>
        cases tree.locate .keep path with
        | error fault => simp
        | ok landing =>
            cases landing with
            | found location entry =>
                simp
            | vacant folder name =>
                cases hlink : (tree.limitsAt (folder ++ [name])).link with
                | some error => simp [hlink]
                | none => simp [hlink, eq_comm]

/-- A link by a path is put in the folder of the path, where the last name is free, unless the
storage refuses. -/
theorem makeLink_eq_ok_iff
    (hpath : EndsIn path front name)
    (hway : tree.Reaches [] front count folder)
    (hcount : count ≤ linkLimit)
    {target : String}
    {linked : FileTree} :
    tree.makeLink target path = .ok linked ↔
      pathFault? target = none ∧ pathFault? path = none ∧
      tree.get? (folder ++ [name]) = none ∧ isSealed folder = false ∧
      (tree.limitsAt (folder ++ [name])).link = none ∧
      linked = tree.put (folder ++ [name]) (.link target) := by
  rw [makeLink_eq_ok_iff_locate, locate, hpath.route_eq, locateNames_keep hpath hway hcount]
  cases pathFault? path with
  | some fault =>
      simp
  | none =>
      cases tree.get? (folder ++ [name]) with
      | some entry =>
          simp
      | none =>
          cases isSealed folder <;> simp

end Entries

end FileTree
end Storage
end CaptureKit
