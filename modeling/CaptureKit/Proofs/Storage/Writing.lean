import CaptureKit.Proofs.Storage.EntryAccess

/-!
# Writing by a path

What is written by a path becomes the content of one file, which may be at several locations, or
goes to a device.  No folder and no link is changed by that, so the path leads to the same place
afterwards, and what was written is found there.  Only a stream that prints gives what it got
by its path to the output of the program.  Where the storage has no room for all of it, this holds
of the part that was taken.

Main statement: what writing leaves (`exists_written_of_writeBytes`).
-/

namespace CaptureKit
namespace Storage

open FileTree Text

/-- An entry that can be at several locations. -/
def Entry.IsPlain : Entry → Prop
  | .file _ | .program .. => True
  | .folder | .link _ | .device _ => False

theorem Entry.IsPlain.isLeaf
    {entry : Entry}
    (h : entry.IsPlain) :
    entry.IsLeaf := by
  cases entry <;> first | exact h | exact h.elim

/-- What is at several locations are files. -/
def FileTree.SharesFiles (tree : FileTree) : Prop :=
  ∀ group ∈ tree.shared, ∀ place ∈ group, ∃ entry, tree.get? place = some entry ∧ entry.IsPlain

/-- What a walk has found where it ends. -/
def Landing.entry? : Landing → Option Entry
  | .found _ entry => some entry
  | .vacant .. => none

/-- Where a content has gone that was written to what is now this entry, and what was printed of
it. -/
inductive Delivered (content : Bytes) : Entry → Bytes → Prop
  /-- To a file. -/
  | kept : Delivered content (.file content) []
  /-- To the standard output. -/
  | printed
      {source : Source} :
      Delivered content (.device ⟨source, .stream 1 content⟩) content
  /-- To another device. -/
  | dropped
      {device : Device}
      (hdevice : ∀ received, device.drain ≠ .stream 1 received) :
      Delivered content (.device device) []

/-- The files after a content was written by a path. -/
structure Written
    (tree after : FileTree)
    (path : String)
    (content : Bytes)
    (location : Location)
    (entry : Entry) :
    Prop where
  leads : after.entryAt path = .ok (location, entry)
  delivered : Delivered content entry (after.received 1)
  twins : ∀ place ∈ tree.twins location, after.get? place = some entry
  others : ∀ place ∉ tree.twins location, after.get? place = tree.get? place
  rights : after.rights = tree.rights
  shared : after.shared = tree.shared

namespace FileTree

section Twins

variable {tree : FileTree} {location : Location}

/-- An entry is at one location, or those of its group are its locations. -/
theorem twins_eq_or (tree : FileTree) (location : Location) :
    tree.twins location = [location] ∨
      ∃ group ∈ tree.shared, location ∈ group ∧ tree.twins location = group := by
  rw [twins]
  cases hgroup : tree.shared.find? (·.contains location) with
  | none =>
      exact .inl rfl
  | some group =>
      have hmem : group.contains location = true := by
        simpa using List.find?_some hgroup
      exact .inr ⟨group, List.mem_of_find?_eq_some hgroup, List.contains_iff_mem.1 hmem, rfl⟩

theorem mem_twins (tree : FileTree) (location : Location) :
    location ∈ tree.twins location := by
  rcases tree.twins_eq_or location with hone | ⟨group, -, hmem, hgroup⟩
  · rw [hone]
    exact List.mem_singleton_self location
  · rwa [hgroup]

/-- A location is the only one of its entry unless a file is there. -/
theorem SharesFiles.twins_eq
    (h : tree.SharesFiles)
    (hplain : ∀ entry, tree.get? location = some entry → ¬ entry.IsPlain) :
    tree.twins location = [location] := by
  rcases tree.twins_eq_or location with hone | ⟨group, hgroup, hmem, -⟩
  · exact hone
  · obtain ⟨entry, hentry, hisPlain⟩ := h group hgroup location hmem
    exact absurd hisPlain (hplain entry hentry)

/-- The locations of an entry where a path can end all hold such entries. -/
theorem SharesFiles.exists_isLeaf
    (h : tree.SharesFiles)
    {entry : Entry}
    (hentry : tree.get? location = some entry)
    (hleaf : entry.IsLeaf) :
    ∀ place ∈ tree.twins location, ∃ twin, tree.get? place = some twin ∧ twin.IsLeaf := by
  intro place hplace
  rcases tree.twins_eq_or location with hone | ⟨group, hgroup, -, htwins⟩
  · rw [hone, List.mem_singleton] at hplace
    exact ⟨entry, hplace ▸ hentry, hleaf⟩
  · obtain ⟨twin, htwin, hplain⟩ := h group hgroup place (htwins ▸ hplace)
    exact ⟨twin, htwin, hplain.isLeaf⟩

/-- Nothing is written to the root. -/
theorem ne_nil_of_isLeaf
    {entry : Entry}
    (hentry : tree.get? location = some entry)
    (hleaf : entry.IsLeaf) :
    location ≠ [] := by
  rintro rfl
  rw [get?, if_pos rfl] at hentry
  cases hentry
  exact hleaf

end Twins

section Putting

variable {entry : Entry} {places : List Location}

/-- What is put at several places is there, and the entries elsewhere are as before. -/
theorem get?_foldl_put
    (hbelow : ∀ place ∈ places, place ≠ [])
    (tree : FileTree)
    (other : Location) :
    (places.foldl (fun tree place => tree.put place entry) tree).get? other =
      if other ∈ places then some entry else tree.get? other := by
  induction places generalizing tree with
  | nil =>
      rfl
  | cons place places ih =>
      obtain ⟨hplace, hbelow⟩ := List.forall_mem_cons.1 hbelow
      rw [List.foldl_cons, ih hbelow, get?_put tree hplace]
      by_cases hother : other ∈ places
      · rw [if_pos hother, if_pos (List.mem_cons_of_mem place hother)]
      · simp [hother]

/-- Rights and groups are kept when entries are put. -/
theorem rights_shared_foldl_put (tree : FileTree) :
    (places.foldl (fun tree place => tree.put place entry) tree).rights = tree.rights ∧
      (places.foldl (fun tree place => tree.put place entry) tree).shared = tree.shared := by
  induction places generalizing tree with
  | nil => exact ⟨rfl, rfl⟩
  | cons place places ih => exact ih (tree.put place entry)

/-- What a stream got that got nothing before is what is put there. -/
theorem received_put
    {tree : FileTree}
    {number : Nat}
    (h : tree.received number = [])
    (location : Location)
    (entry : Entry) :
    (tree.put location entry).received number = entry.received number := by
  rw [received] at h
  rw [received, put]
  dsimp only
  revert h
  induction tree.entries with
  | nil =>
      exact fun _ => List.append_nil _
  | cons item entries ih =>
      intro h
      obtain ⟨hitem, hentries⟩ := List.append_eq_nil_iff.1 (List.flatMap_cons.symm.trans h)
      rw [putIn]
      split
      · exact List.flatMap_cons.trans
          ((congrArg (_ ++ ·) hentries).trans (List.append_nil _))
      · rw [List.flatMap_cons, hitem, List.nil_append, ih hentries]

/-- Streams get nothing when files are put. -/
theorem received_foldl_put_file
    {content : Bytes}
    {number : Nat}
    {tree : FileTree}
    (h : tree.received number = []) :
    (places.foldl (fun tree place => tree.put place (.file content)) tree).received number =
      [] := by
  induction places generalizing tree with
  | nil => exact h
  | cons place places ih => exact ih (received_put h place _)

/-- No entry is a stream that got something if no stream got anything. -/
theorem received_eq_nil_of_get?
    {tree : FileTree}
    {location : Location}
    {number : Nat}
    (h : tree.received number = [])
    (hentry : tree.get? location = some entry) :
    entry.received number = [] := by
  rw [get?] at hentry
  split at hentry
  · cases hentry
    rfl
  · obtain ⟨front, behind, hentries, -⟩ := List.lookup_eq_some_iff.1 hentry
    exact List.flatMap_eq_nil_iff.1 h (location, entry)
      (hentries ▸ List.mem_append_right front List.mem_cons_self)

end Putting

section Ways

variable {tree after : FileTree} {entry : Entry}

/-- Nothing is found behind an entry that is no folder and no link. -/
theorem eq_of_walk_of_isLeaf
    {ending : Ending}
    {links : Nat}
    {here : Location}
    {names : List String}
    {landing : Landing}
    (hentry : tree.get? here = some entry)
    (hleaf : entry.IsLeaf)
    (h : tree.walk ending links here names = .ok landing) :
    names = [] ∧ landing = .found here entry := by
  cases names with
  | nil =>
      rw [walk, hentry] at h
      cases h
      exact ⟨rfl, rfl⟩
  | cons name names =>
      have hfolder : tree.get? here ≠ some .folder := by
        rw [hentry]
        rintro ⟨⟩
        exact hleaf
      rw [walk, if_pos hfolder] at h
      cases h

/-- What a walk has found is what is there. -/
theorem get?_place_of_walk
    {ending : Ending}
    {links : Nat}
    {here : Location}
    {names : List String}
    {landing : Landing}
    (h : tree.walk ending links here names = .ok landing) :
    tree.get? landing.place = landing.entry? := by
  fun_induction walk tree ending links here names with
  | case1 links here entry hentry =>
      cases h
      exact hentry
  | case4 links here name rest _ _ ih | case5 links here rest _ _ ih =>
      exact ih h
  | case8 links here name rest _ _ _ _ _ hnone _ =>
      cases h
      exact hnone
  | case10 links here name rest _ _ _ _ _ target hlink _ =>
      cases h
      exact hlink
  | case12 here name rest _ _ _ _ _ target _ _ left ih =>
      exact ih h
  | case13 links here name rest _ _ _ _ _ entry _ _ ih =>
      exact ih h
  | _ =>
      cases h

/-- A walk that ended where something was put ends there again, if nothing else was changed that
leads on. -/
theorem walk_of_written
    (hstays : ∀ place old, tree.get? place = some old → ¬ old.IsLeaf →
      after.get? place = some old)
    (hentry : entry.IsLeaf)
    {links : Nat}
    {here : Location}
    {names : List String}
    {landing : Landing}
    (h : tree.walk .create links here names = .ok landing)
    (hfree : tree.get? landing.place ≠ some .folder)
    (hput : after.get? landing.place = some entry) :
    after.walk .follow links here names = .ok (.found landing.place entry) := by
  have hfolders : ∀ {place}, tree.get? place = some .folder → after.get? place = some .folder :=
    fun hfolder => hstays _ _ hfolder id
  -- Along the recursion of the walk.  Its steps lead over folders and links, which stay.
  fun_induction walk tree .create links here names with
  | case1 links here old hold =>
      cases h
      rw [walk, show after.get? here = some entry from hput]
      rfl
  | case4 links here name rest hfolder hname ih =>
      rw [walk_cons_of_stay (hfolders (Decidable.not_not.1 hfolder)) hname, ih h]
  | case5 links here rest hfolder _ ih =>
      rw [walk_cons_of_parent (hfolders (Decidable.not_not.1 hfolder)), ih h]
  | case8 links here name rest hfolder hstay hparent _ hshort hnone hlast =>
      obtain ⟨hdot, hempty⟩ := not_or.1 hstay
      obtain rfl := List.isEmpty_iff.1 (Bool.and_eq_true_iff.1 hlast).1
      cases h
      exact walk_singleton_of_isLeaf (hfolders (Decidable.not_not.1 hfolder))
        ⟨hdot, hempty, hparent, Nat.not_lt.1 hshort⟩ hput hentry
  | case10 links here name rest _ _ _ _ _ target _ hkept =>
      exact absurd (Bool.and_eq_true_iff.1 hkept).2 (by decide)
  | case12 here name rest hfolder hstay hparent _ hshort target hlink _ left ih =>
      obtain ⟨hdot, hempty⟩ := not_or.1 hstay
      rw [walk_cons_of_isEntryName (hfolders (Decidable.not_not.1 hfolder))
        ⟨hdot, hempty, hparent, Nat.not_lt.1 hshort⟩ (by decide), hstays _ _ hlink id]
      dsimp only
      rw [if_neg (by simp), if_neg (Nat.succ_ne_zero left)]
      exact ih h
  | case13 links here name rest hfolder hstay hparent _ hshort old hnolink hold ih =>
      obtain ⟨hdot, hempty⟩ := not_or.1 hstay
      have hfolder' := hfolders (Decidable.not_not.1 hfolder)
      have hname : IsEntryName name := ⟨hdot, hempty, hparent, Nat.not_lt.1 hshort⟩
      by_cases hleaf : old.IsLeaf
      · obtain ⟨rfl, rfl⟩ := eq_of_walk_of_isLeaf hold hleaf h
        exact walk_singleton_of_isLeaf hfolder' hname hput hentry
      · cases old with
        | folder =>
            rw [walk_cons_of_isEntryName hfolder' hname (by decide), hfolders hold]
            exact ih h
        | link target => exact absurd rfl (hnolink target)
        | _ => exact absurd trivial hleaf
  | _ =>
      cases h

end Ways

section Written

variable {tree after : FileTree} {path : String} {content : Bytes}

/-- Only an entry where a path ends is written to, and it stays one. -/
theorem isLeaf_of_write
    {old new : Entry}
    (h : old.write content = .ok new) :
    old.IsLeaf ∧ new.IsLeaf := by
  cases old with
  | file old | program name old =>
      cases h
      exact ⟨trivial, trivial⟩
  | folder | link target =>
      cases h
  | device device =>
      refine ⟨trivial, ?_⟩
      obtain ⟨source, drain⟩ := device
      cases drain with
      | dropping | stream number received =>
          cases h
          trivial
      | refusing error =>
          rw [Entry.write] at h
          split at h <;> cases h
          trivial
      | closed error =>
          cases h

/-- What is written to an entry that got nothing yet is kept, printed or dropped. -/
theorem delivered_of_write
    {old new : Entry}
    (hold : old.received 1 = [])
    (h : old.write content = .ok new) :
    Delivered content new (new.received 1) := by
  cases old with
  | file old | program name old =>
      cases h
      exact .kept
  | folder | link target =>
      cases h
  | device device =>
      obtain ⟨source, drain⟩ := device
      cases drain with
      | dropping =>
          cases h
          exact .dropped (by simp)
      | refusing error =>
          rw [Entry.write] at h
          split at h <;> cases h
          exact .dropped (by simp)
      | closed error =>
          cases h
      | stream number received =>
          cases h
          by_cases hnumber : number = 1
          · subst hnumber
            obtain rfl : received = [] := by simpa [Entry.received] using hold
            exact .printed
          · have hnone : (Entry.device ⟨source, .stream number (received ++ content)⟩).received 1 =
                [] :=
              if_neg hnumber
            rw [hnone]
            exact .dropped fun other hother => hnumber (Drain.stream.inj hother).1

/-- The streams of the program have got what was put, which is nothing if this is a file. -/
theorem received_overwrite
    {old new : Entry}
    {location : Location}
    (hreceived : tree.received 1 = [])
    (hshared : tree.SharesFiles)
    (hold : ∀ entry, tree.get? location = some entry → old = entry)
    (h : old.write content = .ok new) :
    (tree.overwrite location new).received 1 = new.received 1 := by
  cases old with
  | file old | program name old =>
      cases h
      exact received_foldl_put_file hreceived
  | folder | link target =>
      cases h
  | device device =>
      have hone : tree.twins location = [location] := by
        refine hshared.twins_eq fun entry hentry => ?_
        obtain rfl := hold entry hentry
        exact id
      rw [overwrite, hone, List.foldl_cons, List.foldl_nil, received_put hreceived]

/-- What is put where a path leads, and at the other locations of the same file, is found by the
path. -/
theorem written_of_overwrite
    {landing : Landing}
    {new : Entry}
    (hvalid : pathFault? path = none)
    (hwalk : tree.walk .create linkLimit [] (route path.toList) = .ok landing)
    (hleaves : ∀ place ∈ tree.twins landing.place,
      place ≠ [] ∧ ∀ old, tree.get? place = some old → old.IsLeaf)
    (hnew : new.IsLeaf)
    (hdelivered : Delivered content new ((tree.overwrite landing.place new).received 1)) :
    Written tree (tree.overwrite landing.place new) path content landing.place new := by
  have hget : ∀ place, (tree.overwrite landing.place new).get? place =
      if place ∈ tree.twins landing.place then some new else tree.get? place :=
    get?_foldl_put (fun place hplace => (hleaves place hplace).1) tree
  have hself := tree.mem_twins landing.place
  exact {
    leads := by
      refine entryAt_eq_ok_iff.2 ⟨hvalid, walk_of_written ?_ hnew hwalk ?_ ?_⟩
      · intro place old hold hleads
        rw [hget, if_neg fun hplace => hleads ((hleaves place hplace).2 old hold), hold]
      · exact fun hfolder => (hleaves _ hself).2 .folder hfolder
      · rw [hget, if_pos hself]
    delivered := hdelivered
    twins := fun place hplace => by rw [hget, if_pos hplace]
    others := fun place hplace => by rw [hget, if_neg hplace]
    rights := (rights_shared_foldl_put tree).1
    shared := (rights_shared_foldl_put tree).2 }

/-- What is written to an entry by a path is found by it. -/
theorem written_of_found
    {location : Location}
    {old new : Entry}
    (hreceived : tree.received 1 = [])
    (hshared : tree.SharesFiles)
    (hvalid : pathFault? path = none)
    (hwalk : tree.walk .create linkLimit [] (route path.toList) = .ok (.found location old))
    (hwrite : old.write content = .ok new) :
    Written tree (tree.overwrite location new) path content location new := by
  have hold := get?_place_of_walk hwalk
  obtain ⟨hleaf, hnew⟩ := isLeaf_of_write hwrite
  refine written_of_overwrite hvalid hwalk ?_ hnew ?_
  · intro place hplace
    obtain ⟨twin, htwin, hisLeaf⟩ := hshared.exists_isLeaf hold hleaf place hplace
    refine ⟨ne_nil_of_isLeaf htwin hisLeaf, fun other hother => ?_⟩
    obtain rfl := Option.some.inj (htwin.symm.trans hother)
    exact hisLeaf
  · rw [received_overwrite hreceived hshared
      (fun entry hentry => Option.some.inj (hold.symm.trans hentry)) hwrite]
    exact delivered_of_write (received_eq_nil_of_get? hreceived hold) hwrite

/-- A file that is made by a path is found by it. -/
theorem written_of_vacant
    {folder : Location}
    {name : String}
    (hreceived : tree.received 1 = [])
    (hshared : tree.SharesFiles)
    (hvalid : pathFault? path = none)
    (hwalk : tree.walk .create linkLimit [] (route path.toList) = .ok (.vacant folder name)) :
    Written tree (tree.overwrite (folder ++ [name]) (.file content)) path content
      (folder ++ [name]) (.file content) := by
  have hnone : tree.get? (folder ++ [name]) = none := get?_place_of_walk hwalk
  have hone : tree.twins (folder ++ [name]) = [folder ++ [name]] :=
    hshared.twins_eq (by simp [hnone])
  refine written_of_overwrite hvalid hwalk ?_ trivial ?_
  · intro place hplace
    obtain rfl := List.mem_singleton.1 (hone ▸ hplace)
    exact ⟨List.concat_ne_nil name folder, by simp [hnone]⟩
  · rw [Landing.place, overwrite, received_foldl_put_file hreceived]
    exact .kept

/-- A storage takes the beginning of a content, and all of it unless it refuses. -/
theorem cut_isPrefix (limits : Limits) (content : Bytes) :
    (limits.cut content).1 <+: content ∧
      ((limits.cut content).2 = none → (limits.cut content).1 = content) := by
  rw [Limits.cut]
  split
  · split
    · exact ⟨List.take_prefix _ _, fun h => absurd h (Option.some_ne_none _)⟩
    · exact ⟨List.prefix_refl _, fun _ => rfl⟩
  · exact ⟨List.prefix_refl _, fun _ => rfl⟩

/-- Where nothing refuses to be opened, a write by a path leaves what the entry makes of the part
that is taken. -/
theorem writeBytes_of_walk
    {landing : Landing}
    {entry : Entry}
    (hvalid : pathFault? path = none)
    (hwalk : tree.walk .create linkLimit [] (route path.toList) = .ok landing)
    (hopens : (tree.limitsAt landing.place).opening = none)
    (hwrite : landing.write ((tree.limitsAt landing.place).cut content).1 = .ok entry) :
    tree.writeBytes path content =
      (tree.overwrite landing.place entry,
        ((tree.limitsAt landing.place).cut content).2.map .os) := by
  rw [writeBytes, locate, locateNames_eq, hvalid, hwalk]
  dsimp only [Except.mapError]
  rw [hopens, hwrite]

/-- A write by a path is refused and leaves all files as they are, or what was taken of the content
is found by the path afterwards, and it was printed if this is the path of the standard output.  No
other entry is changed. -/
theorem exists_written_of_writeBytes
    {fault : Option IoFault}
    (hreceived : tree.received 1 = [])
    (hshared : tree.SharesFiles)
    (h : tree.writeBytes path content = (after, fault)) :
    (after = tree ∧ fault ≠ none) ∨
      ∃ location entry taken,
        taken <+: content ∧ (fault = none → taken = content) ∧
        Written tree after path taken location entry := by
  rw [writeBytes, locate, locateNames_eq] at h
  cases hvalid : pathFault? path with
  | some cause =>
      rw [hvalid] at h
      cases h
      exact .inl ⟨rfl, Option.some_ne_none _⟩
  | none =>
      cases hwalk : tree.walk .create linkLimit [] (route path.toList) with
      | error error =>
          rw [hvalid, hwalk] at h
          cases h
          exact .inl ⟨rfl, Option.some_ne_none _⟩
      | ok landing =>
          rw [hvalid, hwalk] at h
          dsimp only [Except.mapError] at h
          obtain ⟨htaken, hall⟩ := cut_isPrefix (tree.limitsAt landing.place) content
          split at h
          · cases h
            exact .inl ⟨rfl, Option.some_ne_none _⟩
          · cases h
            exact .inl ⟨rfl, Option.some_ne_none _⟩
          · next entry _ hwrite =>
              cases h
              refine .inr ⟨landing.place, entry, _, htaken,
                fun hnone => hall (Option.map_eq_none_iff.1 hnone), ?_⟩
              cases landing with
              | found location old =>
                  exact written_of_found hreceived hshared hvalid hwalk hwrite
              | vacant folder name =>
                  cases hwrite
                  exact written_of_vacant hreceived hshared hvalid hwalk

end Written

end FileTree
end Storage
end CaptureKit
