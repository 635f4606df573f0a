import CaptureKit.Proofs.Storage.Walking
import Mathlib.Data.List.Nodup

/-!
# The entries of a folder

A tree is well formed if each location is in it once, and if all names in it are names that
an entry can have.  Then the entries that a folder lists are those that are found at the
locations below it.

Main statements: what a folder lists (`WellFormed.mem_children_iff`), and trees stay well
formed when entries are removed or put (`WellFormed.remove`, `WellFormed.put`).
-/

namespace CaptureKit
namespace Storage

open FileTree

/-- A name between slashes that an entry of a folder can have. -/
def IsFileName (name : String) : Prop :=
  IsEntryName name ∧ '/' ∉ name.toList

instance (name : String) : Decidable (IsFileName name) :=
  inferInstanceAs (Decidable (_ ∧ _))

/-- No location is in the tree twice, and no name in it is impossible. -/
structure FileTree.WellFormed (tree : FileTree) : Prop where
  distinct : (tree.entries.map Prod.fst).Nodup
  names : ∀ item ∈ tree.entries, ∀ name ∈ item.1, IsFileName name

namespace FileTree

section Listing

variable {tree : FileTree}

/-- An entry below the root is found exactly if it is in the tree. -/
theorem WellFormed.get?_eq_some_iff
    (h : tree.WellFormed)
    {location : Location}
    (hbelow : location ≠ [])
    {entry : Entry} :
    tree.get? location = some entry ↔ (location, entry) ∈ tree.entries := by
  rw [get?, if_neg hbelow, List.lookup_eq_some_iff]
  constructor
  · rintro ⟨front, behind, hentries, -⟩
    rw [hentries]
    exact List.mem_append_right front List.mem_cons_self
  · intro hmem
    obtain ⟨front, behind, hentries⟩ := List.append_of_mem hmem
    refine ⟨front, behind, hentries, ?_⟩
    intro item hitem
    have hdistinct := h.distinct
    rw [hentries, List.map_append, List.map_cons] at hdistinct
    have hne := (List.nodup_append.1 hdistinct).2.2 item.1 (List.mem_map_of_mem hitem) location
      List.mem_cons_self
    exact bne_iff_ne.2 hne.symm

/-- An entry that is found has a location of possible names. -/
theorem WellFormed.isFileName
    (h : tree.WellFormed)
    {location : Location}
    {entry : Entry}
    (hentry : tree.get? location = some entry) :
    ∀ name ∈ location, IsFileName name := by
  by_cases hbelow : location = []
  · simp [hbelow]
  · exact h.names (location, entry) ((h.get?_eq_some_iff hbelow).1 hentry)

/-- The child of a folder that an item of a tree is. -/
theorem child_eq_some_iff
    {folder : Location}
    {item : Location × Entry}
    {child : String × Entry} :
    (match item.1.getLast? with
      | some name => if item.1.dropLast = folder then some (name, item.2) else none
      | none => none) = some child ↔
      item = (folder ++ [child.1], child.2) := by
  constructor
  · intro h
    split at h
    · next last hlast =>
        split at h
        · next hfolder =>
            obtain rfl := Option.some.inj h
            rw [← hfolder, List.dropLast_append_getLast? last hlast]
        · cases h
    · cases h
  · rintro rfl
    simp

/-- The children of a folder are the items of the tree right below it. -/
theorem mem_children_iff_mem_entries
    {folder : Location}
    {name : String}
    {entry : Entry} :
    (name, entry) ∈ tree.children folder ↔ (folder ++ [name], entry) ∈ tree.entries := by
  rw [children, List.mem_filterMap]
  constructor
  · rintro ⟨item, hmem, hitem⟩
    rwa [← child_eq_some_iff.1 hitem]
  · intro hmem
    exact ⟨_, hmem, child_eq_some_iff.2 rfl⟩

/-- A folder lists the entries that are found below it. -/
theorem WellFormed.mem_children_iff
    (h : tree.WellFormed)
    {folder : Location}
    {name : String}
    {entry : Entry} :
    (name, entry) ∈ tree.children folder ↔ tree.get? (folder ++ [name]) = some entry := by
  rw [mem_children_iff_mem_entries, h.get?_eq_some_iff (List.concat_ne_nil name folder)]

/-- A folder lists no name twice. -/
theorem WellFormed.children_pairwise
    (h : tree.WellFormed)
    (folder : Location) :
    (tree.children folder).Pairwise fun a b => a.1 ≠ b.1 := by
  have hdistinct : tree.entries.Pairwise fun a b => a.1 ≠ b.1 :=
    List.pairwise_map.1 h.distinct
  refine hdistinct.filterMap _ ?_
  intro item other hne child hchild another hother hsame
  apply hne
  rw [child_eq_some_iff.1 hchild, child_eq_some_iff.1 hother, hsame]

end Listing

section Changes

variable {tree : FileTree}

/-- Trees without an entry stay well formed. -/
theorem WellFormed.remove
    (h : tree.WellFormed)
    (location : Location) :
    (tree.remove location).WellFormed where
  distinct := h.distinct.sublist (List.filter_sublist.map Prod.fst)
  names item hitem := h.names item (List.mem_filter.1 hitem).1

/-- The locations of a list of entries where one more is put. -/
theorem map_fst_putIn
    (entries : List (Location × Entry))
    (location : Location)
    (entry : Entry) :
    (putIn entries location entry).map Prod.fst =
      if location ∈ entries.map Prod.fst then entries.map Prod.fst
      else entries.map Prod.fst ++ [location] := by
  induction entries with
  | nil =>
      rfl
  | cons item entries ih =>
      obtain ⟨place, found⟩ := item
      rw [putIn]
      by_cases hplace : place = location
      · subst hplace
        simp
      · have hne : location ≠ place := fun h => hplace h.symm
        rw [if_neg hplace, List.map_cons, ih]
        simp only [List.map_cons, List.mem_cons, hne, false_or]
        split <;> rfl

/-- Trees with another entry stay well formed. -/
theorem WellFormed.put
    (h : tree.WellFormed)
    {location : Location}
    (hnames : ∀ name ∈ location, IsFileName name)
    (entry : Entry) :
    (tree.put location entry).WellFormed where
  distinct := by
    change ((putIn tree.entries location entry).map Prod.fst).Nodup
    rw [map_fst_putIn]
    split
    · exact h.distinct
    · next hnew =>
        exact List.nodup_append.2 ⟨h.distinct, List.nodup_singleton location,
          fun place hplace other hother heq =>
            hnew (List.mem_singleton.1 hother ▸ heq ▸ hplace)⟩
  names := by
    intro item hitem
    have hmem : item.1 ∈ (putIn tree.entries location entry).map Prod.fst :=
      List.mem_map_of_mem hitem
    have hplaces : item.1 ∈ tree.entries.map Prod.fst ∨ item.1 = location := by
      rw [map_fst_putIn] at hmem
      split at hmem
      · exact .inl hmem
      · exact (List.mem_append.1 hmem).imp id List.mem_singleton.1
    rcases hplaces with hold | hnew
    · obtain ⟨old, hold, hsame⟩ := List.mem_map.1 hold
      rw [← hsame]
      exact h.names old hold
    · rw [hnew]
      exact hnames

end Changes

end FileTree
end Storage
end CaptureKit
