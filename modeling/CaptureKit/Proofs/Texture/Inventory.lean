import CaptureKit.Proofs.Storage.EntryAccess
import CaptureKit.Texture.Folder
import Mathlib.Data.List.Sort

/-!
# The textures of a folder

The textures of a folder are its entries with the name of a texture, folders and links apart, each
once, in the order of their names.  The path of a texture ends in its name, behind the path of the
folder.

Main statements: which textures a folder has (`mem_ofEntries_iff`), and that folders with the
same textures list them the same way (`ofEntries_precedes`, `eq_of_precedes`).
-/

namespace CaptureKit
namespace Texture

open Storage Text

section Paths

variable {folder name other : String}

/-- The path of an entry ends in its name, behind the names of the folder. -/
theorem endsIn_entryPath
    (folder : String)
    (hname : IsFileName name) :
    EndsIn (entryPath folder name) (namesOf folder) name := by
  have hne : name.toList ≠ [] := fun h => hname.1.2.1 (String.toList_inj.1 h)
  have hslash : '/' ∉ name.toList := hname.2
  obtain ⟨front, hpath, hfront⟩ :
      ∃ front, (entryPath folder name).toList = front ++ '/' :: name.toList ∧
        names front = names folder.toList := by
    rw [entryPath]
    by_cases hends : endsInSlash folder.toList = true
    · obtain ⟨front, hfront⟩ := List.getLast?_eq_some_iff.1 (beq_iff_eq.1 hends)
      refine ⟨front, by rw [if_pos hends, String.toList_append, hfront]; simp, ?_⟩
      rw [hfront, names_append_slash]
      exact (List.append_nil _).symm
    · exact ⟨folder.toList, by rw [if_neg hends]; simp, rfl⟩
  refine ⟨hname, ?_, ?_⟩
  · rw [namesOf, hpath, names_append_slash, hfront, names_of_slash_not_mem hslash hne,
      List.map_append, List.map_singleton, String.ofList_toList]
    rfl
  · rw [endsInSlash, hpath, List.getLast?_append, List.getLast?_cons,
      List.getLast?_eq_some_getLast hne]
    refine beq_eq_false_iff_ne.2 fun h => hslash ?_
    have hlast : name.toList.getLast hne = '/' := by simpa using h
    exact hlast ▸ List.getLast_mem hne

theorem isAbsolute_entryPath
    (habsolute : isAbsolute folder.toList = true)
    (name : String) :
    isAbsolute (entryPath folder name).toList = true := by
  rw [isAbsolute] at habsolute ⊢
  obtain ⟨rest, hrest⟩ := List.head?_eq_some_iff.1 (beq_iff_eq.1 habsolute)
  rw [entryPath]
  split <;> simp [hrest]

/-- Entries of a folder with the same path are the same. -/
theorem entryPath_inj :
    entryPath folder name = entryPath folder other ↔ name = other := by
  refine ⟨fun h => ?_, congrArg (entryPath folder)⟩
  rw [entryPath, entryPath] at h
  split at h
  · exact (String.append_right_inj folder).1 h
  · exact (String.append_right_inj _).1 h

end Paths

section Textures

variable {tree : FileTree} {folder : String} {location : Location}

/-- An earlier and a later texture of a folder. -/
def Precedes (folder : String) (a b : Dump) : Prop :=
  ∃ earlier later, a.path = entryPath folder earlier ∧ b.path = entryPath folder later ∧
    earlier ≤ later ∧ earlier ≠ later

/-- The path of an entry that is there ends in its name. -/
theorem endsIn_of_get?_eq_some
    (htree : tree.WellFormed)
    (folder : String)
    {name : String}
    {entry : Entry}
    (hentry : tree.get? (location ++ [name]) = some entry) :
    EndsIn (entryPath folder name) (namesOf folder) name :=
  endsIn_entryPath folder (htree.isFileName hentry name (by simp))

theorem asTexture?_eq_some_iff
    {name : String}
    {entry : Entry}
    {dump : Dump} :
    asTexture? folder (name, entry) = some dump ↔
      entry.IsLeaf ∧ isDumpName name.toList = true ∧
        dump = ⟨entryPath folder name, entry.size⟩ := by
  rw [asTexture?, Option.ite_none_right_eq_some, Option.some.injEq, and_assoc, @eq_comm _ dump]

/-- The textures among entries are those with the name of a texture, folders and links apart. -/
theorem mem_ofEntries_iff_leaf
    {entries : List (String × Entry)}
    {dump : Dump} :
    dump ∈ ofEntries folder entries ↔
      ∃ name entry, (name, entry) ∈ entries ∧ entry.IsLeaf ∧
        isDumpName name.toList = true ∧ dump = ⟨entryPath folder name, entry.size⟩ := by
  simp only [ofEntries, List.mem_filterMap, List.mem_mergeSort, Prod.exists,
    asTexture?_eq_some_iff]

/-- The textures of a folder are its entries with the name of a texture, folders and links
apart. -/
theorem mem_ofEntries_iff
    (htree : tree.WellFormed)
    {dump : Dump} :
    dump ∈ ofEntries folder (tree.children location) ↔
      ∃ name entry, tree.get? (location ++ [name]) = some entry ∧ entry.IsLeaf ∧
        isDumpName name.toList = true ∧ dump = ⟨entryPath folder name, entry.size⟩ := by
  simp only [mem_ofEntries_iff_leaf, htree.mem_children_iff]

/-- Textures come in the order of their names, each once, if no two entries have the same name. -/
theorem ofEntries_precedes
    (folder : String)
    {entries : List (String × Entry)}
    (h : entries.Pairwise fun a b => a.1 ≠ b.1) :
    (ofEntries folder entries).Pairwise (Precedes folder) := by
  have hsorted : (entries.mergeSort fun a b => a.1 ≤ b.1).Pairwise fun a b => a.1 ≤ b.1 := by
    refine (List.pairwise_mergeSort ?_ ?_ _).imp of_decide_eq_true
    · intro a b c hab hbc
      exact decide_eq_true
        (String.le_trans (of_decide_eq_true hab) (of_decide_eq_true hbc))
    · intro a b
      rw [Bool.or_eq_true, decide_eq_true_iff, decide_eq_true_iff]
      exact String.le_total a.1 b.1
  have hdistinct : (entries.mergeSort fun a b => a.1 ≤ b.1).Pairwise fun a b => a.1 ≠ b.1 :=
    ((List.mergeSort_perm _ _).pairwise_iff Ne.symm).2 h
  refine (hsorted.and hdistinct).filterMap _ ?_
  rintro ⟨earlier, entry⟩ ⟨later, entry'⟩ ⟨hle, hne⟩ a ha b hb
  obtain ⟨-, -, rfl⟩ := asTexture?_eq_some_iff.1 ha
  obtain ⟨-, -, rfl⟩ := asTexture?_eq_some_iff.1 hb
  exact ⟨earlier, later, rfl, rfl, hle, hne⟩

/-- The textures of a folder come in the order of their names, each once. -/
theorem ofEntries_pairwise
    (htree : tree.WellFormed)
    (folder : String)
    (location : Location) :
    (ofEntries folder (tree.children location)).Pairwise (Precedes folder) :=
  ofEntries_precedes folder (htree.children_pairwise location)

/-- Textures that come in order are known by which they are. -/
theorem eq_of_precedes
    {textures others : List Dump}
    (h : textures.Pairwise (Precedes folder))
    (h' : others.Pairwise (Precedes folder))
    (hmem : ∀ dump, dump ∈ textures ↔ dump ∈ others) :
    textures = others := by
  have hasymm : ∀ a b, Precedes folder a b → ¬ Precedes folder b a := by
    rintro a b ⟨earlier, later, ha, hb, hle, hne⟩ ⟨earlier', later', hb', ha', hle', -⟩
    obtain rfl := entryPath_inj.1 (ha.symm.trans ha')
    obtain rfl := entryPath_inj.1 (hb.symm.trans hb')
    exact hne (String.le_antisymm hle hle')
  have : Std.Irrefl (Precedes folder) := ⟨fun a ha => hasymm a a ha ha⟩
  have : Std.Antisymm (Precedes folder) := ⟨fun a b ha hb => absurd hb (hasymm a b ha)⟩
  exact h.eq_of_mem_iff h' hmem

/-- No two textures of a folder have the same path. -/
theorem paths_nodup
    {textures : List Dump}
    (h : textures.Pairwise (Precedes folder)) :
    (textures.map Dump.path).Nodup := by
  refine List.pairwise_map.2 (h.imp ?_)
  rintro a b ⟨earlier, later, ha, hb, -, hne⟩ hsame
  exact hne (entryPath_inj.1 (ha.symm.trans (hsame.trans hb)))

end Textures

end Texture
end CaptureKit
