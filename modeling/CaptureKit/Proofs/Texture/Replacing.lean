import CaptureKit.Proofs.Texture.Inventory
import CaptureKit.Texture.Replacement

/-!
# Files after copies were replaced

Replacing a copy changes the entry of its name in the folder and nothing else.  The copies are
neither folders nor links, so the way to the folder stays the same from one replacement to the next,
and every path goes on to lead where it led.

Main statements: what is where after all copies among verdicts were replaced
(`replaced_of_replaceCopies`), and that they can be replaced (`exists_replaceCopies`).
-/

namespace CaptureKit
namespace Texture

open Storage FileTree Text

/-- What is at the place of a copy of an exemplar when it was replaced. -/
def Fate.leaves (exemplar : String) : Fate → Option Entry
  | .linked => some (.link exemplar)
  | .deleted => none

/-- The copies of a folder among verdicts were replaced, and no other entry has changed. -/
structure Replaced
    (fate : Fate)
    (folder : String)
    (location : Location)
    (verdicts : List Verdict)
    (tree after : FileTree) :
    Prop where
  wellFormed : after.WellFormed
  copies : ∀ name exemplar, .copy (entryPath folder name) exemplar ∈ verdicts →
    after.get? (location ++ [name]) = fate.leaves exemplar
  others : ∀ place,
    (∀ name exemplar, .copy (entryPath folder name) exemplar ∈ verdicts →
      place ≠ location ++ [name]) →
    after.get? place = tree.get? place
  paths : ∀ path exemplar, .copy path exemplar ∈ verdicts →
    pathFault? path = none ∧ (fate = .linked → pathFault? exemplar = none)

/-- The copies of a folder among verdicts are entries of it, and neither folders nor links. -/
def CopiesAreLeaves
    (folder : String)
    (location : Location)
    (verdicts : List Verdict)
    (tree : FileTree) :
    Prop :=
  ∀ path exemplar, .copy path exemplar ∈ verdicts →
    ∃ name entry, path = entryPath folder name ∧
      tree.get? (location ++ [name]) = some entry ∧ entry.IsLeaf

section One

variable {tree after : FileTree} {folder name : String} {location : Location} {count : Nat}
  {entry : Entry} {exemplar : String} {fate : Fate}

/-- Where something changes that is neither a folder nor a link, all ways stay. -/
theorem reaches_of_changed
    {front : List String}
    {place : Location}
    (hway : tree.Reaches [] front count location)
    (hentry : tree.get? place = some entry)
    (hleaf : entry.IsLeaf)
    (hothers : ∀ other, other ≠ place → after.get? other = tree.get? other) :
    after.Reaches [] front count location := by
  refine hway.mono fun other old hold hleads => (hothers other ?_).trans hold
  rintro rfl
  obtain rfl := Option.some.inj (hentry.symm.trans hold)
  exact hleads hleaf

/-- A copy that is replaced leaves its place to what its fate says. -/
theorem replaced_of_replaceCopy
    (htree : tree.WellFormed)
    (hway : tree.Reaches [] (namesOf folder) count location)
    (hcount : count ≤ linkLimit)
    (hentry : tree.get? (location ++ [name]) = some entry)
    (hleaf : entry.IsLeaf)
    (h : replaceCopy tree (entryPath folder name) exemplar fate = (after, none)) :
    after.WellFormed ∧
    (∀ place, after.get? place =
      if place = location ++ [name] then fate.leaves exemplar else tree.get? place) ∧
    pathFault? (entryPath folder name) = none ∧
    (fate = .linked → pathFault? exemplar = none) := by
  have hbelow : location ++ [name] ≠ [] := List.concat_ne_nil name location
  have hpath := endsIn_of_get?_eq_some htree folder hentry
  rw [replaceCopy] at h
  cases hremoved : tree.removeFile (entryPath folder name) with
  | error cause =>
      rw [hremoved] at h
      cases h
  | ok removed =>
      obtain ⟨hvalid, -, -, -, rfl⟩ := (removeFile_eq_ok_iff hpath hway hcount).1 hremoved
      have hget := tree.get?_remove hbelow
      rw [hremoved] at h
      cases fate with
      | deleted =>
          cases h
          exact ⟨htree.remove _, hget, hvalid, fun hfate => nomatch hfate⟩
      | linked =>
          have hway' := reaches_of_changed hway hentry hleaf fun other hother => by
            rw [hget, if_neg hother]
          cases hlinked : (tree.remove (location ++ [name])).makeLink exemplar
              (entryPath folder name) with
          | error cause =>
              simp only [hlinked] at h
              cases h
          | ok linked =>
              simp only [hlinked] at h
              cases h
              obtain ⟨htarget, -, -, -, -, rfl⟩ :=
                (makeLink_eq_ok_iff hpath hway' hcount).1 hlinked
              refine ⟨(htree.remove _).put (htree.isFileName hentry) _, fun place => ?_, hvalid,
                fun _ => htarget⟩
              rw [get?_put _ hbelow, hget]
              split <;> rfl

/-- A copy can be replaced if nothing is wrong with the paths themselves and the storage refuses
nothing. -/
theorem exists_replaceCopy
    (htree : tree.WellFormed)
    (hway : tree.Reaches [] (namesOf folder) count location)
    (hcount : count ≤ linkLimit)
    (hsealed : isSealed location = false)
    (hfree : tree.limits = [])
    (hentry : tree.get? (location ++ [name]) = some entry)
    (hleaf : entry.IsLeaf)
    (hvalid : pathFault? (entryPath folder name) = none)
    (htarget : pathFault? exemplar = none)
    (fate : Fate) :
    ∃ after, replaceCopy tree (entryPath folder name) exemplar fate = (after, none) ∧
      after.limits = [] := by
  have hbelow : location ++ [name] ≠ [] := List.concat_ne_nil name location
  have hpath := endsIn_of_get?_eq_some htree folder hentry
  have hget := tree.get?_remove hbelow
  have hlimits := limitsAt_eq_free hfree (location ++ [name])
  have hway' := reaches_of_changed hway hentry hleaf fun other hother => by
    rw [hget, if_neg hother]
  have hremoved := (removeFile_eq_ok_iff hpath hway hcount).2
    ⟨hvalid, hsealed, by rw [hlimits]; rfl, ⟨_, hentry, (Entry.isLeaf_iff.1 hleaf).1⟩, rfl⟩
  have hlinked := (makeLink_eq_ok_iff hpath hway' hcount).2
    ⟨htarget, hvalid, (hget _).trans (if_pos rfl), hsealed,
      by rw [limitsAt_remove, hlimits]; rfl, rfl⟩
  rw [replaceCopy, hremoved]
  cases fate with
  | deleted => exact ⟨_, rfl, hfree⟩
  | linked =>
      dsimp only
      rw [hlinked]
      exact ⟨_, rfl, hfree⟩

end One

section All

variable {tree after : FileTree} {folder : String} {location : Location} {count : Nat}
  {fate : Fate} {verdicts : List Verdict}

/-- An exemplar among the verdicts changes nothing. -/
theorem Replaced.cons_exemplar
    (h : Replaced fate folder location verdicts tree after)
    (path : String) :
    Replaced fate folder location (.exemplar path :: verdicts) tree after := by
  have hmem : ∀ path' exemplar,
      .copy path' exemplar ∈ Verdict.exemplar path :: verdicts → .copy path' exemplar ∈ verdicts :=
    fun path' exemplar hcopy => (List.mem_cons.1 hcopy).resolve_left nofun
  exact ⟨h.wellFormed, fun name exemplar hcopy => h.copies name exemplar (hmem _ _ hcopy),
    fun place hplace => h.others place fun name exemplar hcopy =>
      hplace name exemplar (List.mem_cons_of_mem _ hcopy),
    fun path' exemplar hcopy => h.paths path' exemplar (hmem _ _ hcopy)⟩

/-- A copy that was replaced first stays as it is. -/
theorem Replaced.cons_copy
    {replaced : FileTree}
    {name exemplar : String}
    (h : Replaced fate folder location verdicts replaced after)
    (hnew : entryPath folder name ∉ verdicts.map Verdict.path)
    (hget : ∀ place, replaced.get? place =
      if place = location ++ [name] then fate.leaves exemplar else tree.get? place)
    (hpaths : pathFault? (entryPath folder name) = none ∧
      (fate = .linked → pathFault? exemplar = none)) :
    Replaced fate folder location (.copy (entryPath folder name) exemplar :: verdicts)
      tree after := by
  have hapart : ∀ other exemplar', .copy (entryPath folder other) exemplar' ∈ verdicts →
      location ++ [name] ≠ location ++ [other] := by
    intro other exemplar' hcopy hsame
    obtain rfl : name = other := by simpa using hsame
    exact hnew (List.mem_map.2 ⟨_, hcopy, rfl⟩)
  refine ⟨h.wellFormed, ?_, ?_, ?_⟩
  · intro other exemplar' hcopy
    rcases List.mem_cons.1 hcopy with hfirst | hlater
    · obtain ⟨hpath, rfl⟩ := Verdict.copy.inj hfirst
      obtain rfl := entryPath_inj.1 hpath
      rw [h.others _ hapart, hget, if_pos rfl]
    · exact h.copies other exemplar' hlater
  · intro place hplace
    rw [h.others place fun other exemplar' hcopy =>
        hplace other exemplar' (List.mem_cons_of_mem _ hcopy),
      hget, if_neg (hplace name exemplar List.mem_cons_self)]
  · intro path exemplar' hcopy
    rcases List.mem_cons.1 hcopy with hfirst | hlater
    · obtain ⟨rfl, rfl⟩ := Verdict.copy.inj hfirst
      exact hpaths
    · exact h.paths path exemplar' hlater

theorem CopiesAreLeaves.tail
    {verdict : Verdict}
    (h : CopiesAreLeaves folder location (verdict :: verdicts) tree) :
    CopiesAreLeaves folder location verdicts tree :=
  fun path exemplar hcopy => h path exemplar (List.mem_cons_of_mem _ hcopy)

/-- The copies that are left to replace are still there, since no path comes twice. -/
theorem CopiesAreLeaves.of_changed
    {replaced : FileTree}
    {name : String}
    (h : CopiesAreLeaves folder location verdicts tree)
    (hnew : entryPath folder name ∉ verdicts.map Verdict.path)
    (hothers : ∀ place, place ≠ location ++ [name] → replaced.get? place = tree.get? place) :
    CopiesAreLeaves folder location verdicts replaced := by
  intro path exemplar hcopy
  obtain ⟨other, entry, rfl, hentry, hleaf⟩ := h path exemplar hcopy
  refine ⟨other, entry, rfl, (hothers _ fun hsame => hnew ?_).trans hentry, hleaf⟩
  obtain rfl : other = name := by simpa using hsame
  exact List.mem_map.2 ⟨_, hcopy, rfl⟩

/-- When all copies among verdicts were replaced, they and nothing else have changed. -/
theorem replaced_of_replaceCopies
    (htree : tree.WellFormed)
    (hway : tree.Reaches [] (namesOf folder) count location)
    (hcount : count ≤ linkLimit)
    (hcopies : CopiesAreLeaves folder location verdicts tree)
    (hdistinct : (verdicts.map Verdict.path).Nodup)
    (h : replaceCopies fate tree verdicts = (after, none)) :
    Replaced fate folder location verdicts tree after := by
  induction verdicts generalizing tree with
  | nil =>
      cases h
      exact ⟨htree, nofun, fun _ _ => rfl, nofun⟩
  | cons verdict verdicts ih =>
      obtain ⟨hnew, hrest⟩ := List.nodup_cons.1 hdistinct
      cases verdict with
      | exemplar path =>
          rw [replaceCopies] at h
          exact (ih htree hway hcopies.tail hrest h).cons_exemplar path
      | copy path exemplar =>
          obtain ⟨name, entry, rfl, hentry, hleaf⟩ := hcopies path exemplar List.mem_cons_self
          rw [replaceCopies] at h
          cases hstep : replaceCopy tree (entryPath folder name) exemplar fate with
          | mk replaced fault =>
          rw [hstep] at h
          cases fault with
          | some fault =>
              cases h
          | none =>
              obtain ⟨hreplaced, hget, hpaths⟩ :=
                replaced_of_replaceCopy htree hway hcount hentry hleaf hstep
              have hothers : ∀ place, place ≠ location ++ [name] →
                  replaced.get? place = tree.get? place :=
                fun place hplace => (hget place).trans (if_neg hplace)
              exact (ih hreplaced (reaches_of_changed hway hentry hleaf hothers)
                (hcopies.tail.of_changed hnew hothers) hrest h).cons_copy hnew hget hpaths

/-- All copies among verdicts can be replaced if nothing is wrong with the paths themselves and the
storage refuses nothing. -/
theorem exists_replaceCopies
    (htree : tree.WellFormed)
    (hway : tree.Reaches [] (namesOf folder) count location)
    (hcount : count ≤ linkLimit)
    (hsealed : isSealed location = false)
    (hfree : tree.limits = [])
    (hcopies : CopiesAreLeaves folder location verdicts tree)
    (hdistinct : (verdicts.map Verdict.path).Nodup)
    (hvalid : ∀ path exemplar, .copy path exemplar ∈ verdicts →
      pathFault? path = none ∧ pathFault? exemplar = none)
    (fate : Fate) :
    ∃ after, replaceCopies fate tree verdicts = (after, none) := by
  induction verdicts generalizing tree with
  | nil =>
      exact ⟨tree, rfl⟩
  | cons verdict verdicts ih =>
      obtain ⟨hnew, hrest⟩ := List.nodup_cons.1 hdistinct
      have hlater : ∀ path exemplar, .copy path exemplar ∈ verdicts →
          pathFault? path = none ∧ pathFault? exemplar = none :=
        fun path exemplar hcopy => hvalid path exemplar (List.mem_cons_of_mem _ hcopy)
      cases verdict with
      | exemplar path =>
          exact ih htree hway hfree hcopies.tail hrest hlater
      | copy path exemplar =>
          obtain ⟨name, entry, rfl, hentry, hleaf⟩ := hcopies path exemplar List.mem_cons_self
          obtain ⟨hpath, htarget⟩ := hvalid _ exemplar List.mem_cons_self
          obtain ⟨replaced, hstep, hfree'⟩ :=
            exists_replaceCopy htree hway hcount hsealed hfree hentry hleaf hpath htarget fate
          obtain ⟨hreplaced, hget, -⟩ :=
            replaced_of_replaceCopy htree hway hcount hentry hleaf hstep
          have hothers : ∀ place, place ≠ location ++ [name] →
              replaced.get? place = tree.get? place :=
            fun place hplace => (hget place).trans (if_neg hplace)
          rw [replaceCopies, hstep]
          exact ih hreplaced (reaches_of_changed hway hentry hleaf hothers) hfree'
            (hcopies.tail.of_changed hnew hothers) hrest hlater

end All

end Texture
end CaptureKit
