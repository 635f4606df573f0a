import CaptureKit.Proofs.Texture.Replacing

/-!
# Replacements that fail

A copy is removed before the link in its place is made, and nothing is put back.  So a replacement
that fails has left all files as they were, unless it is the link that was refused.  Then the
copy is gone.  A link may be refused by the storage, and is if its exemplar cannot be a path.

Main statement: what a replacement that fails leaves (`unchanged_or_unlinked_of_replaceCopy`).
-/

namespace CaptureKit
namespace Texture

open Storage FileTree

/-- An entry was removed by a path, and the link to take its place was refused. -/
structure Unlinked
    (tree left : FileTree)
    (path exemplar : String)
    (cause : IoFault)
    (place : Location)
    (entry : Entry) :
    Prop where
  named : tree.locate .keep path = .ok (.found place entry)
  notFolder : entry ≠ .folder
  left_eq : left = tree.remove place
  gone : left.get? place = none
  others : ∀ other, other ≠ place → left.get? other = tree.get? other
  refused : left.makeLink exemplar path = .error cause

section Failing

variable {tree left : FileTree} {path exemplar : String} {fate : Fate} {cause : IoFault}

/-- The link that is refused is the one in place of the entry that was removed. -/
theorem exists_unlinked
    (hremoved : tree.removeFile path = .ok left)
    (hrefused : left.makeLink exemplar path = .error cause) :
    ∃ place entry, Unlinked tree left path exemplar cause place entry := by
  obtain ⟨front, name, count, folder, hpath, hway, hcount⟩ := exists_reaches_of_removeFile hremoved
  obtain ⟨hvalid, -, -, ⟨entry, hentry, hfolder⟩, rfl⟩ :=
    (removeFile_eq_ok_iff hpath hway hcount).1 hremoved
  have hget := tree.get?_remove (List.concat_ne_nil name folder)
  have hgone : (tree.remove (folder ++ [name])).get? (folder ++ [name]) = none := by
    rw [hget, if_pos rfl]
  have hothers : ∀ other, other ≠ folder ++ [name] →
      (tree.remove (folder ++ [name])).get? other = tree.get? other := by
    intro other hother
    rw [hget, if_neg hother]
  refine ⟨folder ++ [name], entry, ?_, hfolder, rfl, hgone, hothers, hrefused⟩
  rw [locate, hpath.route_eq, locateNames_keep hpath hway hcount, hvalid, hentry]

/-- An exemplar that cannot be a path costs every copy that can be removed. -/
theorem replaceCopy_of_pathFault
    (hremoved : tree.removeFile path = .ok left)
    (hexemplar : pathFault? exemplar = some cause) :
    replaceCopy tree path exemplar .linked = (left, some ⟨path, cause⟩) := by
  obtain ⟨front, name, count, folder, hpath, hway, hcount⟩ := exists_reaches_of_removeFile hremoved
  have hvalid := ((removeFile_eq_ok_iff hpath hway hcount).1 hremoved).1
  rw [replaceCopy, hremoved]
  dsimp only
  rw [makeLink_eq _ _ (no_nul_of_pathFault?_eq_none hvalid), hexemplar]

/-- A replacement that fails has left everything as it was, or it has removed the one entry that
the path names, and could put no link in its place. -/
theorem unchanged_or_unlinked_of_replaceCopy
    {fault : ReplacementFault}
    (h : replaceCopy tree path exemplar fate = (left, some fault)) :
    fault.path = path ∧
    (left = tree ∧ tree.removeFile path = .error fault.cause ∨
      fate = .linked ∧
        ∃ place entry, Unlinked tree left path exemplar fault.cause place entry) := by
  rw [replaceCopy] at h
  cases hremoved : tree.removeFile path with
  | error cause =>
      rw [hremoved] at h
      cases h
      exact ⟨rfl, .inl ⟨rfl, rfl⟩⟩
  | ok removed =>
      rw [hremoved] at h
      cases fate with
      | deleted =>
          cases h
      | linked =>
          dsimp only at h
          cases hlinked : removed.makeLink exemplar path with
          | ok linked =>
              rw [hlinked] at h
              cases h
          | error cause =>
              rw [hlinked] at h
              cases h
              exact ⟨rfl, .inr ⟨rfl, exists_unlinked hremoved hlinked⟩⟩

end Failing

section Lost

/-- A folder with one texture. -/
def oneTexture : FileTree :=
  .ofEntries [(["d"], .folder), (["d", "EID_1_tex0-a"], .file [97])]

theorem oneTexture_removeFile :
    oneTexture.removeFile "/d/EID_1_tex0-a" = .ok (oneTexture.remove ["d", "EID_1_tex0-a"]) := by
  have hpath : EndsIn "/d/EID_1_tex0-a" ["d"] "EID_1_tex0-a" :=
    ⟨by decide, by decide, by decide⟩
  have hway : oneTexture.Reaches [] ["d"] 0 ["d"] :=
    .enter rfl (by decide) rfl (.done rfl)
  exact (removeFile_eq_ok_iff hpath hway (Nat.zero_le _)).2
    ⟨by decide, by decide, rfl, ⟨.file [97], rfl, by decide⟩, rfl⟩

theorem unchanged_or_unlinked_of_replaceCopy_oneTexture :
    replaceCopy oneTexture "/d/EID_1_tex0-a" "x\x00y" .linked =
      (oneTexture.remove ["d", "EID_1_tex0-a"], some ⟨"/d/EID_1_tex0-a", .nulInName⟩) ∧
    ∃ place entry, Unlinked oneTexture (oneTexture.remove ["d", "EID_1_tex0-a"])
      "/d/EID_1_tex0-a" "x\x00y" .nulInName place entry := by
  have hlost := replaceCopy_of_pathFault oneTexture_removeFile
    (show pathFault? "x\x00y" = some .nulInName by decide)
  obtain ⟨-, hleft⟩ := unchanged_or_unlinked_of_replaceCopy hlost
  refine ⟨hlost, ?_⟩
  rcases hleft with ⟨hsame, -⟩ | ⟨-, hunlinked⟩
  · exact absurd (congrArg FileTree.entries hsame) (by decide)
  · exact hunlinked

/-- A texture is not always still there when it could not be replaced. -/
theorem texture_lost_by_failed_replacement :
    ¬ ∀ (tree left : FileTree) (path exemplar : String) (fate : Fate) (fault : ReplacementFault),
      replaceCopy tree path exemplar fate = (left, some fault) → left = tree := by
  intro h
  have hlost := replaceCopy_of_pathFault oneTexture_removeFile
    (show pathFault? "x\x00y" = some .nulInName by decide)
  have hsame := h _ _ _ _ _ _ hlost
  exact absurd (congrArg FileTree.entries hsame) (by decide)

end Lost

end Texture
end CaptureKit
