import CaptureKit.Proofs.Texture.Replacing
import CaptureKit.Proofs.Texture.Verdicts

/-!
# Replacing the copies in a folder

The copies among the textures of a folder are replaced by links to their exemplars, or deleted.
The exemplars and all other entries stay.  What is left are the exemplars, which were found
different from one another already, so a second search finds no copies.

A link to an exemplar is reached by the way to the folder and goes the same way once more.  So
its file can be read exactly if twice the links on this way and the link itself are not too many.

Main statement: what is where after the copies of a folder were replaced, and what is found when
they are looked for again (`findCopies_after_replaceCopies`).
-/

namespace CaptureKit
namespace Texture

open Storage FileTree Text

/-- The copies of a folder were replaced, over whose path there are `count` links. -/
structure Deduplicated
    (judge : Except IoFault Bytes → Except IoFault Bytes → Except IoFault Bool)
    (fate : Fate)
    (folder : String)
    (location : Location)
    (count : Nat)
    (verdicts : List Verdict)
    (tree after : FileTree) :
    Prop where
  /-- All entries that are no copies are as before. -/
  others : ∀ place,
    (∀ name exemplar, .copy (entryPath folder name) exemplar ∈ verdicts →
      place ≠ location ++ [name]) →
    after.get? place = tree.get? place
  /-- An exemplar is the entry that it was, neither a folder nor a link. -/
  exemplars : ∀ path, .exemplar path ∈ verdicts →
    ∃ name entry, path = entryPath folder name ∧ entry.IsLeaf ∧
      tree.get? (location ++ [name]) = some entry ∧
      after.get? (location ++ [name]) = some entry
  /-- A copy is gone, or a link to an exemplar. -/
  copies : ∀ path exemplar, .copy path exemplar ∈ verdicts →
    .exemplar exemplar ∈ verdicts ∧
    ∃ name, path = entryPath folder name ∧
      after.get? (location ++ [name]) = fate.leaves exemplar
  /-- No link leads to nothing or to another link: its exemplar is found by the path that it
  holds. -/
  targets : fate = .linked → ∀ path exemplar, .copy path exemplar ∈ verdicts →
    ∃ name entry, exemplar = entryPath folder name ∧ entry.IsLeaf ∧
      tree.get? (location ++ [name]) = some entry ∧
      after.entryAt exemplar = .ok (location ++ [name], entry)
  /-- What is read is what it was, if only equal contents are judged the same. -/
  contents : fate = .linked →
    (∀ earlier ∈ ofEntries folder (tree.children location),
      ∀ later ∈ ofEntries folder (tree.children location),
        judged judge tree earlier.path later.path = .ok true →
          tree.readBytes earlier.path = tree.readBytes later.path) →
    2 * count < linkLimit →
    ∀ verdict ∈ verdicts, after.readBytes verdict.path = tree.readBytes verdict.path
  /-- Behind too many links no copy can be read. -/
  unreadable : fate = .linked → linkLimit ≤ 2 * count →
    ∀ path exemplar, .copy path exemplar ∈ verdicts →
      after.readBytes path = .error (.os .tooManyLinks)

section Folder

variable {judge : Except IoFault Bytes → Except IoFault Bytes → Except IoFault Bool}
  {tree after : FileTree} {folder : String} {location : Location} {count : Nat} {fate : Fate}
  {same : String → String → Except IoFault Bool} {verdicts : List Verdict}

/-- Each verdict is about a texture of the folder. -/
theorem Classified.exists_texture
    (hverdicts : Classified same [] (ofEntries folder (tree.children location)) verdicts)
    {verdict : Verdict}
    (hmem : verdict ∈ verdicts) :
    ∃ texture ∈ ofEntries folder (tree.children location), texture.path = verdict.path := by
  have hpath : verdict.path ∈ verdicts.map Verdict.path := List.mem_map_of_mem hmem
  rw [hverdicts.map_path] at hpath
  exact List.mem_map.1 hpath

/-- Each verdict is about an entry of the folder that is neither a folder nor a link. -/
theorem Classified.exists_entry
    (htree : tree.WellFormed)
    (hverdicts : Classified same [] (ofEntries folder (tree.children location)) verdicts)
    {verdict : Verdict}
    (hmem : verdict ∈ verdicts) :
    ∃ name entry, verdict.path = entryPath folder name ∧
      tree.get? (location ++ [name]) = some entry ∧ entry.IsLeaf := by
  obtain ⟨texture, htexture, hpath⟩ := hverdicts.exists_texture hmem
  obtain ⟨name, entry, hentry, hleaf, -, rfl⟩ := (mem_ofEntries_iff htree).1 htexture
  exact ⟨name, entry, hpath.symm, hentry, hleaf⟩

/-- The paths of the exemplars among verdicts. -/
theorem mem_exemplars_iff
    {path : String} :
    path ∈ (verdicts.filter Verdict.isExemplar).map Verdict.path ↔ .exemplar path ∈ verdicts := by
  rw [List.mem_map]
  constructor
  · rintro ⟨verdict, hmem, rfl⟩
    obtain ⟨hmem, hkind⟩ := List.mem_filter.1 hmem
    cases verdict with
    | exemplar path => exact hmem
    | copy path exemplar => cases hkind
  · intro hmem
    exact ⟨.exemplar path, List.mem_filter.2 ⟨hmem, rfl⟩, rfl⟩

/-- No texture of a folder has two verdicts. -/
theorem Classified.eq_of_path_eq
    (htree : tree.WellFormed)
    (hverdicts : Classified same [] (ofEntries folder (tree.children location)) verdicts)
    {verdict other : Verdict}
    (hmem : verdict ∈ verdicts)
    (hother : other ∈ verdicts)
    (hpath : verdict.path = other.path) :
    verdict = other := by
  have hdistinct := paths_nodup (ofEntries_pairwise htree folder location)
  rw [← hverdicts.map_path] at hdistinct
  exact List.inj_on_of_nodup_map hdistinct hmem hother hpath

/-- An exemplar is not changed when the copies are replaced. -/
theorem Replaced.get?_exemplar
    (htree : tree.WellFormed)
    (hverdicts : Classified same [] (ofEntries folder (tree.children location)) verdicts)
    (hafter : Replaced fate folder location verdicts tree after)
    {name : String}
    (hmem : .exemplar (entryPath folder name) ∈ verdicts) :
    after.get? (location ++ [name]) = tree.get? (location ++ [name]) := by
  refine hafter.others _ fun other exemplar hcopy hsame => ?_
  obtain rfl : name = other := by simpa using hsame
  cases hverdicts.eq_of_path_eq htree hmem hcopy rfl

/-- All ways stay when the copies are replaced. -/
theorem Replaced.reaches
    (htree : tree.WellFormed)
    (hverdicts : Classified same [] (ofEntries folder (tree.children location)) verdicts)
    (hafter : Replaced fate folder location verdicts tree after)
    {front : List String}
    (hway : tree.Reaches [] front count location) :
    after.Reaches [] front count location := by
  refine hway.mono fun place old hold hleads => (hafter.others place ?_).trans hold
  rintro name exemplar hcopy rfl
  obtain ⟨other, entry, hpath, hentry, hleaf⟩ := hverdicts.exists_entry htree hcopy
  obtain rfl : name = other := entryPath_inj.1 hpath
  obtain rfl := Option.some.inj (hentry.symm.trans hold)
  exact hleads hleaf

/-- What is no link in the folder was there before, and is no copy: a copy leaves a link or
nothing. -/
theorem Replaced.get?_leaf
    (hafter : Replaced fate folder location verdicts tree after)
    {name : String}
    {entry : Entry}
    (hentry : after.get? (location ++ [name]) = some entry)
    (hleaf : entry.IsLeaf) :
    tree.get? (location ++ [name]) = some entry ∧
    ∀ exemplar, .copy (entryPath folder name) exemplar ∉ verdicts := by
  have hnocopy : ∀ exemplar, .copy (entryPath folder name) exemplar ∉ verdicts := by
    intro exemplar hcopy
    rw [hafter.copies name exemplar hcopy] at hentry
    cases fate <;> cases hentry
    exact hleaf
  refine ⟨?_, hnocopy⟩
  rw [← hafter.others, hentry]
  intro other exemplar hcopy hsame
  obtain rfl : name = other := by simpa using hsame
  exact hnocopy exemplar hcopy

/-- What is left are the exemplars. -/
theorem Replaced.ofEntries_eq
    (htree : tree.WellFormed)
    (hverdicts : Classified same [] (ofEntries folder (tree.children location)) verdicts)
    (hafter : Replaced fate folder location verdicts tree after)
    {kept : List Dump}
    (hsublist : kept.Sublist (ofEntries folder (tree.children location)))
    (hkept : kept.map Dump.path = (verdicts.filter Verdict.isExemplar).map Verdict.path) :
    ofEntries folder (after.children location) = kept := by
  have hpairwise := ofEntries_pairwise htree folder location
  have hexemplar : ∀ path, path ∈ kept.map Dump.path ↔ .exemplar path ∈ verdicts := by
    intro path
    rw [hkept, mem_exemplars_iff]
  refine eq_of_precedes (ofEntries_pairwise hafter.wellFormed folder location)
    (hpairwise.sublist hsublist) fun dump => ?_
  rw [mem_ofEntries_iff hafter.wellFormed]
  constructor
  · rintro ⟨name, entry, hentry, hleaf, hname, rfl⟩
    obtain ⟨hbefore, hnocopy⟩ := hafter.get?_leaf hentry hleaf
    have htexture : Dump.mk (entryPath folder name) entry.size ∈
        ofEntries folder (tree.children location) :=
      (mem_ofEntries_iff htree).2 ⟨name, entry, hbefore, hleaf, hname, rfl⟩
    have hverdict : entryPath folder name ∈ verdicts.map Verdict.path := by
      rw [hverdicts.map_path]
      exact List.mem_map.2 ⟨_, htexture, rfl⟩
    obtain ⟨verdict, hmem, hpath⟩ := List.mem_map.1 hverdict
    cases verdict with
    | copy path exemplar =>
        obtain rfl : path = entryPath folder name := hpath
        exact absurd hmem (hnocopy exemplar)
    | exemplar path =>
        obtain rfl : path = entryPath folder name := hpath
        obtain ⟨dump, hdump, hpath⟩ := List.mem_map.1 ((hexemplar _).2 hmem)
        rwa [← List.inj_on_of_nodup_map (paths_nodup hpairwise) (hsublist.subset hdump) htexture
          hpath]
  · intro hmem
    obtain ⟨name, entry, hentry, hleaf, hname, rfl⟩ :=
      (mem_ofEntries_iff htree).1 (hsublist.subset hmem)
    refine ⟨name, entry, ?_, hleaf, hname, rfl⟩
    rw [hafter.get?_exemplar htree hverdicts ((hexemplar _).1 (List.mem_map_of_mem hmem)), hentry]

/-- What is read by the path of an exemplar is what it was. -/
theorem Replaced.readBytes_exemplar
    (htree : tree.WellFormed)
    (hway : tree.Reaches [] (namesOf folder) count location)
    (hcount : count ≤ linkLimit)
    (hverdicts : Classified same [] (ofEntries folder (tree.children location)) verdicts)
    (hafter : Replaced fate folder location verdicts tree after)
    {path : String}
    (hmem : .exemplar path ∈ verdicts) :
    after.readBytes path = tree.readBytes path := by
  obtain ⟨name, entry, rfl, hentry, hleaf⟩ := hverdicts.exists_entry htree hmem
  have hpath := endsIn_of_get?_eq_some htree folder hentry
  have hentry' := (hafter.get?_exemplar htree hverdicts hmem).trans hentry
  rw [readBytes_of_leaf hpath hway hcount hentry hleaf,
    readBytes_of_leaf hpath (hafter.reaches htree hverdicts hway) hcount hentry' hleaf]

/-- The exemplars that are left are exemplars again. -/
theorem Replaced.classified
    (htree : tree.WellFormed)
    (hway : tree.Reaches [] (namesOf folder) count location)
    (hcount : count ≤ linkLimit)
    (hverdicts : Classified (judged judge tree) [] (ofEntries folder (tree.children location))
      verdicts)
    (hafter : Replaced fate folder location verdicts tree after) :
    Classified (judged judge after) [] (ofEntries folder (after.children location))
      (verdicts.filter Verdict.isExemplar) := by
  obtain ⟨kept, hsublist, hkept⟩ := hverdicts.exists_kept
  rw [hafter.ofEntries_eq htree hverdicts hsublist hkept.map_path.symm]
  have hreads : ∀ texture ∈ kept, after.readBytes texture.path = tree.readBytes texture.path := by
    intro texture hmem
    refine hafter.readBytes_exemplar htree hway hcount hverdicts (mem_exemplars_iff.1 ?_)
    rw [hkept.map_path]
    exact List.mem_map_of_mem hmem
  refine hkept.congr fun earlier hearlier later hlater => ?_
  dsimp only [judged]
  rw [hreads earlier hearlier, hreads later hlater]

/-- What is read by the path of a link is what its exemplar gives, unless the way is too
long. -/
theorem Replaced.readBytes_copy
    (htree : tree.WellFormed)
    (habsolute : isAbsolute folder.toList = true)
    (hway : tree.Reaches [] (namesOf folder) count location)
    (hcount : count ≤ linkLimit)
    (hverdicts : Classified same [] (ofEntries folder (tree.children location)) verdicts)
    (hafter : Replaced .linked folder location verdicts tree after)
    {path exemplar : String}
    (hcopy : .copy path exemplar ∈ verdicts)
    (hexemplar : .exemplar exemplar ∈ verdicts) :
    after.readBytes path =
      if 2 * count < linkLimit then tree.readBytes exemplar else .error (.os .tooManyLinks) := by
  obtain ⟨hvalid, htarget⟩ := hafter.paths path exemplar hcopy
  obtain ⟨name, later, rfl, hlater, -⟩ := hverdicts.exists_entry htree hcopy
  obtain ⟨other, earlier, rfl, hearlier, hleaf⟩ := hverdicts.exists_entry htree hexemplar
  have hpath := endsIn_of_get?_eq_some htree folder hlater
  have hother := endsIn_of_get?_eq_some htree folder hearlier
  rw [readBytes_of_leaf hother hway hcount hearlier hleaf, htarget rfl]
  exact readBytes_of_link hpath (hafter.reaches htree hverdicts hway) hcount hvalid hother
    (isAbsolute_entryPath habsolute other) (hafter.copies name _ hcopy)
    ((hafter.get?_exemplar htree hverdicts hexemplar).trans hearlier) hleaf

/-- When the copies that a judge found were replaced, the folder is without copies. -/
theorem Replaced.deduplicated
    (htree : tree.WellFormed)
    (habsolute : isAbsolute folder.toList = true)
    (hway : tree.Reaches [] (namesOf folder) count location)
    (hcount : count ≤ linkLimit)
    (hverdicts : Classified (judged judge tree) [] (ofEntries folder (tree.children location))
      verdicts)
    (hafter : Replaced fate folder location verdicts tree after) :
    Deduplicated judge fate folder location count verdicts tree after := by
  have hexemplar : ∀ {path exemplar}, .copy path exemplar ∈ verdicts →
      .exemplar exemplar ∈ verdicts :=
    fun hcopy => (hverdicts.of_copy_mem hcopy).2.resolve_left List.not_mem_nil
  have hway' := hafter.reaches htree hverdicts hway
  refine ⟨hafter.others, ?_, ?_, ?_, ?_, ?_⟩
  · intro path hmem
    obtain ⟨name, entry, rfl, hentry, hleaf⟩ := hverdicts.exists_entry htree hmem
    exact ⟨name, entry, rfl, hleaf, hentry,
      (hafter.get?_exemplar htree hverdicts hmem).trans hentry⟩
  · intro path exemplar hcopy
    obtain ⟨name, entry, rfl, -⟩ := hverdicts.exists_entry htree hcopy
    exact ⟨hexemplar hcopy, name, rfl, hafter.copies name exemplar hcopy⟩
  · intro hfate path exemplar hcopy
    obtain ⟨name, entry, rfl, hentry, hleaf⟩ := hverdicts.exists_entry htree (hexemplar hcopy)
    have hpath := endsIn_of_get?_eq_some htree folder hentry
    refine ⟨name, entry, rfl, hleaf, hentry, ?_⟩
    rw [entryAt_of_leaf hpath hway' hcount
        ((hafter.get?_exemplar htree hverdicts (hexemplar hcopy)).trans hentry) hleaf,
      (hafter.paths path _ hcopy).2 hfate]
  · rintro rfl hequal hleft verdict hmem
    cases verdict with
    | exemplar path =>
        exact hafter.readBytes_exemplar htree hway hcount hverdicts hmem
    | copy path exemplar =>
        obtain ⟨earlier, hearlier, rfl⟩ : ∃ texture ∈ ofEntries folder (tree.children location),
            texture.path = exemplar :=
          hverdicts.exists_texture (hexemplar hmem)
        obtain ⟨later, hlater, rfl⟩ : ∃ texture ∈ ofEntries folder (tree.children location),
            texture.path = path :=
          hverdicts.exists_texture hmem
        rw [Verdict.path,
          hafter.readBytes_copy htree habsolute hway hcount hverdicts hmem (hexemplar hmem),
          if_pos hleft]
        exact hequal earlier hearlier later hlater (hverdicts.of_copy_mem hmem).1
  · rintro rfl hfar path exemplar hcopy
    rw [hafter.readBytes_copy htree habsolute hway hcount hverdicts hcopy (hexemplar hcopy),
      if_neg (Nat.not_lt.2 hfar)]

end Folder

section Twice

variable {σ : Type} {compare : Comparer σ} {files : σ → FileTree}
  {judge : Except IoFault Bytes → Except IoFault Bytes → Except IoFault Bool}
  {fate : Fate} {folder : String} {location : Location}

/-- The verdicts of a judge are found in a folder. -/
theorem Classified.run_findCopies
    (hjudge : compare.Judges files judge)
    {state : σ}
    (hfolder : (files state).entryAt folder = .ok (location, .folder))
    {verdicts : List Verdict}
    (h : Classified (judged judge (files state)) []
      (ofEntries folder ((files state).children location)) verdicts) :
    ∃ made next,
      (findCopies (files state) folder compare).run state = ((made, .ok verdicts), next) ∧
      files next = files state := by
  obtain ⟨made, next, hrun, hnext⟩ := h.run_classifyAfter hjudge
  refine ⟨made, next, ?_, hnext⟩
  have hentries : (files state).readFolder folder = .ok ((files state).children location) := by
    rw [readFolder, hfolder]
  rw [findCopies, hentries]
  dsimp only
  rw [StateT.run_bind, classify, hrun]
  rfl

/-- Where there are no copies, nothing is replaced. -/
theorem replaceCopies_exemplars
    (fate : Fate)
    (tree : FileTree)
    (verdicts : List Verdict) :
    replaceCopies fate tree (verdicts.filter Verdict.isExemplar) = (tree, none) := by
  induction verdicts with
  | nil =>
      rfl
  | cons verdict verdicts ih =>
      cases verdict with
      | exemplar path => exact ih
      | copy path exemplar => exact ih

end Twice

section Roundabout

/-- A file and a pipe that give the same. -/
def sampleTextures : List Entry :=
  [.file [97], .device ⟨.holding [97], .dropping⟩]

/-- Two textures with the same bytes, and a link to their folder beside them. -/
def linkedFolder (texture : Entry) : FileTree :=
  .ofEntries [(["d"], .folder), (["d", "EID_1_tex0-a"], texture),
    (["d", "EID_2_tex0-a"], texture), (["d", "s"], .link ".")]

/-- The first of the two is the exemplar of the other. -/
def linkedVerdicts (folder : String) : List Verdict :=
  [.exemplar (entryPath folder "EID_1_tex0-a"),
    .copy (entryPath folder "EID_2_tex0-a") (entryPath folder "EID_1_tex0-a")]

/-- A path of the folder that goes over the link so many times, and is good enough for the paths
of its textures. -/
structure Roundabout (folder : String) (count : Nat) : Prop where
  namesOf_eq : namesOf folder = "d" :: List.replicate count "s"
  count_le : count ≤ linkLimit
  valid : ∀ name ∈ ["EID_1_tex0-a", "EID_2_tex0-a"], pathFault? (entryPath folder name) = none

variable {folder : String} {count : Nat} {texture : Entry}

theorem linkedFolder_wellFormed (htexture : texture ∈ sampleTextures) :
    (linkedFolder texture).WellFormed := by
  constructor <;> (revert texture; decide)

theorem linkedFolder_textures
    (htexture : texture ∈ sampleTextures)
    (folder : String) :
    ofEntries folder ((linkedFolder texture).children ["d"]) =
      [⟨entryPath folder "EID_1_tex0-a", texture.size⟩,
        ⟨entryPath folder "EID_2_tex0-a", texture.size⟩] := by
  have hsorted : ((linkedFolder texture).children ["d"]).Pairwise
      fun a b => decide (a.1 ≤ b.1) = true := by
    revert texture
    decide
  rw [ofEntries, List.mergeSort_of_pairwise hsorted]
  simp only [sampleTextures, List.mem_cons, List.not_mem_nil, or_false] at htexture
  rcases htexture with rfl | rfl <;> rfl

theorem Roundabout.reaches
    (h : Roundabout folder count)
    (texture : Entry) :
    (linkedFolder texture).Reaches [] (namesOf folder) count ["d"] := by
  obtain ⟨hnames, -, -⟩ := h
  rw [hnames]
  refine .enter rfl (by decide) rfl ?_
  clear hnames
  induction count with
  | zero =>
      exact .done rfl
  | succ count ih =>
      exact .link rfl (by decide) rfl (.stay rfl (.inl rfl) ih)

theorem Roundabout.entryAt_eq
    (h : Roundabout folder count)
    (hvalid : pathFault? folder = none)
    (texture : Entry) :
    (linkedFolder texture).entryAt folder = .ok (["d"], .folder) :=
  entryAt_eq_folder_iff.2 ⟨hvalid, count, h.count_le, h.reaches texture⟩

theorem Roundabout.readBytes_eq
    (h : Roundabout folder count)
    (htexture : texture ∈ sampleTextures)
    {name : String}
    (hname : name ∈ ["EID_1_tex0-a", "EID_2_tex0-a"]) :
    (linkedFolder texture).readBytes (entryPath folder name) = .ok [97] := by
  have hentry : (linkedFolder texture).get? (["d"] ++ [name]) = some texture := by
    revert name texture
    decide
  obtain ⟨hleaf, hread⟩ : texture.IsLeaf ∧ texture.read = .ok [97] := by
    simp only [sampleTextures, List.mem_cons, List.not_mem_nil, or_false] at htexture
    rcases htexture with rfl | rfl <;> exact ⟨trivial, rfl⟩
  have hpath := endsIn_of_get?_eq_some (linkedFolder_wellFormed htexture) folder hentry
  rw [readBytes_of_leaf hpath (h.reaches texture) h.count_le hentry hleaf, h.valid name hname]
  exact hread

theorem Roundabout.classified
    (h : Roundabout folder count)
    (htexture : texture ∈ sampleTextures) :
    Classified (judged sameBytes (linkedFolder texture)) []
      (ofEntries folder ((linkedFolder texture).children ["d"])) (linkedVerdicts folder) := by
  have hsame : judged sameBytes (linkedFolder texture) (entryPath folder "EID_1_tex0-a")
      (entryPath folder "EID_2_tex0-a") = .ok true := by
    rw [judged, h.readBytes_eq htexture (by simp), h.readBytes_eq htexture (by simp)]
    rfl
  have hcandidates : candidates [⟨entryPath folder "EID_1_tex0-a", texture.size⟩]
      ⟨entryPath folder "EID_2_tex0-a", texture.size⟩ = [entryPath folder "EID_1_tex0-a"] := by
    simp [candidates]
  rw [linkedFolder_textures htexture]
  refine .exemplar .exhausted (.copy ?_ .nil)
  rw [List.nil_append, hcandidates]
  exact .matched hsame

theorem Roundabout.exists_replaced
    (h : Roundabout folder count)
    (htexture : texture ∈ sampleTextures) :
    ∃ after, replaceCopies .linked (linkedFolder texture) (linkedVerdicts folder) = (after, none) ∧
      Replaced .linked folder ["d"] (linkedVerdicts folder) (linkedFolder texture) after := by
  have htree := linkedFolder_wellFormed htexture
  have hcopies : CopiesAreLeaves folder ["d"] (linkedVerdicts folder) (linkedFolder texture) :=
    fun path exemplar hcopy => (h.classified htexture).exists_entry htree hcopy
  have hdistinct : ((linkedVerdicts folder).map Verdict.path).Nodup := by
    rw [(h.classified htexture).map_path]
    exact paths_nodup (ofEntries_pairwise htree folder ["d"])
  have hvalid : ∀ path exemplar, .copy path exemplar ∈ linkedVerdicts folder →
      pathFault? path = none ∧ pathFault? exemplar = none := by
    intro path exemplar hcopy
    simp only [linkedVerdicts, List.mem_cons, reduceCtorEq, Verdict.copy.injEq, List.not_mem_nil,
      or_false, false_or] at hcopy
    obtain ⟨rfl, rfl⟩ := hcopy
    exact ⟨h.valid _ (by simp), h.valid _ (by simp)⟩
  obtain ⟨after, hafter⟩ := exists_replaceCopies htree (h.reaches texture) h.count_le rfl rfl
    hcopies hdistinct hvalid .linked
  exact ⟨after, hafter, replaced_of_replaceCopies htree (h.reaches texture) h.count_le
    hcopies hdistinct hafter⟩

/-- The copies in a folder were found by their bytes, and replaced by links. -/
structure LinkedByContent
    (folder : String)
    (verdicts : List Verdict)
    (tree after : FileTree) :
    Prop where
  wellFormed : tree.WellFormed
  isAbsolute : isAbsolute folder.toList = true
  isFolder : ∃ location, tree.entryAt folder = .ok (location, .folder)
  found : ∃ made, (findCopies tree folder .byContent).run tree = ((made, .ok verdicts), tree)
  replaced : replaceCopies .linked tree verdicts = (after, none)

/-- The second of the two textures is replaced by a link to the first, over any path to their
folder. -/
theorem Roundabout.exists_linked
    (h : Roundabout folder count)
    (htexture : texture ∈ sampleTextures)
    (hvalid : pathFault? folder = none)
    (habsolute : isAbsolute folder.toList = true) :
    ∃ after, LinkedByContent folder (linkedVerdicts folder) (linkedFolder texture) after ∧
      Deduplicated sameBytes .linked folder ["d"] count (linkedVerdicts folder)
        (linkedFolder texture) after := by
  have htree := linkedFolder_wellFormed htexture
  have hfolder := h.entryAt_eq hvalid texture
  obtain ⟨made, next, hrun, hnext⟩ :=
    (h.classified htexture).run_findCopies judges_byContent hfolder
  obtain rfl : next = linkedFolder texture := hnext
  obtain ⟨after, hafter, hreplaced⟩ := h.exists_replaced htexture
  exact ⟨after, ⟨htree, habsolute, ⟨_, hfolder⟩, ⟨made, hrun⟩, hafter⟩,
    hreplaced.deduplicated htree habsolute (h.reaches texture) h.count_le (h.classified htexture)⟩

end Roundabout

section Result

variable {σ : Type} {compare : Comparer σ} {files : σ → FileTree}
  {judge : Except IoFault Bytes → Except IoFault Bytes → Except IoFault Bool}
  {folder : String} {location : Location}

/-- The copies that a comparer finds in a folder by the contents of the files are found without
failing; once they are replaced, the folder is without copies, and the same exemplars and no
copies are found again. -/
theorem findCopies_after_replaceCopies
    {state : σ}
    (hjudge : compare.Judges files judge)
    (htree : (files state).WellFormed)
    (habsolute : isAbsolute folder.toList = true)
    (hfolder : (files state).entryAt folder = .ok (location, .folder))
    (hanswers : ∀ earlier ∈ ofEntries folder ((files state).children location),
      ∀ later ∈ ofEntries folder ((files state).children location),
        (judged judge (files state) earlier.path later.path).isOk = true)
    (fate : Fate) :
    ∃ count made verdicts next,
      (files state).Reaches [] (namesOf folder) count location ∧
      (findCopies (files state) folder compare).run state = ((made, .ok verdicts), next) ∧
      files next = files state ∧
      ∀ after, replaceCopies fate (files next) verdicts = (after, none) →
        Deduplicated judge fate folder location count verdicts (files state) after ∧
        ∀ again, files again = after →
          ∃ made' next',
            (findCopies after folder compare).run again =
              ((made', .ok (verdicts.filter Verdict.isExemplar)), next') ∧
            files next' = after ∧
            ∀ other, replaceCopies other after (verdicts.filter Verdict.isExemplar) =
              (after, none) := by
  obtain ⟨hvalid, count, hcount, hway⟩ := entryAt_eq_folder_iff.1 hfolder
  have hpairs : OnPairs (fun a b => (judged judge (files state) a b).isOk = true) []
      (ofEntries folder ((files state).children location)) :=
    hanswers
  obtain ⟨verdicts, hverdicts⟩ := exists_classified (judged judge (files state)) hpairs
  obtain ⟨made, next, hrun, hnext⟩ := hverdicts.run_findCopies hjudge hfolder
  refine ⟨count, made, verdicts, next, hway, hrun, hnext, ?_⟩
  intro after hafter
  rw [hnext] at hafter
  have hdistinct : (verdicts.map Verdict.path).Nodup := by
    rw [hverdicts.map_path]
    exact paths_nodup (ofEntries_pairwise htree folder location)
  have hreplaced : Replaced fate folder location verdicts (files state) after :=
    replaced_of_replaceCopies htree hway hcount
      (fun path exemplar hcopy => hverdicts.exists_entry htree hcopy) hdistinct hafter
  refine ⟨hreplaced.deduplicated htree habsolute hway hcount hverdicts, ?_⟩
  rintro again rfl
  have hfolder' : (files again).entryAt folder = .ok (location, .folder) :=
    entryAt_eq_folder_iff.2 ⟨hvalid, count, hcount, hreplaced.reaches htree hverdicts hway⟩
  obtain ⟨made', next', hrun', hnext'⟩ :=
    (hreplaced.classified htree hway hcount hverdicts).run_findCopies hjudge hfolder'
  exact ⟨made', next', hrun', hnext', fun other =>
    replaceCopies_exemplars other (files again) verdicts⟩

/-- The copy becomes a link to its exemplar, and the exemplar alone is found again. -/
theorem findCopies_after_replaceCopies_linkedFolder :
    ∃ count made after made',
      (findCopies (linkedFolder (.file [97])) "/d" .byContent).run (linkedFolder (.file [97])) =
        ((made, .ok (linkedVerdicts "/d")), linkedFolder (.file [97])) ∧
      replaceCopies .linked (linkedFolder (.file [97])) (linkedVerdicts "/d") = (after, none) ∧
      Deduplicated sameBytes .linked "/d" ["d"] count (linkedVerdicts "/d")
        (linkedFolder (.file [97])) after ∧
      (findCopies after "/d" .byContent).run after =
        ((made', .ok [.exemplar (entryPath "/d" "EID_1_tex0-a")]), after) := by
  have hround : Roundabout "/d" 0 := ⟨by decide, by decide, by decide⟩
  have htexture : Entry.file [97] ∈ sampleTextures := by decide
  have hfolder := hround.entryAt_eq (by decide) (.file [97])
  have hanswers : ∀ earlier ∈ ofEntries "/d" ((linkedFolder (.file [97])).children ["d"]),
      ∀ later ∈ ofEntries "/d" ((linkedFolder (.file [97])).children ["d"]),
        (judged sameBytes (linkedFolder (.file [97])) earlier.path later.path).isOk = true := by
    have hreads : ∀ texture ∈ ofEntries "/d" ((linkedFolder (.file [97])).children ["d"]),
        (linkedFolder (.file [97])).readBytes texture.path = .ok [97] := by
      rw [linkedFolder_textures htexture]
      simp [hround.readBytes_eq htexture]
    intro earlier hearlier later hlater
    rw [judged, hreads earlier hearlier, hreads later hlater]
    rfl
  obtain ⟨count, made, verdicts, next, -, hrun, hnext, hresult⟩ :=
    findCopies_after_replaceCopies judges_byContent (linkedFolder_wellFormed htexture) (by decide)
      hfolder hanswers .linked
  obtain ⟨_, _, hrun', -⟩ :=
    (hround.classified htexture).run_findCopies judges_byContent hfolder
  obtain rfl : verdicts = linkedVerdicts "/d" :=
    Except.ok.inj (Prod.mk.inj (Prod.mk.inj (hrun.symm.trans hrun')).1).2
  obtain rfl : next = linkedFolder (.file [97]) := hnext
  obtain ⟨after, hafter, -⟩ := hround.exists_replaced htexture
  obtain ⟨hdeduplicated, hagain⟩ := hresult after hafter
  obtain ⟨made', next', hagain, hnext', -⟩ := hagain after rfl
  obtain rfl : next' = after := hnext'
  exact ⟨count, made, _, made', hrun, hafter, hdeduplicated, hagain⟩

/-- A path of the linked folder over twenty links. -/
def twentyLinks : String := "/d/s/s/s/s/s/s/s/s/s/s/s/s/s/s/s/s/s/s/s/s"

/-- What is read by the path of a copy does not always stay the same: over a path with twenty
links the copy cannot be read any more.  And a link does not always lead to a file: pipes with the
names of textures are textures too. -/
theorem copies_neither_readable_nor_files :
    (¬ ∀ (folder : String) (verdicts : List Verdict) (tree after : FileTree),
      LinkedByContent folder verdicts tree after →
      ∀ verdict ∈ verdicts, after.readBytes verdict.path = tree.readBytes verdict.path) ∧
    ¬ ∀ (folder : String) (verdicts : List Verdict) (tree after : FileTree),
      LinkedByContent folder verdicts tree after →
      ∀ path exemplar, .copy path exemplar ∈ verdicts →
        ∃ location content, after.entryAt exemplar = .ok (location, .file content) := by
  have hcopy : ∀ folder, .copy (entryPath folder "EID_2_tex0-a") (entryPath folder "EID_1_tex0-a") ∈
      linkedVerdicts folder :=
    fun folder => List.mem_cons_of_mem _ List.mem_cons_self
  constructor
  · intro h
    have hround : Roundabout twentyLinks 20 := ⟨by decide, by decide, by decide⟩
    have htexture : Entry.file [97] ∈ sampleTextures := by decide
    obtain ⟨after, hlinked, hdeduplicated⟩ :=
      hround.exists_linked htexture (by decide) (by decide)
    have hsame := h _ _ _ _ hlinked _ (hcopy twentyLinks)
    have hfar := hdeduplicated.unreadable rfl (by decide) _ _ (hcopy twentyLinks)
    rw [Verdict.path, hfar, hround.readBytes_eq htexture (by simp)] at hsame
    cases hsame
  · intro h
    have hround : Roundabout "/d" 0 := ⟨by decide, by decide, by decide⟩
    have htexture : Entry.device ⟨.holding [97], .dropping⟩ ∈ sampleTextures := by decide
    obtain ⟨after, hlinked, hdeduplicated⟩ :=
      hround.exists_linked htexture (by decide) (by decide)
    obtain ⟨location, content, hfile⟩ := h _ _ _ _ hlinked _ _ (hcopy "/d")
    obtain ⟨name, entry, hname, -, hentry, hfound⟩ :=
      hdeduplicated.targets rfl _ _ (hcopy "/d")
    obtain rfl : "EID_1_tex0-a" = name := entryPath_inj.1 hname
    have hpipe : (linkedFolder (.device ⟨.holding [97], .dropping⟩)).get?
        (["d"] ++ ["EID_1_tex0-a"]) = some (.device ⟨.holding [97], .dropping⟩) :=
      rfl
    obtain rfl := Option.some.inj (hpipe.symm.trans hentry)
    rw [hfound] at hfile
    cases hfile

end Result

end Texture
end CaptureKit
