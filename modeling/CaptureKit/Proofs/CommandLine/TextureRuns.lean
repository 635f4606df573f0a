import CaptureKit.CommandLine.Textures
import CaptureKit.Proofs.Texture.Deduplication
import CaptureKit.Proofs.Texture.QuietComparing
import Mathlib.Data.Set.List

/-!
# Runs of the command for texture folders

The copies in a folder are all found before the first of them is replaced.  So a dry run finds
what the real run finds, if the comparing tool leaves the files as they are: it prints a line for
each texture, and the real run prints those of the exemplars among these lines and replaces the
others.  What is replaced changes neither what is printed nor what is done later.

Main statement: what a dry run says about the real one (`rehearsal_predicts`).
-/

namespace CaptureKit
namespace CommandLine
namespace Textures

open Storage FileTree Text Texture Tools

/-- The arguments ask for this. -/
def Asks (arguments : List String) (asked : Request) : Prop :=
  ∃ given, grammar.read arguments = .ok given ∧ request given = asked

/-- The folder that is looked through. -/
def folderOf (host : Host) : (path : Option String) → String
  | some path => host.resolve path
  | none => host.workingFolder

/-- What the tool says of two files: that they are the same, if it succeeds. -/
def toolAnswer
    (launch : Launcher)
    (tree : FileTree)
    (tool : String)
    (earlier later : String) :
    Except IoFault Bool :=
  ((launch tool [earlier, later] []).run tree).1.map (·.status.isSuccess)

/-- What comes of looking for copies in a folder, and the files then. -/
def search
    (launch : Launcher)
    (tree : FileTree)
    (tool folder : String) :
    (List Comparison × Except FindFault (List Verdict)) × FileTree :=
  (findCopies tree folder (.byTool launch tool)).run tree

/-- The tool leaves all files as they are when it is started on two textures of the folder. -/
def LeavesFiles
    (launch : Launcher)
    (tree : FileTree)
    (tool folder : String) :
    Prop :=
  ∀ entries, tree.readFolder folder = .ok entries →
    ∀ earlier ∈ ofEntries folder entries, ∀ later ∈ ofEntries folder entries,
      ((launch tool [earlier.path, later.path] []).run tree).2 = tree

/-- The folder cannot be read, or the tool cannot be started on two of its textures. -/
def CannotCompare
    (launch : Launcher)
    (tree : FileTree)
    (tool folder : String) :
    Prop :=
  match tree.readFolder folder with
  | .error _ => True
  | .ok entries =>
      ∃ earlier ∈ ofEntries folder entries, ∃ later ∈ ofEntries folder entries,
        ∃ cause, toolAnswer launch tree tool earlier.path later.path = .error cause

/-- What was found out about a texture. -/
structure Finding where
  name : String
  /-- The name of the texture that it is a copy of, if it is a copy. -/
  original? : Option String

/-- The texture is no copy. -/
def Finding.isUnique (finding : Finding) : Bool :=
  finding.original?.isNone

/-- The verdict on a texture of the folder. -/
def Finding.verdict (folder : String) (finding : Finding) : Verdict :=
  match finding.original? with
  | none => .exemplar (entryPath folder finding.name)
  | some original => .copy (entryPath folder finding.name) (entryPath folder original)

/-- The line on a texture in a dry run. -/
def Finding.line (folder : String) (finding : Finding) : String :=
  match finding.original? with
  | none => finding.name ++ "\n"
  | some original =>
      "Duplicate " ++ entryPath folder finding.name ++ " == " ++ entryPath folder original ++ "\n"

/-- The findings on the textures of a folder, in the order of their names.  All entries with the
name of a texture are found, folders and links apart. -/
structure Found
    (answer : (earlier later : String) → Except IoFault Bool)
    (tree : FileTree)
    (folder : String)
    (location : Location)
    (findings : List Finding) :
    Prop where
  ordered : findings.Pairwise fun a b => a.name < b.name
  complete : ∀ name, name ∈ findings.map Finding.name ↔
    isDumpName name.toList = true ∧
      ∃ entry, tree.get? (location ++ [name]) = some entry ∧ entry.IsLeaf
  classified : Classified answer [] (ofEntries folder (tree.children location))
    (findings.map (Finding.verdict folder))

/-- The copies among the findings were replaced, and nothing else has changed. -/
structure CopiesSettled
    (fate : Fate)
    (folder : String)
    (location : Location)
    (findings : List Finding)
    (tree after : FileTree) :
    Prop where
  changed : ∀ place, after.get? place ≠ tree.get? place ↔
    ∃ finding ∈ findings, finding.isUnique = false ∧ place = location ++ [finding.name]
  copies : ∀ name original, ⟨name, some original⟩ ∈ findings →
    after.get? (location ++ [name]) = fate.leaves (entryPath folder original)

/-- Arguments that ask for something. -/
def commandLine (asked : Request) : List String :=
  let flags := match asked.fate with
    | none => ["--no-change"]
    | some .linked => []
    | some .deleted => ["--delete"]
  let operands := match asked.path with
    | none => []
    | some path => ["--", path]
  ("--difftool=" ++ asked.tool) :: (flags ++ operands)

section Asking

/-- The tool can have any name. -/
theorem readFrom_tool (tool : String) (rest : List String) :
    grammar.readFrom .empty none (("--difftool=" ++ tool) :: rest) =
      grammar.readFrom ⟨[("difftool", tool)], []⟩ none rest := by
  have hlist : ("--difftool=" ++ tool).toList =
      '-' :: '-' :: ("difftool=".toList ++ tool.toList) := by
    rw [String.toList_append]
    rfl
  have hread : ∀ value, grammar.readName .empty ("difftool=".toList ++ value) =
      .ok (⟨[("difftool", String.ofList value)], []⟩, none) :=
    fun _ => rfl
  rw [Grammar.readFrom, hlist]
  change (grammar.readName .empty ("difftool=".toList ++ tool.toList) >>= fun read =>
    grammar.readFrom read.1 read.2 rest) = _
  rw [hread, String.ofList_toList]
  rfl

/-- Every request can be made, and the dry run of a real one by one more flag. -/
theorem asks_commandLine (asked : Request) :
    Asks (commandLine asked) asked := by
  obtain ⟨path, tool, fate⟩ := asked
  rw [Asks, commandLine, Grammar.read, readFrom_tool]
  rcases path with _ | path <;> rcases fate with _ | ⟨_ | _⟩
  all_goals exact ⟨_, rfl, rfl⟩

end Asking

section Lines

variable {folder name : String} {findings : List Finding}

/-- The last name on the path of an entry is its name. -/
theorem fileName_entryPath
    (folder : String)
    (hname : IsFileName name) :
    fileName (entryPath folder name) = name := by
  have hlast : ((names (entryPath folder name).toList).map String.ofList).getLast? = some name := by
    rw [← namesOf, (endsIn_entryPath folder hname).namesOf_eq]
    exact List.getLast?_concat
  rw [List.getLast?_map, Option.map_eq_some_iff] at hlast
  obtain ⟨last, hlast, rfl⟩ := hlast
  rw [fileName, hlast, Option.getD_some]

/-- A dry run prints the line of each finding. -/
theorem dryLines_verdicts
    (hnames : ∀ finding ∈ findings, IsFileName finding.name) :
    dryLines (findings.map (Finding.verdict folder)) =
      String.join (findings.map (Finding.line folder)) := by
  rw [dryLines, List.map_map]
  refine congrArg String.join (List.map_congr_left fun finding hmem => ?_)
  obtain ⟨name, original?⟩ := finding
  cases original? with
  | none => exact congrArg (· ++ "\n") (fileName_entryPath folder (hnames _ hmem))
  | some original => rfl

/-- Settling prints the names of the exemplars, if all copies can be replaced. -/
theorem settle_of_replaceCopies
    {fate : Fate}
    {tree after : FileTree}
    (hnames : ∀ finding ∈ findings, IsFileName finding.name)
    (h : replaceCopies fate tree (findings.map (Finding.verdict folder)) = (after, none)) :
    settle fate tree (findings.map (Finding.verdict folder)) =
      (String.join ((findings.filter Finding.isUnique).map (·.name ++ "\n")), after, none) := by
  induction findings generalizing tree with
  | nil =>
      cases h
      rfl
  | cons finding findings ih =>
      obtain ⟨hname, hlater⟩ := List.forall_mem_cons.1 hnames
      obtain ⟨name, original?⟩ := finding
      cases original? with
      | none =>
          rw [List.map_cons, Finding.verdict, settle]
          dsimp only
          rw [ih hlater h, fileName_entryPath folder hname,
            List.filter_cons_of_pos (show Finding.isUnique ⟨name, none⟩ = true from rfl),
            List.map_cons, String.join_cons]
      | some original =>
          rw [List.map_cons, Finding.verdict, replaceCopies] at h
          rw [List.map_cons, Finding.verdict, settle]
          dsimp only at h ⊢
          cases hstep : replaceCopy tree (entryPath folder name) (entryPath folder original)
              fate with
          | mk replaced fault =>
              rw [hstep] at h
              cases fault with
              | some fault => cases h
              | none => exact ih hlater h

end Lines

section Verdicts

variable {answer : (earlier later : String) → Except IoFault Bool} {tree after : FileTree}
  {folder : String} {location : Location} {fate : Fate} {findings : List Finding}

/-- The verdicts on the textures of a folder are findings. -/
theorem exists_found
    (htree : tree.WellFormed)
    {verdicts : List Verdict}
    (h : Classified answer [] (ofEntries folder (tree.children location)) verdicts) :
    ∃ findings, Found answer tree folder location findings ∧
      findings.map (Finding.verdict folder) = verdicts := by
  have hfindings : ∀ verdict ∈ verdicts, verdict ∈ Set.range (Finding.verdict folder) := by
    intro verdict hmem
    obtain ⟨name, -, hpath, -⟩ := h.exists_entry htree hmem
    cases verdict with
    | exemplar path =>
        obtain rfl : path = entryPath folder name := hpath
        exact ⟨⟨name, none⟩, rfl⟩
    | copy path exemplar =>
        obtain rfl : path = entryPath folder name := hpath
        have hexemplar := (h.of_copy_mem hmem).2.resolve_left List.not_mem_nil
        obtain ⟨original, -, horiginal, -⟩ := h.exists_entry htree hexemplar
        obtain rfl : exemplar = entryPath folder original := horiginal
        exact ⟨⟨name, some original⟩, rfl⟩
  obtain ⟨findings, rfl⟩ : verdicts ∈ Set.range (List.map (Finding.verdict folder)) := by
    rw [Set.range_list_map]
    exact hfindings
  have hpath : ∀ finding : Finding,
      (finding.verdict folder).path = entryPath folder finding.name := by
    rintro ⟨name, original?⟩
    cases original? <;> rfl
  have hpaths : findings.map (fun finding => entryPath folder finding.name) =
      (ofEntries folder (tree.children location)).map Dump.path := by
    rw [← h.map_path, List.map_map]
    exact List.map_congr_left fun finding _ => (hpath finding).symm
  refine ⟨findings, ⟨?_, ?_, h⟩, rfl⟩
  · have hordered : ((ofEntries folder (tree.children location)).map Dump.path).Pairwise
        fun a b => ∃ earlier later, a = entryPath folder earlier ∧ b = entryPath folder later ∧
          earlier ≤ later ∧ earlier ≠ later :=
      List.pairwise_map.2 (ofEntries_pairwise htree folder location)
    rw [← hpaths, List.pairwise_map] at hordered
    refine hordered.imp ?_
    rintro a b ⟨earlier, later, ha, hb, hle, hne⟩
    rw [entryPath_inj.1 ha, entryPath_inj.1 hb]
    exact String.not_le.1 fun hge => hne (String.le_antisymm hle hge)
  · intro name
    have hmem : name ∈ findings.map Finding.name ↔
        entryPath folder name ∈ findings.map fun finding => entryPath folder finding.name := by
      simp only [List.mem_map, entryPath_inj]
    rw [hmem, hpaths, List.mem_map]
    constructor
    · rintro ⟨texture, htexture, hsame⟩
      obtain ⟨other, entry, hentry, hleaf, hname, rfl⟩ := (mem_ofEntries_iff htree).1 htexture
      obtain rfl : other = name := entryPath_inj.1 hsame
      exact ⟨hname, entry, hentry, hleaf⟩
    · rintro ⟨hname, entry, hentry, hleaf⟩
      exact ⟨_, (mem_ofEntries_iff htree).2 ⟨name, entry, hentry, hleaf, hname, rfl⟩, rfl⟩

/-- Textures have names that can be names. -/
theorem Found.isFileName
    (htree : tree.WellFormed)
    (h : Found answer tree folder location findings) :
    ∀ finding ∈ findings, IsFileName finding.name := by
  intro finding hmem
  obtain ⟨-, entry, hentry, -⟩ := (h.complete finding.name).1 (List.mem_map_of_mem hmem)
  exact htree.isFileName hentry finding.name (by simp)

/-- No two findings are on one path. -/
theorem Found.paths_nodup
    (htree : tree.WellFormed)
    (h : Found answer tree folder location findings) :
    ((findings.map (Finding.verdict folder)).map Verdict.path).Nodup := by
  rw [h.classified.map_path]
  exact Texture.paths_nodup (ofEntries_pairwise htree folder location)

/-- When the copies were replaced, exactly their places have changed. -/
theorem Found.settled
    (htree : tree.WellFormed)
    (hfolder : tree.entryAt folder = .ok (location, .folder))
    (h : Found answer tree folder location findings)
    (hafter : replaceCopies fate tree (findings.map (Finding.verdict folder)) = (after, none)) :
    CopiesSettled fate folder location findings tree after := by
  obtain ⟨-, count, hcount, hway⟩ := entryAt_eq_folder_iff.1 hfolder
  have hreplaced : Replaced fate folder location (findings.map (Finding.verdict folder)) tree
      after :=
    replaced_of_replaceCopies htree hway hcount
      (fun path exemplar hcopy => h.classified.exists_entry htree hcopy) (h.paths_nodup htree)
      hafter
  have hcopy : ∀ name original, ⟨name, some original⟩ ∈ findings →
      .copy (entryPath folder name) (entryPath folder original) ∈
        findings.map (Finding.verdict folder) :=
    fun name original hmem => List.mem_map.2 ⟨_, hmem, rfl⟩
  have hcopies : ∀ name original, ⟨name, some original⟩ ∈ findings →
      after.get? (location ++ [name]) = fate.leaves (entryPath folder original) :=
    fun name original hmem => hreplaced.copies name _ (hcopy name original hmem)
  refine ⟨fun place => ⟨fun hchanged => ?_, ?_⟩, hcopies⟩
  · by_contra hplace
    refine hchanged (hreplaced.others place ?_)
    rintro name exemplar hmem rfl
    obtain ⟨⟨other, original?⟩, hfinding, hverdict⟩ := List.mem_map.1 hmem
    cases original? with
    | none => cases hverdict
    | some original =>
        obtain rfl : other = name := entryPath_inj.1 (Verdict.copy.inj hverdict).1
        exact hplace ⟨_, hfinding, rfl, rfl⟩
  · rintro ⟨⟨name, original?⟩, hmem, hkind, rfl⟩
    cases original? with
    | none => cases hkind
    | some original =>
        obtain ⟨-, entry, hentry, hleaf⟩ := (h.complete name).1 (List.mem_map_of_mem hmem)
        rw [hcopies name original hmem, hentry]
        cases fate with
        | deleted => exact nofun
        | linked =>
            intro hsame
            exact (Entry.isLeaf_iff.1 hleaf).2 _ (Option.some.inj hsame).symm

/-- All copies can be replaced if nothing is wrong with the paths of the entries and the storage
refuses nothing. -/
theorem Found.exists_replaced
    (htree : tree.WellFormed)
    (hfolder : tree.entryAt folder = .ok (location, .folder))
    (h : Found answer tree folder location findings)
    (hsealed : isSealed location = false)
    (hfree : tree.limits = [])
    (hvalid : ∀ item ∈ tree.children location, pathFault? (entryPath folder item.1) = none)
    (fate : Fate) :
    ∃ after, replaceCopies fate tree (findings.map (Finding.verdict folder)) = (after, none) := by
  obtain ⟨-, count, hcount, hway⟩ := entryAt_eq_folder_iff.1 hfolder
  have hpath : ∀ verdict ∈ findings.map (Finding.verdict folder),
      pathFault? verdict.path = none := by
    intro verdict hmem
    obtain ⟨name, entry, hpath, hentry, -⟩ := h.classified.exists_entry htree hmem
    rw [hpath]
    exact hvalid (name, entry) (htree.mem_children_iff.2 hentry)
  refine exists_replaceCopies htree hway hcount hsealed hfree
    (fun path exemplar hcopy => h.classified.exists_entry htree hcopy) (h.paths_nodup htree) ?_
    fate
  intro path exemplar hcopy
  have hexemplar := (h.classified.of_copy_mem hcopy).2.resolve_left List.not_mem_nil
  exact ⟨hpath _ hcopy, hpath _ hexemplar⟩

end Verdicts

section Runs

variable {launch : Launcher} {host : Host} {path : Option String} {tool : String} {fate : Fate}
  {made : List Comparison}

/-- What is asked for is done. -/
theorem run_of_asks
    {arguments : List String}
    {asked : Request}
    (h : Asks arguments asked)
    (launch : Launcher)
    (host : Host) :
    run launch host arguments = settleFolder launch host asked := by
  obtain ⟨given, hread, rfl⟩ := h
  rw [run, hread]

/-- A dry run prints the verdicts. -/
theorem settleFolder_dry
    {verdicts : List Verdict}
    (h : search launch host.tree tool (folderOf host path) = ((made, .ok verdicts), host.tree)) :
    settleFolder launch host ⟨path, tool, none⟩ = .done host.tree (encode (dryLines verdicts)) := by
  delta settleFolder
  cases path <;>
  · dsimp only [search, folderOf] at h ⊢
    rw [h]

/-- A real run replaces the copies, after all verdicts are known. -/
theorem settleFolder_real
    {verdicts : List Verdict}
    (h : search launch host.tree tool (folderOf host path) = ((made, .ok verdicts), host.tree))
    (fate : Fate) :
    settleFolder launch host ⟨path, tool, some fate⟩ =
      match settle fate host.tree verdicts with
      | (printed, settled, none) => .done settled (encode printed)
      | (printed, settled, some fault) => .failed settled (encode printed) fault.report := by
  delta settleFolder
  cases path <;>
  · dsimp only [search, folderOf] at h ⊢
    exact h ▸ rfl

/-- If the copies cannot be found, nothing is done, whatever is asked for. -/
theorem settleFolder_of_fault
    {fault : FindFault}
    (h : search launch host.tree tool (folderOf host path) = ((made, .error fault), host.tree))
    (fate? : Option Fate) :
    settleFolder launch host ⟨path, tool, fate?⟩ =
      .failed host.tree []
        (.dueTo s!"failed to find duplicate textures in {quoted (folderOf host path)}"
          fault.report) := by
  delta settleFolder
  cases path <;>
  · dsimp only [search, folderOf] at h ⊢
    rw [h]

/-- A real run that succeeds prints the names of the exemplars and replaces all copies. -/
theorem printed_and_settled
    {location : Location}
    {findings : List Finding}
    (htree : host.tree.WellFormed)
    (hfolder : host.tree.entryAt (folderOf host path) = .ok (location, .folder))
    (hfound : Found (toolAnswer launch host.tree tool) host.tree (folderOf host path) location
      findings)
    (hrun : search launch host.tree tool (folderOf host path) =
      ((made, .ok (findings.map (Finding.verdict (folderOf host path)))), host.tree))
    (hexit : (settleFolder launch host ⟨path, tool, some fate⟩).exit = 0) :
    (settleFolder launch host ⟨path, tool, some fate⟩).output =
      encode (String.join ((findings.filter Finding.isUnique).map (·.name ++ "\n"))) ∧
    CopiesSettled fate (folderOf host path) location findings host.tree
      (settleFolder launch host ⟨path, tool, some fate⟩).tree := by
  rw [settleFolder_real hrun] at hexit ⊢
  have hleft := settle_snd fate host.tree (findings.map (Finding.verdict (folderOf host path)))
  cases hsettle : settle fate host.tree (findings.map (Finding.verdict (folderOf host path))) with
  | mk printed left =>
      rw [hsettle] at hexit hleft
      obtain ⟨after, fault⟩ := left
      cases fault with
      | some fault =>
          cases hexit
      | none =>
          have hprinted := settle_of_replaceCopies (hfound.isFileName htree) hleft.symm
          rw [hsettle] at hprinted
          obtain ⟨rfl, -⟩ := Prod.mk.inj hprinted
          exact ⟨rfl, hfound.settled htree hfolder hleft.symm⟩

/-- Looking for copies leaves the files as they are.  It fails only if they cannot be compared. -/
theorem search_of_leavesFiles
    (htree : host.tree.WellFormed)
    (hleaves : LeavesFiles launch host.tree tool (folderOf host path)) :
    ∃ made,
      (CannotCompare launch host.tree tool (folderOf host path) ∧
        ∃ fault, search launch host.tree tool (folderOf host path) =
          ((made, .error fault), host.tree)) ∨
      ∃ location findings,
        host.tree.entryAt (folderOf host path) = .ok (location, .folder) ∧
        Found (toolAnswer launch host.tree tool) host.tree (folderOf host path) location findings ∧
        search launch host.tree tool (folderOf host path) =
          ((made, .ok (findings.map (Finding.verdict (folderOf host path)))), host.tree) := by
  have hquiet : ∀ entries, host.tree.readFolder (folderOf host path) = .ok entries →
      OnPairs (Comparer.Quiet (.byTool launch tool) host.tree) []
        (ofEntries (folderOf host path) entries) := by
    intro entries hentries earlier hearlier later hlater
    exact hleaves entries hentries earlier hearlier later hlater
  obtain ⟨made, result, hrun, hends⟩ := findCopies_of_quiet hquiet
  refine ⟨made, ?_⟩
  cases result with
  | ok verdicts =>
      obtain ⟨location, hfolder, hclassified⟩ := hends
      obtain ⟨findings, hfound, rfl⟩ := exists_found htree hclassified
      exact .inr ⟨location, findings, hfolder, hfound, hrun⟩
  | error fault =>
      refine .inl ⟨?_, fault, hrun⟩
      rw [CannotCompare]
      cases fault with
      | folder folder cause =>
          rw [hends.2]
          trivial
      | comparison fault =>
          obtain ⟨location, hfolder, earlier, hearlier, later, hlater, -, hfails⟩ := hends
          rw [readFolder, hfolder]
          exact ⟨earlier, hearlier, later, hlater, _, hfails⟩

/-- A real run succeeds if the files can be compared, nothing is wrong with the paths of the
entries, and the storage refuses nothing. -/
theorem exit_eq_zero
    {arguments : List String}
    {location : Location}
    (hreal : Asks arguments ⟨path, tool, some fate⟩)
    (htree : host.tree.WellFormed)
    (hleaves : LeavesFiles launch host.tree tool (folderOf host path))
    (hcompares : ¬ CannotCompare launch host.tree tool (folderOf host path))
    (hfolder : host.tree.entryAt (folderOf host path) = .ok (location, .folder))
    (hsealed : isSealed location = false)
    (hfree : host.tree.limits = [])
    (hvalid : ∀ item ∈ host.tree.children location,
      pathFault? (entryPath (folderOf host path) item.1) = none) :
    (run launch host arguments).exit = 0 := by
  obtain ⟨made, ⟨hcannot, -⟩ | ⟨place, findings, hplace, hfound, hrun⟩⟩ :=
    search_of_leavesFiles htree hleaves
  · exact absurd hcannot hcompares
  · obtain rfl : place = location :=
      (Prod.mk.inj (Except.ok.inj (hplace.symm.trans hfolder))).1
    obtain ⟨after, hafter⟩ := hfound.exists_replaced htree hfolder hsealed hfree hvalid fate
    rw [run_of_asks hreal, settleFolder_real hrun,
      settle_of_replaceCopies (hfound.isFileName htree) hafter]
    rfl

/-- A dry run leaves all files as they are, and says of each texture of the folder, in the order of
the names, whether it is a copy and of which one.  A real run on the same files that succeeds
prints the names of those that are none, and changes exactly the copies, each to what becomes of a
copy of the exemplar that the dry run names.  If the copies cannot be found, because the folder
cannot be read or the tool cannot be started, both runs fail in the same way, before they do
anything. -/
theorem rehearsal_predicts
    {rehearsal arguments : List String}
    (hrehearsal : Asks rehearsal ⟨path, tool, none⟩)
    (hreal : Asks arguments ⟨path, tool, some fate⟩)
    (htree : host.tree.WellFormed)
    (hleaves : LeavesFiles launch host.tree tool (folderOf host path)) :
    (CannotCompare launch host.tree tool (folderOf host path) ∧
      ∃ report,
        run launch host rehearsal = .failed host.tree [] report ∧
        run launch host arguments = .failed host.tree [] report) ∨
    ∃ location findings,
      host.tree.entryAt (folderOf host path) = .ok (location, .folder) ∧
      Found (toolAnswer launch host.tree tool) host.tree (folderOf host path) location findings ∧
      run launch host rehearsal =
        .done host.tree (encode (String.join (findings.map (Finding.line (folderOf host path))))) ∧
      ((run launch host arguments).exit = 0 →
        (run launch host arguments).output =
          encode (String.join ((findings.filter Finding.isUnique).map (·.name ++ "\n"))) ∧
        CopiesSettled fate (folderOf host path) location findings host.tree
          (run launch host arguments).tree) := by
  rw [run_of_asks hrehearsal, run_of_asks hreal]
  obtain ⟨made, ⟨hcannot, fault, hrun⟩ | ⟨location, findings, hfolder, hfound, hrun⟩⟩ :=
    search_of_leavesFiles htree hleaves
  · exact .inl ⟨hcannot, _, settleFolder_of_fault hrun none,
      settleFolder_of_fault hrun (some fate)⟩
  · refine .inr ⟨location, findings, hfolder, hfound, ?_,
      printed_and_settled htree hfolder hfound hrun⟩
    rw [settleFolder_dry hrun, dryLines_verdicts (hfound.isFileName htree)]

end Runs

section Sample

/-- A tool that takes all files for the same and leaves them as they are. -/
def agreeing : Launcher := fun _ _ _ => pure (.ok ⟨.code 0, [], []⟩)

theorem agreeing_leavesFiles
    (tree : FileTree)
    (tool folder : String) :
    LeavesFiles agreeing tree tool folder :=
  fun _ _ _ _ _ _ => rfl

/-- Two textures with the same number of bytes and a pipe with the name of a texture. -/
def sampleHost : Host where
  workingFolder := "/"
  home := "/"
  tree := .ofEntries [(["d"], .folder), (["d", "EID_1_tex0-a"], .file [97]),
    (["d", "EID_2_tex0-a"], .file [98]), (["d", "EID_3_tex0-a"], .device .null)]

theorem sampleHost_wellFormed : sampleHost.tree.WellFormed :=
  ⟨by decide, by decide⟩

theorem sampleHost_entryAt : sampleHost.tree.entryAt "/d" = .ok (["d"], .folder) :=
  entryAt_eq_folder_iff.2
    ⟨by decide, 0, Nat.zero_le _, .enter rfl (by decide) rfl (.done rfl)⟩

theorem sampleHost_compares :
    ¬ CannotCompare agreeing sampleHost.tree "true" "/d" := by
  rw [CannotCompare, readFolder, sampleHost_entryAt]
  rintro ⟨earlier, -, later, -, cause, hfails⟩
  cases hfails

/-- The dry run with a tool that changes nothing, and the real run after it, which succeeds. -/
theorem rehearsal_predicts_sampleHost :
    sampleHost.tree.WellFormed ∧
    LeavesFiles agreeing sampleHost.tree "true" "/d" ∧
    Asks ["--difftool=true", "--no-change", "--", "/d"] ⟨some "/d", "true", none⟩ ∧
    Asks ["--difftool=true", "--", "/d"] ⟨some "/d", "true", some .linked⟩ ∧
    ∃ findings,
      Found (toolAnswer agreeing sampleHost.tree "true") sampleHost.tree "/d" ["d"] findings ∧
      run agreeing sampleHost ["--difftool=true", "--no-change", "--", "/d"] =
        .done sampleHost.tree (encode (String.join (findings.map (Finding.line "/d")))) ∧
      (run agreeing sampleHost ["--difftool=true", "--", "/d"]).output =
        encode (String.join ((findings.filter Finding.isUnique).map (·.name ++ "\n"))) ∧
      CopiesSettled .linked "/d" ["d"] findings sampleHost.tree
        (run agreeing sampleHost ["--difftool=true", "--", "/d"]).tree := by
  have hfolder : folderOf sampleHost (some "/d") = "/d" := by decide
  have hrehearsal : Asks ["--difftool=true", "--no-change", "--", "/d"] ⟨some "/d", "true", none⟩ :=
    asks_commandLine ⟨some "/d", "true", none⟩
  have hreal : Asks ["--difftool=true", "--", "/d"] ⟨some "/d", "true", some .linked⟩ :=
    asks_commandLine ⟨some "/d", "true", some .linked⟩
  have hleaves := agreeing_leavesFiles sampleHost.tree "true"
  refine ⟨sampleHost_wellFormed, hleaves "/d", hrehearsal, hreal, ?_⟩
  have hexit := exit_eq_zero hreal sampleHost_wellFormed (hleaves _)
    (hfolder.symm ▸ sampleHost_compares) (hfolder.symm ▸ sampleHost_entryAt) rfl rfl
    (hfolder.symm ▸ by decide)
  obtain ⟨hcannot, -⟩ | ⟨location, findings, hplace, hfound, hdry, hpredicts⟩ :=
    rehearsal_predicts hrehearsal hreal sampleHost_wellFormed (hleaves _)
  · rw [hfolder] at hcannot
    exact absurd hcannot sampleHost_compares
  · rw [hfolder] at hplace hfound hdry hpredicts
    obtain rfl : location = ["d"] :=
      (Prod.mk.inj (Except.ok.inj (hplace.symm.trans sampleHost_entryAt))).1
    obtain ⟨houtput, hsettled⟩ := hpredicts hexit
    exact ⟨findings, hfound, hdry, houtput, hsettled⟩

end Sample

end Textures
end CommandLine
end CaptureKit
