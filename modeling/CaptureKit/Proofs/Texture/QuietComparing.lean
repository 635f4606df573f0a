import CaptureKit.Proofs.Texture.Comparisons
import CaptureKit.Proofs.Texture.Verdicts

/-!
# Comparers that leave everything as it is

A comparer may fail on some textures.  If it leaves what it remembers as it is, whatever it
answers, then looking for copies leaves this as it is as well, and ends with the verdicts of its
answers or with a comparison that failed.

Main statement: how looking for copies in a folder ends (`findCopies_of_quiet`).
-/

namespace CaptureKit
namespace Texture

open Storage FileTree

section Comparing

variable {σ : Type}

/-- What the comparer answers on two files while it remembers this. -/
def Comparer.answerOn
    (compare : Comparer σ)
    (state : σ)
    (earlier later : String) :
    Except IoFault Bool :=
  ((compare earlier later).run state).1

/-- What the comparer remembers is not changed by a comparison of these two. -/
def Comparer.Quiet
    (compare : Comparer σ)
    (state : σ)
    (earlier later : String) :
    Prop :=
  ((compare earlier later).run state).2 = state

/-- How a search ends: with what is found by the answers, or with an answer that is a failure. -/
def SearchEnds
    (answer : (earlier later : String) → Except IoFault Bool)
    (path : String)
    (candidates : List String) :
    Except ComparisonFault (Option String) → Prop
  | .ok found => Finds answer path candidates found
  | .error fault =>
      ∃ candidate ∈ candidates,
        fault.comparison = ⟨candidate, path⟩ ∧ answer candidate path = .error fault.cause

/-- How a classification ends: with the verdicts of the answers, or with an answer that is a
failure. -/
def ClassificationEnds
    (answer : (earlier later : String) → Except IoFault Bool)
    (exemplars textures : List Dump) :
    Except ComparisonFault (List Verdict) → Prop
  | .ok verdicts => Classified answer exemplars textures verdicts
  | .error fault =>
      ∃ earlier ∈ exemplars ++ textures, ∃ later ∈ textures,
        fault.comparison = ⟨earlier.path, later.path⟩ ∧
        answer earlier.path later.path = .error fault.cause

variable {compare : Comparer σ} {answer : (earlier later : String) → Except IoFault Bool}
  {state : σ} {path : String}

theorem Comparer.Quiet.run_eq
    {earlier later : String}
    (h : compare.Quiet state earlier later) :
    (compare earlier later).run state = (compare.answerOn state earlier later, state) :=
  Prod.ext rfl h

/-- A search behind a candidate that is different ends as it does without this one. -/
theorem SearchEnds.cons
    {candidate : String}
    {candidates : List String}
    {result : Except ComparisonFault (Option String)}
    (hdifferent : answer candidate path = .ok false)
    (h : SearchEnds answer path candidates result) :
    SearchEnds answer path (candidate :: candidates) result := by
  cases result with
  | ok found =>
      exact .skipped hdifferent h
  | error fault =>
      obtain ⟨earlier, hmem, hfails⟩ := h
      exact ⟨earlier, List.mem_cons_of_mem _ hmem, hfails⟩

/-- A quiet comparer searches by its answers. -/
theorem findSame_of_quiet
    {candidates : List String}
    (hquiet : ∀ candidate ∈ candidates, compare.Quiet state candidate path) :
    ∃ made result,
      (findSame compare path candidates).run state = ((made, result), state) ∧
      SearchEnds (compare.answerOn state) path candidates result := by
  induction candidates with
  | nil =>
      exact ⟨[], .ok none, rfl, .exhausted⟩
  | cons candidate candidates ih =>
      obtain ⟨hfirst, hrest⟩ := List.forall_mem_cons.1 hquiet
      rw [findSame, StateT.run_bind, hfirst.run_eq]
      cases hanswer : compare.answerOn state candidate path with
      | error cause =>
          exact ⟨_, _, rfl, candidate, List.mem_cons_self, rfl, hanswer⟩
      | ok same =>
          cases same with
          | true =>
              exact ⟨_, _, rfl, .matched hanswer⟩
          | false =>
              obtain ⟨made, result, hrun, hends⟩ := ih hrest
              refine ⟨⟨candidate, path⟩ :: made, result, ?_, hends.cons hanswer⟩
              change (findSame compare path candidates >>= fun later =>
                pure (⟨candidate, path⟩ :: later.1, later.2) : StateM σ _).run state = _
              rw [StateT.run_bind, hrun]
              rfl

/-- A classification behind a texture that has its verdict ends as it does without this one. -/
theorem ClassificationEnds.cons
    {exemplars before textures : List Dump}
    {texture : Dump}
    {verdict : Verdict}
    {result : Except ComparisonFault (List Verdict)}
    (hbefore : ∀ earlier ∈ before, earlier ∈ exemplars ++ [texture])
    (hverdict : ∀ verdicts, Classified answer before textures verdicts →
      Classified answer exemplars (texture :: textures) (verdict :: verdicts))
    (h : ClassificationEnds answer before textures result) :
    ClassificationEnds answer exemplars (texture :: textures) (result.map (verdict :: ·)) := by
  cases result with
  | ok verdicts =>
      exact hverdict verdicts h
  | error fault =>
      obtain ⟨earlier, hearlier, later, hlater, hfails⟩ := h
      refine ⟨earlier, ?_, later, List.mem_cons_of_mem _ hlater, hfails⟩
      rcases List.mem_append.1 hearlier with hmem | hmem
      · exact (List.mem_append.1 (hbefore earlier hmem)).elim (List.mem_append_left _) fun h =>
          List.mem_append_right _ (List.mem_singleton.1 h ▸ List.mem_cons_self)
      · exact List.mem_append_right _ (List.mem_cons_of_mem _ hmem)

/-- A quiet comparer classifies by its answers. -/
theorem classifyAfter_of_quiet
    {exemplars textures : List Dump}
    (hquiet : OnPairs (compare.Quiet state) exemplars textures) :
    ∃ made result,
      (classifyAfter compare exemplars textures).run state = ((made, result), state) ∧
      ClassificationEnds (compare.answerOn state) exemplars textures result := by
  induction textures generalizing exemplars with
  | nil =>
      exact ⟨[], .ok [], rfl, .nil⟩
  | cons texture textures ih =>
      obtain ⟨made, searched, hsearch, hends⟩ := findSame_of_quiet hquiet.candidates
      rw [classifyAfter, StateT.run_bind, hsearch]
      cases searched with
      | error fault =>
          obtain ⟨candidate, hmem, hcomparison, hfails⟩ := hends
          obtain ⟨earlier, hearlier, rfl⟩ := List.mem_map.1 hmem
          exact ⟨_, _, rfl, earlier, List.mem_append_left _ (List.mem_filter.1 hearlier).1,
            texture, List.mem_cons_self, hcomparison, hfails⟩
      | ok found =>
          cases found with
          | none =>
              obtain ⟨later, result, hrun, hrest⟩ := ih hquiet.exemplar
              refine ⟨made ++ later, result.map (.exemplar texture.path :: ·), ?_,
                hrest.cons (fun _ h => h) fun _ => .exemplar hends⟩
              change (classifyAfter compare (exemplars ++ [texture]) textures >>= fun later =>
                pure (made ++ later.1, later.2.map (.exemplar texture.path :: ·)) :
                  StateM σ _).run state = _
              rw [StateT.run_bind, hrun]
              rfl
          | some exemplar =>
              obtain ⟨later, result, hrun, hrest⟩ := ih hquiet.copy
              refine ⟨made ++ later, result.map (.copy texture.path exemplar :: ·), ?_,
                hrest.cons (fun _ => List.mem_append_left _) fun _ => .copy hends⟩
              change (classifyAfter compare exemplars textures >>= fun later =>
                pure (made ++ later.1, later.2.map (.copy texture.path exemplar :: ·)) :
                  StateM σ _).run state = _
              rw [StateT.run_bind, hrun]
              rfl

end Comparing

section Folder

variable {σ : Type} {compare : Comparer σ} {state : σ} {tree : FileTree} {folder : String}

/-- Only a folder can be listed. -/
theorem exists_of_readFolder
    {entries : List (String × Entry)}
    (h : tree.readFolder folder = .ok entries) :
    ∃ location,
      tree.entryAt folder = .ok (location, .folder) ∧ tree.children location = entries := by
  rw [readFolder] at h
  split at h
  · next location hfolder =>
      exact ⟨location, hfolder, Except.ok.inj h⟩
  · cases h
  · cases h

/-- Looking for copies with a quiet comparer changes nothing.  It ends with the verdicts of the
answers, unless the folder cannot be read or a comparison fails. -/
theorem findCopies_of_quiet
    (hquiet : ∀ entries, tree.readFolder folder = .ok entries →
      OnPairs (compare.Quiet state) [] (ofEntries folder entries)) :
    ∃ made result,
      (findCopies tree folder compare).run state = ((made, result), state) ∧
      match result with
      | .ok verdicts =>
          ∃ location, tree.entryAt folder = .ok (location, .folder) ∧
            Classified (compare.answerOn state) [] (ofEntries folder (tree.children location))
              verdicts
      | .error (.folder path cause) => path = folder ∧ tree.readFolder folder = .error cause
      | .error (.comparison fault) =>
          ∃ location, tree.entryAt folder = .ok (location, .folder) ∧
            ClassificationEnds (compare.answerOn state) []
              (ofEntries folder (tree.children location)) (.error fault) := by
  cases hentries : tree.readFolder folder with
  | error cause =>
      rw [findCopies, hentries]
      exact ⟨[], _, rfl, rfl, rfl⟩
  | ok entries =>
      obtain ⟨location, hfolder, rfl⟩ : ∃ location,
          tree.entryAt folder = .ok (location, .folder) ∧ tree.children location = entries :=
        exists_of_readFolder hentries
      obtain ⟨made, result, hrun, hends⟩ := classifyAfter_of_quiet (hquiet _ hentries)
      rw [run_findCopies hentries, classify, hrun]
      cases result with
      | ok verdicts => exact ⟨made, .ok verdicts, rfl, location, hfolder, hends⟩
      | error fault => exact ⟨made, .error (.comparison fault), rfl, location, hfolder, hends⟩

end Folder

end Texture
end CaptureKit
