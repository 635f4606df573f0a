import CaptureKit.Texture.Comparer

/-!
# Verdicts of a comparer that judges contents

A comparer may change files and may remember what it saw.  If it does neither, but judges two
files by what is read from them, then the verdicts on textures depend on these judgements alone
(`Classified`), and the classification can be said without running the comparer.  The same holds
of any comparer whose answers on the textures at hand are known (`Classified.run_of_answers`).

Main statements: the comparer finds exactly these verdicts (`Classified.run_classifyAfter`), and
the exemplars among the textures, taken alone, are all exemplars again
(`Classified.exists_kept`).
-/

namespace CaptureKit
namespace Texture

open Storage Text

/-- What a judge says of the files at two paths. -/
def judged
    (judge : Except IoFault Bytes → Except IoFault Bytes → Except IoFault Bool)
    (tree : FileTree)
    (earlier later : String) :
    Except IoFault Bool :=
  judge (tree.readBytes earlier) (tree.readBytes later)

/-- The comparer judges two files by what is read from them, and leaves all files alone. -/
def Comparer.Judges
    {σ : Type}
    (compare : Comparer σ)
    (files : σ → FileTree)
    (judge : Except IoFault Bytes → Except IoFault Bytes → Except IoFault Bool) :
    Prop :=
  ∀ state earlier later, ∃ next,
    (compare earlier later).run state =
      (judged judge (files state) earlier later, next) ∧
    files next = files state

/-- While this holds of what the comparer remembers, it gives the answer on two files, and it goes
on to hold. -/
def Comparer.AnswersWhile
    {σ : Type}
    (compare : Comparer σ)
    (holds : σ → Prop)
    (earlier later : String)
    (answer : Except IoFault Bool) :
    Prop :=
  ∀ state, holds state → ∃ next,
    (compare earlier later).run state = (answer, next) ∧ holds next

/-- The first of the candidates that is the same as the texture at a path, if there is one. -/
inductive Finds
    (same : String → String → Except IoFault Bool)
    (path : String) :
    List String → Option String → Prop
  | exhausted :
      Finds same path [] none
  | matched
      {candidate : String} {candidates : List String}
      (hsame : same candidate path = .ok true) :
      Finds same path (candidate :: candidates) (some candidate)
  | skipped
      {candidate : String} {candidates : List String} {found : Option String}
      (hdifferent : same candidate path = .ok false)
      (hrest : Finds same path candidates found) :
      Finds same path (candidate :: candidates) found

/-- The verdicts on textures behind the given exemplars. -/
inductive Classified
    (same : String → String → Except IoFault Bool) :
    List Dump → List Dump → List Verdict → Prop
  | nil
      {exemplars : List Dump} :
      Classified same exemplars [] []
  | exemplar
      {exemplars textures : List Dump} {texture : Dump} {verdicts : List Verdict}
      (hfinds : Finds same texture.path (candidates exemplars texture) none)
      (hrest : Classified same (exemplars ++ [texture]) textures verdicts) :
      Classified same exemplars (texture :: textures) (.exemplar texture.path :: verdicts)
  | copy
      {exemplars textures : List Dump} {texture : Dump} {verdicts : List Verdict}
      {found : String}
      (hfinds : Finds same texture.path (candidates exemplars texture) (some found))
      (hrest : Classified same exemplars textures verdicts) :
      Classified same exemplars (texture :: textures) (.copy texture.path found :: verdicts)

/-- This holds of each texture and of all that stand before it or beside it. -/
def OnPairs (p : String → String → Prop) (exemplars textures : List Dump) : Prop :=
  ∀ earlier ∈ exemplars ++ textures, ∀ later ∈ textures, p earlier.path later.path

/-- The texture was the first of its kind. -/
def Verdict.isExemplar : Verdict → Bool
  | .exemplar _ => true
  | .copy .. => false

section Searching

variable {same other : String → String → Except IoFault Bool} {path : String}
  {candidates : List String} {found : Option String}

/-- A search finds something or nothing if no comparison fails. -/
theorem exists_finds
    (h : ∀ candidate ∈ candidates, (same candidate path).isOk = true) :
    ∃ found, Finds same path candidates found := by
  induction candidates with
  | nil =>
      exact ⟨none, .exhausted⟩
  | cons candidate candidates ih =>
      have hfirst := h candidate List.mem_cons_self
      cases hanswer : same candidate path with
      | error cause =>
          rw [hanswer] at hfirst
          cases hfirst
      | ok answer =>
          cases answer with
          | true =>
              exact ⟨some candidate, .matched hanswer⟩
          | false =>
              obtain ⟨found, hfound⟩ := ih fun later hmem => h later (List.mem_cons_of_mem _ hmem)
              exact ⟨found, .skipped hanswer hfound⟩

/-- What is found is a candidate, and it is the same. -/
theorem Finds.mem_and_same
    {exemplar : String}
    (h : Finds same path candidates (some exemplar)) :
    exemplar ∈ candidates ∧ same exemplar path = .ok true := by
  generalize hfound : some exemplar = found at h
  induction h with
  | exhausted =>
      cases hfound
  | matched hsame =>
      cases hfound
      exact ⟨List.mem_cons_self, hsame⟩
  | skipped _ _ ih =>
      obtain ⟨hmem, hsame⟩ := ih hfound
      exact ⟨List.mem_cons_of_mem _ hmem, hsame⟩

/-- A search depends on the comparisons with its candidates alone. -/
theorem Finds.congr
    (h : Finds same path candidates found)
    (hsame : ∀ candidate ∈ candidates, other candidate path = same candidate path) :
    Finds other path candidates found := by
  induction h with
  | exhausted =>
      exact .exhausted
  | matched hfirst =>
      exact .matched ((hsame _ List.mem_cons_self).trans hfirst)
  | skipped hfirst _ ih =>
      exact .skipped ((hsame _ List.mem_cons_self).trans hfirst)
        (ih fun later hmem => hsame later (List.mem_cons_of_mem _ hmem))

end Searching

section Pairs

variable {p : String → String → Prop} {exemplars textures : List Dump} {texture : Dump}

theorem OnPairs.candidates
    (h : OnPairs p exemplars (texture :: textures)) :
    ∀ candidate ∈ candidates exemplars texture, p candidate texture.path := by
  intro candidate hmem
  obtain ⟨earlier, hearlier, rfl⟩ := List.mem_map.1 hmem
  exact h earlier (List.mem_append_left _ (List.mem_filter.1 hearlier).1) texture
    List.mem_cons_self

theorem OnPairs.exemplar
    (h : OnPairs p exemplars (texture :: textures)) :
    OnPairs p (exemplars ++ [texture]) textures := by
  intro earlier hearlier later hlater
  rw [List.append_assoc] at hearlier
  exact h earlier hearlier later (List.mem_cons_of_mem _ hlater)

theorem OnPairs.copy
    (h : OnPairs p exemplars (texture :: textures)) :
    OnPairs p exemplars textures := by
  intro earlier hearlier later hlater
  refine h earlier ?_ later (List.mem_cons_of_mem _ hlater)
  exact List.mem_append.2 ((List.mem_append.1 hearlier).imp id (List.mem_cons_of_mem _))

end Pairs

section Verdicts

variable {same other : String → String → Except IoFault Bool}
  {exemplars textures : List Dump} {verdicts : List Verdict}

/-- Textures have verdicts if no comparison fails. -/
theorem exists_classified
    (same : String → String → Except IoFault Bool)
    {exemplars textures : List Dump}
    (h : OnPairs (fun earlier later => (same earlier later).isOk = true) exemplars textures) :
    ∃ verdicts, Classified same exemplars textures verdicts := by
  induction textures generalizing exemplars with
  | nil =>
      exact ⟨[], .nil⟩
  | cons texture textures ih =>
      obtain ⟨found, hfound⟩ := exists_finds h.candidates
      cases found with
      | none =>
          obtain ⟨verdicts, hverdicts⟩ := ih h.exemplar
          exact ⟨_, .exemplar hfound hverdicts⟩
      | some exemplar =>
          obtain ⟨verdicts, hverdicts⟩ := ih h.copy
          exact ⟨_, .copy hfound hverdicts⟩

/-- Each texture has one verdict, in order. -/
theorem Classified.map_path (h : Classified same exemplars textures verdicts) :
    verdicts.map Verdict.path = textures.map Dump.path := by
  induction h with
  | nil => rfl
  | exemplar _ _ ih => exact congrArg (_ :: ·) ih
  | copy _ _ ih => exact congrArg (_ :: ·) ih

/-- A copy is the same as an exemplar before it. -/
theorem Classified.of_copy_mem
    (h : Classified same exemplars textures verdicts)
    {path exemplar : String}
    (hmem : .copy path exemplar ∈ verdicts) :
    same exemplar path = .ok true ∧
    (exemplar ∈ exemplars.map Dump.path ∨ .exemplar exemplar ∈ verdicts) := by
  induction h with
  | nil =>
      cases hmem
  | @exemplar exemplars _ texture _ _ _ ih =>
      rcases List.mem_cons.1 hmem with heq | hmem
      · cases heq
      · obtain ⟨hsame, hexemplar⟩ := ih hmem
        refine ⟨hsame, ?_⟩
        rcases hexemplar with hearlier | hlater
        · rw [List.map_append, List.mem_append, List.map_singleton, List.mem_singleton] at hearlier
          rcases hearlier with hearlier | rfl
          · exact .inl hearlier
          · exact .inr List.mem_cons_self
        · exact .inr (List.mem_cons_of_mem _ hlater)
  | copy hfinds _ ih =>
      rcases List.mem_cons.1 hmem with heq | hmem
      · cases heq
        obtain ⟨hcandidate, hsame⟩ := hfinds.mem_and_same
        refine ⟨hsame, .inl ?_⟩
        obtain ⟨earlier, hearlier, rfl⟩ := List.mem_map.1 hcandidate
        exact List.mem_map_of_mem (List.mem_filter.1 hearlier).1
      · obtain ⟨hsame, hexemplar⟩ := ih hmem
        exact ⟨hsame, hexemplar.imp id (List.mem_cons_of_mem _)⟩

/-- The exemplars, taken alone, are exemplars again. -/
theorem Classified.exists_kept (h : Classified same exemplars textures verdicts) :
    ∃ kept : List Dump, kept.Sublist textures ∧
      Classified same exemplars kept (verdicts.filter Verdict.isExemplar) := by
  induction h with
  | nil =>
      exact ⟨[], .slnil, .nil⟩
  | exemplar hfinds _ ih =>
      obtain ⟨kept, hsublist, hkept⟩ := ih
      exact ⟨_ :: kept, hsublist.cons_cons _, .exemplar hfinds hkept⟩
  | copy _ _ ih =>
      obtain ⟨kept, hsublist, hkept⟩ := ih
      exact ⟨kept, hsublist.cons _, hkept⟩

/-- Verdicts depend on the comparisons of the textures alone. -/
theorem Classified.congr
    (h : Classified same exemplars textures verdicts)
    (hsame : OnPairs (fun earlier later => other earlier later = same earlier later)
      exemplars textures) :
    Classified other exemplars textures verdicts := by
  induction h with
  | nil =>
      exact .nil
  | exemplar hfinds _ ih =>
      exact .exemplar (hfinds.congr hsame.candidates) (ih hsame.exemplar)
  | copy hfinds _ ih =>
      exact .copy (hfinds.congr hsame.candidates) (ih hsame.copy)

end Verdicts

section Running

variable {σ : Type} {compare : Comparer σ} {holds : σ → Prop} {files : σ → FileTree}
  {same : String → String → Except IoFault Bool}
  {judge : Except IoFault Bytes → Except IoFault Bytes → Except IoFault Bool}

/-- The comparer finds what is found by its answers. -/
theorem Finds.run_findSame
    {path : String}
    {candidates : List String}
    {found : Option String}
    (h : Finds same path candidates found)
    (hanswers : ∀ candidate ∈ candidates,
      compare.AnswersWhile holds candidate path (same candidate path))
    {state : σ}
    (hstate : holds state) :
    ∃ made next,
      (findSame compare path candidates).run state = ((made, .ok found), next) ∧ holds next := by
  induction h generalizing state with
  | exhausted =>
      exact ⟨[], state, rfl, hstate⟩
  | @matched candidate candidates hsame =>
      obtain ⟨next, hrun, hnext⟩ := hanswers candidate List.mem_cons_self state hstate
      rw [hsame] at hrun
      refine ⟨[⟨candidate, path⟩], next, ?_, hnext⟩
      rw [findSame, StateT.run_bind, hrun]
      rfl
  | @skipped candidate candidates found hdifferent _ ih =>
      obtain ⟨next, hrun, hnext⟩ := hanswers candidate List.mem_cons_self state hstate
      rw [hdifferent] at hrun
      obtain ⟨made, last, hrest, hlast⟩ :=
        ih (fun later hmem => hanswers later (List.mem_cons_of_mem _ hmem)) hnext
      refine ⟨⟨candidate, path⟩ :: made, last, ?_, hlast⟩
      rw [findSame, StateT.run_bind, hrun]
      change (findSame compare path candidates >>= fun later =>
        pure (⟨candidate, path⟩ :: later.1, later.2) : StateM σ _).run next = _
      rw [StateT.run_bind, hrest]
      rfl

/-- The comparer gives the verdicts of its answers. -/
theorem Classified.run_of_answers
    {exemplars textures : List Dump}
    {verdicts : List Verdict}
    (h : Classified same exemplars textures verdicts)
    (hanswers : OnPairs (fun earlier later =>
      compare.AnswersWhile holds earlier later (same earlier later)) exemplars textures)
    {state : σ}
    (hstate : holds state) :
    ∃ made next,
      (classifyAfter compare exemplars textures).run state = ((made, .ok verdicts), next) ∧
      holds next := by
  induction h generalizing state with
  | nil =>
      exact ⟨[], state, rfl, hstate⟩
  | @exemplar exemplars textures texture verdicts hfinds _ ih =>
      obtain ⟨made, next, hrun, hnext⟩ := hfinds.run_findSame hanswers.candidates hstate
      obtain ⟨later, last, hrest, hlast⟩ := ih hanswers.exemplar hnext
      refine ⟨made ++ later, last, ?_, hlast⟩
      rw [classifyAfter, StateT.run_bind, hrun]
      change (classifyAfter compare (exemplars ++ [texture]) textures >>= fun later =>
        pure (made ++ later.1, later.2.map (.exemplar texture.path :: ·)) :
          StateM σ _).run next = _
      rw [StateT.run_bind, hrest]
      rfl
  | @copy exemplars textures texture verdicts found hfinds _ ih =>
      obtain ⟨made, next, hrun, hnext⟩ := hfinds.run_findSame hanswers.candidates hstate
      obtain ⟨later, last, hrest, hlast⟩ := ih hanswers.copy hnext
      refine ⟨made ++ later, last, ?_, hlast⟩
      rw [classifyAfter, StateT.run_bind, hrun]
      change (classifyAfter compare exemplars textures >>= fun later =>
        pure (made ++ later.1, later.2.map (.copy texture.path found :: ·)) :
          StateM σ _).run next = _
      rw [StateT.run_bind, hrest]
      rfl

/-- A judge gives its judgements while the files are as they are. -/
theorem Comparer.Judges.answersWhile
    (hjudge : compare.Judges files judge)
    (tree : FileTree)
    (earlier later : String) :
    compare.AnswersWhile (files · = tree) earlier later (judged judge tree earlier later) := by
  rintro state rfl
  exact hjudge state earlier later

/-- The comparer gives the verdicts of its judgements. -/
theorem Classified.run_classifyAfter
    (hjudge : compare.Judges files judge)
    {state : σ}
    {exemplars textures : List Dump}
    {verdicts : List Verdict}
    (h : Classified (judged judge (files state)) exemplars textures verdicts) :
    ∃ made next,
      (classifyAfter compare exemplars textures).run state = ((made, .ok verdicts), next) ∧
      files next = files state :=
  h.run_of_answers (fun _ _ _ _ => hjudge.answersWhile _ _ _) rfl

/-- Files are the same by their bytes if both can be read. -/
def sameBytes (earlier later : Except IoFault Bytes) : Except IoFault Bool := do
  let a ← earlier
  let b ← later
  pure (a == b)

/-- Comparing files by their bytes is judging them by their bytes. -/
theorem judges_byContent : Comparer.Judges .byContent id sameBytes :=
  fun state _ _ => ⟨state, rfl, rfl⟩

end Running

end Texture
end CaptureKit
