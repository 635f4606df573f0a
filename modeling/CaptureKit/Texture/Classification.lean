import CaptureKit.Storage.IoFault

/-!
# Exemplars and copies

Textures are taken in a fixed order.  Each is compared with the exemplars before it that
have its size, one after the other, until one is the same: then it is a copy of that
one, and otherwise it is an exemplar itself.  Copies are compared with nothing later.

A comparer may remember something from one comparison to the next.

Main statements: every texture gets exactly one verdict, in the order of the textures
(`paths_classify`), and if all comparisons succeed, so does the classification
(`classify_isOk`).
-/

namespace CaptureKit
namespace Texture

open Storage

/-- A dumped texture: where it is and how many bytes it has. -/
structure Dump where
  path : String
  size : Nat
  deriving DecidableEq, Repr

/-- Says of an earlier and a later file whether they are the same. -/
abbrev Comparer (σ : Type) := (earlier later : String) → StateM σ (Except IoFault Bool)

/-- What a texture turned out to be. -/
inductive Verdict
  /-- The first of its kind. -/
  | exemplar (path : String)
  /-- The same as an exemplar before it. -/
  | copy (path exemplar : String)
  deriving DecidableEq, Repr

/-- The texture that a verdict is about. -/
def Verdict.path : Verdict → String
  | .exemplar path => path
  | .copy path _ => path

/-- The two files of a comparison that was made. -/
structure Comparison where
  earlier : String
  later : String
  deriving DecidableEq, Repr

/-- A comparison that failed. -/
structure ComparisonFault where
  comparison : Comparison
  cause : IoFault
  deriving DecidableEq, Repr

/-- Looks among candidates for one that is the same as the texture at a path.  The
comparisons made come with the answer. -/
def findSame
    {σ : Type}
    (compare : Comparer σ)
    (path : String) :
    List String →
      StateM σ (List Comparison × Except ComparisonFault (Option String))
  | [] => pure ([], .ok none)
  | candidate :: candidates => do
      match ← compare candidate path with
      | .error cause => pure ([⟨candidate, path⟩], .error ⟨⟨candidate, path⟩, cause⟩)
      | .ok true => pure ([⟨candidate, path⟩], .ok (some candidate))
      | .ok false =>
          let (made, answer) ← findSame compare path candidates
          pure (⟨candidate, path⟩ :: made, answer)

/-- The exemplars that a texture is compared with. -/
def candidates
    (exemplars : List Dump)
    (texture : Dump) :
    List String :=
  (exemplars.filter (·.size == texture.size)).map Dump.path

/-- Gives each texture its verdict, where `exemplars` are the exemplars before. -/
def classifyAfter
    {σ : Type}
    (compare : Comparer σ)
    (exemplars : List Dump) :
    List Dump → StateM σ (List Comparison × Except ComparisonFault (List Verdict))
  | [] => pure ([], .ok [])
  | texture :: textures => do
      match ← findSame compare texture.path (candidates exemplars texture) with
      | (made, .error fault) => pure (made, .error fault)
      | (made, .ok none) =>
          let (later, verdicts) ← classifyAfter compare (exemplars ++ [texture]) textures
          pure (made ++ later, verdicts.map (.exemplar texture.path :: ·))
      | (made, .ok (some exemplar)) =>
          let (later, verdicts) ← classifyAfter compare exemplars textures
          pure (made ++ later, verdicts.map (.copy texture.path exemplar :: ·))

/-- Gives each texture its verdict. -/
def classify
    {σ : Type}
    (compare : Comparer σ)
    (textures : List Dump) :
    StateM σ (List Comparison × Except ComparisonFault (List Verdict)) :=
  classifyAfter compare [] textures

theorem paths_classifyAfter
    {σ : Type}
    {compare : Comparer σ}
    {exemplars textures : List Dump}
    {state : σ}
    {verdicts : List Verdict}
    (h : ((classifyAfter compare exemplars textures).run state).1.2 = .ok verdicts) :
    verdicts.map Verdict.path = textures.map Dump.path := by
  induction textures generalizing exemplars state verdicts with
  | nil =>
      cases h
      rfl
  | cons texture textures ih =>
      have tail : ∀ {exemplars : List Dump} {next : σ} {verdict : Verdict},
          verdict.path = texture.path →
          (((classifyAfter compare exemplars textures).run next).1.2.map (verdict :: ·)) =
            .ok verdicts →
          verdicts.map Verdict.path = (texture :: textures).map Dump.path := by
        intro exemplars next verdict hpath hmap
        cases hrest : ((classifyAfter compare exemplars textures).run next).1.2 with
        | error fault => simp [hrest, Except.map] at hmap
        | ok rest =>
            simp only [hrest, Except.map, Except.ok.injEq] at hmap
            subst hmap
            simp [hpath, ih hrest]
      rcases hfind : (findSame compare texture.path (candidates exemplars texture)).run state with
        ⟨⟨made, answer⟩, next⟩
      simp only [classifyAfter, StateT.run_bind, hfind] at h
      cases answer with
      | error fault => cases h
      | ok found =>
          cases found with
          | none => exact tail rfl h
          | some exemplar => exact tail rfl h

/-- Each texture gets one verdict, in order. -/
theorem paths_classify
    {σ : Type}
    {compare : Comparer σ}
    {textures : List Dump}
    {state : σ}
    {verdicts : List Verdict}
    (h : ((classify compare textures).run state).1.2 = .ok verdicts) :
    verdicts.map Verdict.path = textures.map Dump.path :=
  paths_classifyAfter h

theorem findSame_isOk
    {σ : Type}
    {compare : Comparer σ}
    (total : ∀ a b state, ((compare a b).run state).1.isOk = true)
    (path : String)
    (candidates : List String)
    (state : σ) :
    ((findSame compare path candidates).run state).1.2.isOk = true := by
  induction candidates generalizing state with
  | nil => rfl
  | cons candidate candidates ih =>
      have h := total candidate path state
      rcases hanswer : (compare candidate path).run state with ⟨answer, next⟩
      rw [hanswer] at h
      simp only [findSame, StateT.run_bind, hanswer]
      cases answer with
      | error cause => cases h
      | ok same =>
          cases same with
          | true => rfl
          | false => exact ih next

theorem classifyAfter_isOk
    {σ : Type}
    {compare : Comparer σ}
    (total : ∀ a b state, ((compare a b).run state).1.isOk = true)
    (exemplars textures : List Dump)
    (state : σ) :
    ((classifyAfter compare exemplars textures).run state).1.2.isOk = true := by
  induction textures generalizing exemplars state with
  | nil => rfl
  | cons texture textures ih =>
      have tail : ∀ (exemplars : List Dump) (next : σ) (verdict : Verdict),
          (((classifyAfter compare exemplars textures).run next).1.2.map
            (verdict :: ·)).isOk = true := by
        intro exemplars next verdict
        have := ih exemplars next
        revert this
        cases ((classifyAfter compare exemplars textures).run next).1.2 <;>
          simp [Except.map, Except.isOk, Except.toBool]
      have hfind := findSame_isOk total texture.path (candidates exemplars texture) state
      rcases hrun : (findSame compare texture.path (candidates exemplars texture)).run state with
        ⟨⟨made, answer⟩, next⟩
      rw [hrun] at hfind
      simp only [classifyAfter, StateT.run_bind, hrun]
      cases answer with
      | error fault => cases hfind
      | ok found =>
          cases found with
          | none => exact tail _ next _
          | some exemplar => exact tail _ next _

/-- Only a comparison that fails stops the classification. -/
theorem classify_isOk
    {σ : Type}
    {compare : Comparer σ}
    (total : ∀ a b state, ((compare a b).run state).1.isOk = true)
    (textures : List Dump)
    (state : σ) :
    ((classify compare textures).run state).1.2.isOk = true :=
  classifyAfter_isOk total [] textures state

end Texture
end CaptureKit
