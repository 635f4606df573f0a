import CaptureKit.Microcode.Program

/-!
# Collections of programs

A collection keeps the programs of a log in the order in which they were found.  It
either keeps every one, or only the first of those with the same instructions.
-/

namespace CaptureKit
namespace Microcode

/-- What a collection does with a program that it has already. -/
inductive Retention
  /-- Only the first of equal programs stays. -/
  | distinct
  /-- Every program stays. -/
  | all
  deriving DecidableEq, Repr

/-- Programs in the order in which they were found. -/
structure Collection where
  retention : Retention
  programs : List Program
  /-- A collection of distinct programs holds no instructions twice. -/
  nodup : retention = .distinct → (programs.map Program.slots).Nodup

namespace Collection

/-- The collection without programs. -/
def empty (retention : Retention) : Collection :=
  ⟨retention, [], fun _ => List.nodup_nil⟩

/-- Whether the collection would keep the program. -/
def admits
    (collection : Collection)
    (program : Program) :
    Bool :=
  match collection.retention with
  | .all => true
  | .distinct => !collection.programs.any program.sameCode

/-- A collection of distinct programs admits exactly new instructions. -/
theorem admits_distinct_iff
    {collection : Collection}
    (h : collection.retention = .distinct)
    (program : Program) :
    collection.admits program = true ↔
      program.slots ∉ collection.programs.map Program.slots := by
  simp only [admits, h, Bool.not_eq_true', List.any_eq_false, Program.sameCode_iff,
    List.mem_map, not_exists, not_and]
  exact ⟨fun hne q hq e => hne q hq e.symm, fun hne q hq e => hne q hq e.symm⟩

/-- Puts the program behind the others, if it is kept at all. -/
def add
    (collection : Collection)
    (program : Program) :
    Collection :=
  if h : collection.admits program then
    { collection with
      programs := collection.programs ++ [program]
      nodup := by
        intro hdistinct
        rw [List.map_append, List.nodup_append]
        refine ⟨collection.nodup hdistinct, by simp, ?_⟩
        intro slots hslots other hother
        rw [List.map_singleton, List.mem_singleton] at hother
        subst hother
        rintro rfl
        exact (admits_distinct_iff hdistinct program).1 h hslots }
  else collection

/-- Adds programs one after the other. -/
def addAll
    (collection : Collection)
    (programs : List Program) :
    Collection :=
  programs.foldl add collection

/-- The number of programs kept. -/
def size (collection : Collection) : Nat := collection.programs.length

/-- Nothing is kept yet. -/
def isEmpty (collection : Collection) : Bool := collection.programs.isEmpty

@[simp] theorem retention_add
    (collection : Collection)
    (program : Program) :
    (collection.add program).retention = collection.retention := by
  unfold add
  split <;> rfl

/-- What is kept is what was there and, if admitted, the program at the end. -/
theorem programs_add
    (collection : Collection)
    (program : Program) :
    (collection.add program).programs =
      if collection.admits program then collection.programs ++ [program]
      else collection.programs := by
  unfold add
  split <;> simp_all

end Collection

end Microcode
end CaptureKit
