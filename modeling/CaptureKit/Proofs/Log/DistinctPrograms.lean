import CaptureKit.Proofs.Log.Running

/-!
# Keeping every program or only distinct ones

What an assembly keeps of complete programs has no influence on how it goes on.  So two
assemblies of the same events, one that keeps every program and one that keeps only
distinct ones, refuse the same event with the same fault, and else the second has the first
occurrences among the programs of the first (`assemble_distinct_of_all`).
-/

namespace CaptureKit
namespace Log

open Microcode

/-- The assembly of distinct programs is that of all programs, with those that are complete
put on top of an empty collection of distinct ones. -/
theorem start_distinct_eq_above (kind : LogKind) :
    Assembly.start kind .distinct = (Assembly.start kind .all).above (.empty .distinct) :=
  rfl

/-- Assembling distinct programs adds all programs, in order, to a collection of distinct
ones. -/
theorem assemble_distinct_eq_map
    (kind : LogKind)
    (events : List Event) :
    assemble kind .distinct events =
      (assemble kind .all events).map fun every =>
        (Collection.empty .distinct).addAll every.programs := by
  -- A collection that keeps everything can be put on top of any other.
  have hkeep :
      (Assembly.start kind .all).complete.retention = .distinct →
        (Collection.empty .distinct).retention = .distinct :=
    fun _ => rfl
  rw [assemble, start_distinct_eq_above, Assembly.run_above hkeep, ← assemble]

/-- Whether every program is kept or only distinct ones decides nothing but which of equal
programs are enumerated: the events are refused for the same fault, and else the distinct
programs are all programs without those whose instructions occurred earlier. -/
theorem assemble_distinct_of_all
    (kind : LogKind)
    (events : List Event) :
    match assemble kind .all events with
    | .error fault => assemble kind .distinct events = .error fault
    | .ok every =>
        ∃ distinct : Collection,
          assemble kind .distinct events = .ok distinct ∧
          distinct.programs = Collection.firstOccurrences every.programs := by
  rw [assemble_distinct_eq_map]
  cases assemble kind .all events with
  | error fault =>
      rfl
  | ok every =>
      exact ⟨_, rfl, Collection.programs_addAll_eq_firstOccurrences every.programs⟩

/-- Of two uploads of the same instructions the first one stays, with its description. -/
example :
    (assemble .methodTrace .distinct
      [.load 16, .word 1, .word 2, .word 3, .word 4, .load 32, .word 1, .word 2, .word 3,
        .word 4]).map Collection.programs =
      .ok [⟨[⟨1, 2, 3, 4⟩], some "Shader at 0x10 (16)"⟩] := by
  cbv

end Log
end CaptureKit
