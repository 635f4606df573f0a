import CaptureKit.Proofs.Microcode.Enumeration

/-!
# The history of a collection

Programs are offered to a collection one after the other, and each is kept or not.  What the
offers were answered, how many programs the collection has and which ones it enumerates stay
in step, whatever is offered: programs without instructions, the same instructions under
other descriptions, or the same program many times.

`IsHistory` says what holds between the offers, their answers and the collection.  One offer
preserves it (`IsHistory.add`), so it holds at every point of every history
(`isHistory_take`).
-/

namespace CaptureKit
namespace Microcode
namespace Collection

/-- For each of the programs, offered one after the other, whether it is kept. -/
def answers (c : Collection) : List Program → List Bool
  | [] => []
  | p :: ps => c.admits p :: (c.add p).answers ps

/-- The programs that were kept by their answers, in order. -/
def keptOf
    (offered : List Program)
    (answers : List Bool) :
    List Program :=
  ((offered.zip answers).filter Prod.snd).map Prod.fst

/-- What holds of a collection after the programs were offered and answered. -/
structure IsHistory
    (retention : Retention)
    (offered : List Program)
    (answers : List Bool)
    (c : Collection) :
    Prop where
  /-- What is kept does not change on the way. -/
  retention_eq : c.retention = retention
  /-- Each offer has its answer. -/
  length_eq : answers.length = offered.length
  /-- A collection of distinct programs keeps those whose instructions were not offered
  before. -/
  answers_distinct :
    retention = .distinct →
      answers = offered.zipIdx.map fun item => decide (IsFirst offered item)
  /-- A collection of everything keeps each program. -/
  answers_all : retention = .all → answers = offered.map fun _ => true
  /-- What is enumerated are the programs that were kept, as they were offered. -/
  programs_eq : c.programs = keptOf offered answers
  /-- A collection of everything enumerates whatever was offered. -/
  programs_all : retention = .all → c.programs = offered
  /-- No instructions are enumerated twice by a collection of distinct programs. -/
  nodup : retention = .distinct → (c.programs.map Program.slots).Nodup
  /-- All instructions that were offered are there, and no others. -/
  mem_slots_iff :
    ∀ slots, slots ∈ c.programs.map Program.slots ↔ slots ∈ offered.map Program.slots
  /-- As many programs are there as were kept. -/
  size_eq : c.size = answers.count true
  /-- Nothing is there exactly if nothing was kept. -/
  isEmpty_iff : c.isEmpty = true ↔ true ∉ answers

/-- Nothing was offered yet. -/
theorem isHistory_empty (retention : Retention) :
    IsHistory retention [] [] (empty retention) where
  retention_eq := rfl
  length_eq := rfl
  answers_distinct _ := rfl
  answers_all _ := rfl
  programs_eq := rfl
  programs_all _ := rfl
  nodup := (empty retention).nodup
  mem_slots_iff _ := Iff.rfl
  size_eq := rfl
  isEmpty_iff := by simp [isEmpty, empty]

section Offering

variable {retention : Retention} {offered : List Program} {answers : List Bool} {c : Collection}

/-- One more program with its answer. -/
theorem keptOf_append_singleton
    (h : answers.length = offered.length)
    (p : Program)
    (answer : Bool) :
    keptOf (offered ++ [p]) (answers ++ [answer]) =
      keptOf offered answers ++ if answer then [p] else [] := by
  rw [keptOf, List.zip_append h.symm, List.filter_append, List.map_append, ← keptOf]
  cases answer <;> rfl

/-- A program is admitted if everything is kept, or if its instructions were not offered. -/
theorem IsHistory.admits_distinct
    (h : IsHistory retention offered answers c)
    (hdistinct : retention = .distinct)
    (p : Program) :
    c.admits p = decide (IsFirst (offered ++ [p]) (p, offered.length)) := by
  have hadmits := admits_distinct_iff (h.retention_eq.trans hdistinct) p
  rw [h.mem_slots_iff] at hadmits
  rw [Bool.eq_iff_iff, hadmits, decide_eq_true_iff]
  simp [IsFirst]

/-- One more offer is answered and changes the collection by its answer. -/
theorem IsHistory.add
    (h : IsHistory retention offered answers c)
    (p : Program) :
    IsHistory retention (offered ++ [p]) (answers ++ [c.admits p]) (c.add p) where
  retention_eq := (retention_add c p).trans h.retention_eq
  length_eq := by
    rw [List.length_append, List.length_append, h.length_eq, List.length_singleton,
      List.length_singleton]
  answers_distinct hdistinct := by
    have hfront :
        (offered.zipIdx.map fun item => decide (IsFirst (offered ++ [p]) item)) = answers := by
      rw [h.answers_distinct hdistinct]
      exact List.map_congr_left fun item hitem =>
        decide_eq_decide.2 (isFirst_append_iff hitem [p])
    rw [List.zipIdx_append, List.map_append, hfront, h.admits_distinct hdistinct]
    simp
  answers_all hall := by
    have hadmits : c.admits p = true := by
      simp [admits, h.retention_eq.trans hall]
    rw [h.answers_all hall, hadmits, List.map_append, List.map_singleton]
  programs_eq := by
    rw [keptOf_append_singleton h.length_eq, programs_add, h.programs_eq]
    cases c.admits p with
    | true => rfl
    | false => exact (List.append_nil _).symm
  programs_all hall := by
    rw [programs_add_all (h.retention_eq.trans hall), h.programs_all hall]
  nodup hdistinct := (c.add p).nodup ((retention_add c p).trans (h.retention_eq.trans hdistinct))
  mem_slots_iff slots := by
    rw [mem_slots_add_iff, h.mem_slots_iff, List.map_append, List.mem_append, List.map_singleton,
      List.mem_singleton]
  size_eq := by
    have hsize : c.programs.length = answers.count true := h.size_eq
    rw [size, programs_add, List.count_append, ← hsize]
    cases c.admits p <;> simp
  isEmpty_iff := by
    have hempty : c.programs.isEmpty = true ↔ true ∉ answers := h.isEmpty_iff
    rw [isEmpty, programs_add, List.mem_append, not_or, ← hempty]
    cases c.admits p <;> simp

/-- Any number of offers. -/
theorem IsHistory.addAll
    (h : IsHistory retention offered answers c)
    (ps : List Program) :
    IsHistory retention (offered ++ ps) (answers ++ c.answers ps) (c.addAll ps) := by
  induction ps generalizing offered answers c with
  | nil =>
      rw [List.append_nil, Collection.answers, List.append_nil]
      exact h
  | cons p ps ih =>
      have hnext := ih (h.add p)
      rw [List.append_assoc, List.append_assoc] at hnext
      exact hnext

/-- What later programs are has no influence on the answers of the first ones. -/
theorem answers_take
    (c : Collection)
    (ps : List Program)
    (n : Nat) :
    c.answers (ps.take n) = (c.answers ps).take n := by
  induction ps generalizing c n with
  | nil =>
      simp [Collection.answers]
  | cons p ps ih =>
      cases n with
      | zero =>
          rfl
      | succ n =>
          rw [List.take_succ_cons, Collection.answers, ih, Collection.answers, List.take_succ_cons]

end Offering

/-- At every point of its history a collection has kept exactly the programs whose offers were
answered so, in order and with their own descriptions, and counts them.  A collection of
distinct programs keeps those whose instructions were not offered before, and a collection of
everything keeps each one. -/
theorem isHistory_take
    (retention : Retention)
    (ps : List Program)
    (n : Nat) :
    IsHistory retention (ps.take n) (((empty retention).answers ps).take n)
      ((empty retention).addAll (ps.take n)) := by
  have hstart := (isHistory_empty retention).addAll (ps.take n)
  rwa [List.nil_append, List.nil_append, answers_take] at hstart

/-- The second of two equal programs is not kept, though it has another description. -/
example :
    (empty .distinct).answers
      [⟨[⟨1, 2, 3, 4⟩], some "first"⟩, ⟨[], none⟩, ⟨[⟨1, 2, 3, 4⟩], some "second"⟩] =
      [true, true, false] := by
  decide

end Collection
end Microcode
end CaptureKit
