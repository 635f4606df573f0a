import CaptureKit.Proofs.Log.DumpAssembly
import CaptureKit.Proofs.Log.Pushing

/-!
# Dumps that go on behind a refused instruction

An instruction with an index that does not fit is refused before anything is touched: the
words that are pending can always be completed, so index 0 is never refused, and any other
index is looked at first.  A dump that is pushed on behind refusals is therefore the dump of
its accepted instructions.

Main statement: what holds of the assembly at every moment (`undisturbed_pushAll`).
-/

namespace CaptureKit
namespace Log

open Microcode Text

namespace Assembly

/-- The assembly reads a shader dump. -/
def IsDumping
    (retention : Retention)
    (A : Assembly) :
    Prop :=
  ∃ done current, A = dumping retention done current

/-- What holds of the assembly of a shader dump after events were pushed, refused or not. -/
structure Undisturbed
    (retention : Retention)
    (events : List Event)
    (A : Assembly) :
    Prop where
  /-- A push is refused only for an index that is not the next one. -/
  gap : ∀ e fault, (A.accept e).2 = some fault →
    ∃ index code, e = .slot index code ∧ fault = .gap A.nextSlot index
  /-- A refused push changes nothing. -/
  unchanged : ∀ e fault, (A.accept e).2 = some fault → (A.accept e).1 = A
  /-- The accepted events alone lead to the same state, -/
  same : A = (start .shaderDump retention).pushAll
    ((start .shaderDump retention).accepted events)
  /-- and none of them is refused then. -/
  unrefused : ∀ reply ∈ (start .shaderDump retention).replies
    ((start .shaderDump retention).accepted events), reply = none
  /-- The assembly can be finished. -/
  finishes : ∃ c, A.conclude = .ok c
  /-- The pending words are those of the instructions up to the last index. -/
  pending : A.pending.size =
    match A.lastSlot with
    | some last => 4 * (last + 1)
    | none => 0
  /-- One more push only adds at the end of the complete programs. -/
  complete : ∀ e, A.complete.programs <+: (A.accept e).1.complete.programs
  /-- The next index is a machine word. -/
  nextSlot_lt : A.nextSlot < limit64

section Steps

variable {retention : Retention} {A : Assembly} {e : Event} {fault : AssemblyFault}

theorem isDumping_start : (start .shaderDump retention).IsDumping retention :=
  ⟨[], [], start_eq_dumping retention⟩

theorem IsDumping.accept
    (h : A.IsDumping retention)
    (e : Event) :
    (A.accept e).1.IsDumping retention := by
  obtain ⟨done, current, rfl⟩ := h
  obtain ⟨done', current', hstate, -⟩ := exists_accept_dumping retention done current e
  exact ⟨done', current', hstate⟩

/-- A push onto a dump is refused only for its index, and then changes nothing. -/
theorem IsDumping.of_refused
    (h : A.IsDumping retention)
    (hfault : (A.accept e).2 = some fault) :
    (A.accept e).1 = A ∧ ∃ index code, e = .slot index code ∧ fault = .gap A.nextSlot index := by
  obtain ⟨done, current, rfl⟩ := h
  cases e with
  | slot index code =>
      -- Index 0 first ends the program before it, which always succeeds in a dump.
      by_cases hzero : index = 0
      · rw [hzero, accept_dumping_zero] at hfault
        cases hfault
      · rw [accept_dumping_pos retention done current hzero] at hfault ⊢
        split at hfault
        · cases hfault
        · next hnext =>
            cases hfault
            rw [if_neg hnext, nextSlot_dumping]
            exact ⟨rfl, index, code, rfl, rfl⟩
  | load address =>
      cases hfault
  | word value =>
      cases hfault

theorem IsDumping.size_pending (h : A.IsDumping retention) :
    A.pending.size =
      match A.lastSlot with
      | some last => 4 * (last + 1)
      | none => 0 := by
  obtain ⟨done, current, rfl⟩ := h
  have hwords : (dumping retention done current).pending.size = 4 * current.length := by
    rw [← Slot.length_flatMap_words]
    rfl
  rw [hwords]
  cases current with
  | nil =>
      rfl
  | cons code current =>
      rfl

end Steps

end Assembly

open Assembly

/-- A shader dump that is pushed on behind refusals, at every moment: refusals are gaps and have
no effect, the words are those of whole instructions, and complete programs stay. -/
theorem undisturbed_pushAll
    (retention : Retention)
    (events : List Event)
    (hlength : events.length < limit64)
    (count : Nat) :
    Undisturbed retention (events.take count)
      ((start .shaderDump retention).pushAll (events.take count)) := by
  obtain ⟨done, current, hstate, -⟩ :=
    exists_pushAll_dumping retention (events.take count) [] []
  have hdumping : ((start .shaderDump retention).pushAll (events.take count)).IsDumping retention :=
    ⟨done, current, hstate⟩
  obtain ⟨hsame, hreplies⟩ := pushAll_accepted IsDumping.accept
    (fun h _ _ hfault => (h.of_refused hfault).1) isDumping_start (events.take count)
  refine ⟨?_, ?_, hsame.symm, hreplies, ?_, hdumping.size_pending, complete_prefix_accept _, ?_⟩
  · intro e fault hfault
    exact (hdumping.of_refused hfault).2
  · intro e fault hfault
    exact (hdumping.of_refused hfault).1
  · rw [start_eq_dumping, hstate, conclude_dumping]
    exact ⟨_, rfl⟩
  · calc
      ((start .shaderDump retention).pushAll (events.take count)).nextSlot
          ≤ (events.take count).length := nextSlot_pushAll_le retention _
      _ ≤ events.length := List.length_take_le' count events
      _ < limit64 := hlength

/-- A first index that is not 0, one that leaves a gap, and one that comes again are refused. -/
theorem undisturbed_pushAll_three_refusals :
    ([.slot 3 ⟨9, 9, 9, 9⟩, .slot 0 ⟨1, 2, 3, 4⟩, .slot 2 ⟨9, 9, 9, 9⟩, .slot 1 ⟨5, 6, 7, 8⟩,
      .slot 1 ⟨9, 9, 9, 9⟩] : List Event).length < limit64 ∧
    (start .shaderDump .distinct).accepted
      [.slot 3 ⟨9, 9, 9, 9⟩, .slot 0 ⟨1, 2, 3, 4⟩, .slot 2 ⟨9, 9, 9, 9⟩, .slot 1 ⟨5, 6, 7, 8⟩,
        .slot 1 ⟨9, 9, 9, 9⟩] = [.slot 0 ⟨1, 2, 3, 4⟩, .slot 1 ⟨5, 6, 7, 8⟩] ∧
    Undisturbed .distinct
      [.slot 3 ⟨9, 9, 9, 9⟩, .slot 0 ⟨1, 2, 3, 4⟩, .slot 2 ⟨9, 9, 9, 9⟩, .slot 1 ⟨5, 6, 7, 8⟩,
        .slot 1 ⟨9, 9, 9, 9⟩]
      (dumping .distinct [] [⟨1, 2, 3, 4⟩, ⟨5, 6, 7, 8⟩]) :=
  ⟨by decide, rfl,
    undisturbed_pushAll .distinct
      [.slot 3 ⟨9, 9, 9, 9⟩, .slot 0 ⟨1, 2, 3, 4⟩, .slot 2 ⟨9, 9, 9, 9⟩, .slot 1 ⟨5, 6, 7, 8⟩,
        .slot 1 ⟨9, 9, 9, 9⟩] (by decide) 5⟩

end Log
end CaptureKit
