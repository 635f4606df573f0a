import CaptureKit.Proofs.Log.TraceGroups

/-!
# Traces that go on behind a refused load

A load that comes behind words that are no whole instructions is refused.  Events can be
pushed on.  The words in front of the load are gone by then, but the assembly still holds
the description from before: the next group is assembled under the address of the last load
that was not refused (`programs_of_pushed_trace`), and not under its own
(`label_lost_behind_refused_load`).  The group behind that one has its own address again.
-/

namespace CaptureKit
namespace Log

open Microcode

/-- A group and those behind it, each with the address that is held while its words are
read.  The load behind a group that is not whole is refused, and the address stays. -/
def heldFrom : WordGroup → List WordGroup → List WordGroup
  | group, [] => [group]
  | group, next :: groups =>
      group ::
        heldFrom (if group.IsWhole then next else { next with address := group.address }) groups

/-- The groups of a trace, each with the address that is held while its words are read. -/
def heldGroups (events : List Event) : List WordGroup :=
  heldFrom ⟨none, leadingWords events⟩ (loadedGroups events)

/-- The address of the next group is held once the group in front of it is whole. -/
theorem heldFrom_cons
    (group next : WordGroup)
    (groups : List WordGroup) :
    heldFrom group (next :: groups) =
      group ::
        heldFrom ⟨if group.IsWhole then next.address else group.address, next.words⟩ groups := by
  rw [heldFrom]
  split <;> rfl

/-- A refused load does not move words from one group to another. -/
theorem map_words_heldFrom
    (group : WordGroup)
    (groups : List WordGroup) :
    (heldFrom group groups).map WordGroup.words = (group :: groups).map WordGroup.words := by
  induction groups generalizing group with
  | nil =>
      rfl
  | cons next groups ih =>
      rw [heldFrom, List.map_cons, ih, List.map_cons, List.map_cons, List.map_cons]
      split <;> rfl

theorem getElem?_zero_heldFrom
    (group : WordGroup)
    (groups : List WordGroup) :
    (heldFrom group groups)[0]? = some group := by
  cases groups <;> rfl

/-- A group is held under its own address if the group in front of it is whole. -/
theorem getElem?_succ_heldFrom
    (group : WordGroup)
    (groups : List WordGroup)
    (i : Nat)
    (h : ∀ previous, (group :: groups)[i]? = some previous → previous.IsWhole) :
    (heldFrom group groups)[i + 1]? = (group :: groups)[i + 1]? := by
  induction groups generalizing group i with
  | nil =>
      rfl
  | cons next groups ih =>
      rw [heldFrom, List.getElem?_cons_succ, List.getElem?_cons_succ]
      cases i with
      | zero =>
          rw [if_pos (h group rfl), getElem?_zero_heldFrom, List.getElem?_cons_zero]
      | succ i =>
          rw [ih, List.getElem?_cons_succ, List.getElem?_cons_succ]
          -- Whether a group is whole does not depend on the address it is held under.
          intro previous hprevious
          cases i with
          | zero =>
              have hnext : next.IsWhole := h next rfl
              rw [List.getElem?_cons_zero, Option.some.injEq] at hprevious
              subst hprevious
              split <;> exact hnext
          | succ i =>
              exact h previous hprevious

/-- What is reported when a group is closed. -/
def WordGroup.fault? (group : WordGroup) : Option AssemblyFault :=
  if group.IsWhole then none else some (.ragged group.description group.words.length)

section Pushes

variable (retention : Retention)
variable (done : List Program)

/-- A load closes the group in front of it: the program of the group is complete, or the group
is reported and its description stays. -/
theorem accept_tracing_load_of_group
    (group : WordGroup)
    (next : Word) :
    (Assembly.tracing retention done group.words group.description).accept (.load next) =
      (Assembly.tracing retention (done ++ group.programs) []
        ((if group.IsWhole then some next else group.address).map loadDescription),
        group.fault?) := by
  obtain ⟨address, words⟩ := group
  by_cases hwhole : WordGroup.IsWhole ⟨address, words⟩
  · obtain ⟨slots, rfl⟩ : ∃ slots : List Slot, words = slots.flatMap Slot.words :=
      hwhole.exists_slots
    rw [Assembly.accept_tracing_load, WordGroup.programs_of_slots, WordGroup.fault?,
      if_pos hwhole, if_pos hwhole]
    rfl
  · rw [Assembly.accept_tracing_load_ragged _ _ _ hwhole, WordGroup.programs_of_ragged hwhole,
      WordGroup.fault?, if_neg hwhole, if_neg hwhole, List.append_nil]
    rfl

/-- At the end the last group is closed in the same way. -/
theorem conclude_tracing_of_group (group : WordGroup) :
    (Assembly.tracing retention done group.words group.description).conclude =
      match group.fault? with
      | some fault => .error fault
      | none => .ok ((Collection.empty retention).addAll (done ++ group.programs)) := by
  obtain ⟨address, words⟩ := group
  by_cases hwhole : WordGroup.IsWhole ⟨address, words⟩
  · obtain ⟨slots, rfl⟩ : ∃ slots : List Slot, words = slots.flatMap Slot.words :=
      hwhole.exists_slots
    rw [Assembly.conclude_tracing, WordGroup.programs_of_slots, WordGroup.fault?,
      if_pos hwhole]
    rfl
  · rw [Assembly.conclude_tracing_ragged _ _ _ hwhole, WordGroup.fault?, if_neg hwhole]

/-- Pushed on behind refusals, a trace completes the groups that are closed and whole, and holds
the last one. -/
theorem pushAll_tracing
    (address : Option Word)
    (words : List Word)
    (events : List Event) :
    ∃ closed last,
      heldFrom ⟨address, words ++ leadingWords events⟩ (loadedGroups events) =
        closed ++ [last] ∧
      (Assembly.tracing retention done words (address.map loadDescription)).pushAll events =
        Assembly.tracing retention (done ++ closed.flatMap WordGroup.programs)
          last.words last.description := by
  induction events generalizing done address words with
  | nil =>
      refine ⟨[], ⟨address, words⟩, ?_, ?_⟩
      · rw [leadingWords, List.append_nil]
        rfl
      · rw [List.flatMap_nil, List.append_nil]
        rfl
  | cons e events ih =>
      cases e with
      | slot index code =>
          exact ih done address words
      | load next =>
          let group : WordGroup := ⟨address, words⟩
          obtain ⟨closed, last, hheld, hpush⟩ :=
            ih (done ++ group.programs) (if group.IsWhole then some next else address) []
          refine ⟨group :: closed, last, ?_, ?_⟩
          · rw [leadingWords, List.append_nil, loadedGroups, heldFrom_cons, List.cons_append,
              ← hheld]
            rfl
          · rw [List.flatMap_cons, ← List.append_assoc, ← hpush]
            exact congrArg (fun step => Assembly.pushAll step.1 events)
              (accept_tracing_load_of_group retention done group next)
      | word value =>
          have hrest := ih done address (words ++ [value])
          rw [List.append_assoc, List.singleton_append] at hrest
          rw [Assembly.pushAll, List.foldl_cons, Assembly.accept_tracing_word]
          exact hrest

end Pushes

/-- Pushed on behind refusals, a trace completes the groups that are whole. -/
theorem conclude_pushAll_tracing
    (retention : Retention)
    (done : List Program)
    (address : Option Word)
    (words : List Word)
    (events : List Event)
    {c : Collection}
    (h : ((Assembly.tracing retention done words (address.map loadDescription)).pushAll
      events).conclude = .ok c) :
    c = (Collection.empty retention).addAll
      (done ++
        (heldFrom ⟨address, words ++ leadingWords events⟩ (loadedGroups events)).flatMap
          WordGroup.programs) := by
  obtain ⟨closed, last, hheld, hpush⟩ := pushAll_tracing retention done address words events
  rw [hpush, conclude_tracing_of_group] at h
  rw [hheld, List.flatMap_append, List.flatMap_singleton, ← List.append_assoc]
  cases hfault : last.fault? with
  | some fault =>
      rw [hfault] at h
      cases h
  | none =>
      rw [hfault] at h
      exact (Except.ok.inj h).symm

/-- What pushing a trace to its end completes, also behind refused loads: one program for
each whole group that has words, in order, under the address that is held for the group.
This is the group's own address unless the group in front of it is not whole. -/
theorem programs_of_pushed_trace
    {events : List Event}
    {c : Collection}
    (h : ((Assembly.start .methodTrace .all).pushAll events).conclude = .ok c) :
    List.Forall₂ MadeOf
      c.programs
      ((heldGroups events).filter fun group => 4 ∣ group.words.length ∧ group.words ≠ []) ∧
    (heldGroups events).map WordGroup.words = (wordGroups events).map WordGroup.words ∧
    (heldGroups events)[0]? = (wordGroups events)[0]? ∧
    ∀ i,
      (∀ previous, (wordGroups events)[i]? = some previous → 4 ∣ previous.words.length) →
      (heldGroups events)[i + 1]? = (wordGroups events)[i + 1]? := by
  have hprograms : c.programs = (heldGroups events).flatMap WordGroup.programs := by
    rw [conclude_pushAll_tracing .all [] none [] events h]
    exact Collection.programs_addAll_all rfl _
  refine ⟨?_, map_words_heldFrom _ _, getElem?_zero_heldFrom _ _, ?_⟩
  · rw [hprograms]
    exact forall₂_programs (heldGroups events)
  · intro i hprevious
    exact getElem?_succ_heldFrom _ _ i hprevious

/-- The load of 32 is refused: its words are held under 16, and those behind it under 48. -/
theorem programs_of_pushed_trace_refused :
    ((Assembly.start .methodTrace .all).pushAll
      [.load 16, .word 9, .load 32, .word 1, .word 2, .word 3, .word 4, .load 48, .word 5,
        .word 6, .word 7, .word 8]).conclude =
      .ok ((Collection.empty .all).addAll
        [⟨[⟨1, 2, 3, 4⟩], some (loadDescription 16)⟩,
          ⟨[⟨5, 6, 7, 8⟩], some (loadDescription 48)⟩]) ∧
    List.Forall₂ MadeOf
      [⟨[⟨1, 2, 3, 4⟩], some (loadDescription 16)⟩, ⟨[⟨5, 6, 7, 8⟩], some (loadDescription 48)⟩]
      [⟨some 16, [1, 2, 3, 4]⟩, ⟨some 48, [5, 6, 7, 8]⟩] := by
  have hfinish :
      ((Assembly.start .methodTrace .all).pushAll
        [.load 16, .word 9, .load 32, .word 1, .word 2, .word 3, .word 4, .load 48, .word 5,
          .word 6, .word 7, .word 8]).conclude =
        .ok ((Collection.empty .all).addAll
          [⟨[⟨1, 2, 3, 4⟩], some (loadDescription 16)⟩,
            ⟨[⟨5, 6, 7, 8⟩], some (loadDescription 48)⟩]) := by
    rfl
  exact ⟨hfinish, (programs_of_pushed_trace hfinish).1⟩

/-- A program does not always have the address of the last load in front of its words: one
that was refused is not held. -/
theorem label_lost_behind_refused_load :
    ¬ ∀ (events : List Event) (c : Collection),
      ((Assembly.start .methodTrace .all).pushAll events).conclude = .ok c →
      List.Forall₂ MadeOf
        c.programs
        ((wordGroups events).filter fun group =>
          4 ∣ group.words.length ∧ group.words ≠ []) := by
  intro h
  have hgroups :
      ((wordGroups [.word 9, .load 32, .word 1, .word 2, .word 3, .word 4]).filter fun group =>
        4 ∣ group.words.length ∧ group.words ≠ []) = [⟨some 32, [1, 2, 3, 4]⟩] := by
    decide
  have hlabels :=
    h [.word 9, .load 32, .word 1, .word 2, .word 3, .word 4]
      ((Collection.empty .all).addAll [⟨[⟨1, 2, 3, 4⟩], none⟩]) rfl
  rw [hgroups] at hlabels
  cases hlabels with
  | cons hlabel _ => cases hlabel.2

end Log
end CaptureKit
