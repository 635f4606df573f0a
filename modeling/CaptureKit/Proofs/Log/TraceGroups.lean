import CaptureKit.Proofs.Log.Numbering
import CaptureKit.Proofs.Log.TraceAssembly

/-!
# Words between loads

The loads of a method trace cut its words into groups: the words in front of the first load,
and then for each load the words up to the next one.  Written one behind the other the
groups are the trace again (`flatMap_events_wordGroups`).  A group is *whole* if its words make
up whole instructions.  Assembling the trace gives one program for each group that has
words, as long as all groups are whole; else it is refused for the first group that is not.

Main statement: the exact outcome for every list of events (`assemble_methodTrace_exact`).
-/

namespace CaptureKit
namespace Log

open Microcode

/-- The word that an event uploads. -/
def Event.uploadedWord? : Event → Option Word
  | .slot _ _ => none
  | .load _ => none
  | .word value => some value

/-- All words that are uploaded, in order. -/
def uploadedWords (events : List Event) : List Word :=
  events.filterMap Event.uploadedWord?

/-- Words of a method trace that no load divides. -/
structure WordGroup where
  /-- The load in front of the words, if there is one. -/
  address : Option Word
  words : List Word
  deriving DecidableEq, Repr

namespace WordGroup

/-- The words make up whole instructions. -/
def IsWhole (group : WordGroup) : Prop :=
  4 ∣ group.words.length

instance (group : WordGroup) : Decidable group.IsWhole :=
  inferInstanceAs (Decidable (4 ∣ group.words.length))

/-- How the load in front of the words describes their program. -/
def description (group : WordGroup) : Option String :=
  group.address.map loadDescription

/-- The events that write the group: its load, and then its words. -/
def events (group : WordGroup) : List Event :=
  (group.address.map Event.load).toList ++ group.words.map Event.word

/-- The program of the group, if there is one. -/
def programs (group : WordGroup) : List Program :=
  match Slot.ofWords? group.words with
  | some slots => endedProgram slots group.description
  | none => []

end WordGroup

/-- The program has the words of the group, and is described by its load. -/
def MadeOf (program : Program) (group : WordGroup) : Prop :=
  program.slots.flatMap Slot.words = group.words ∧
    program.description = group.address.map loadDescription

/-- The words in front of the first load. -/
def leadingWords : List Event → List Word
  | [] => []
  | .slot _ _ :: events => leadingWords events
  | .load _ :: _ => []
  | .word value :: events => value :: leadingWords events

/-- The groups that start with a load. -/
def loadedGroups : List Event → List WordGroup
  | [] => []
  | .slot _ _ :: events => loadedGroups events
  | .load address :: events => ⟨some address, leadingWords events⟩ :: loadedGroups events
  | .word _ :: events => loadedGroups events

/-- The groups of a trace.  The first one has no load and may be empty. -/
def wordGroups (events : List Event) : List WordGroup :=
  ⟨none, leadingWords events⟩ :: loadedGroups events

section Cutting

/-- The words in front of the first load and the groups behind it are all the words. -/
theorem leadingWords_append_flatMap (events : List Event) :
    leadingWords events ++ (loadedGroups events).flatMap WordGroup.words =
      uploadedWords events := by
  induction events with
  | nil =>
      rfl
  | cons e events ih =>
      cases e with
      | slot index code =>
          exact ih
      | load address =>
          exact ih
      | word value =>
          exact congrArg (value :: ·) ih

/-- No word is lost or changes its place when a trace is cut into groups. -/
theorem flatMap_words_wordGroups (events : List Event) :
    (wordGroups events).flatMap WordGroup.words = uploadedWords events :=
  leadingWords_append_flatMap events

/-- The groups, written one after the other, are the trace without instructions of the
other kind of log. -/
theorem flatMap_events_wordGroups (events : List Event) :
    (wordGroups events).flatMap WordGroup.events =
      events.filter fun e => e.instruction?.isNone := by
  have hcut :
      (leadingWords events).map Event.word ++
          (loadedGroups events).flatMap WordGroup.events =
        events.filter fun e => e.instruction?.isNone := by
    induction events with
    | nil =>
        rfl
    | cons e events ih =>
        cases e with
        | slot index code =>
            exact ih
        | load address =>
            exact congrArg (Event.load address :: ·) ih
        | word value =>
            exact congrArg (Event.word value :: ·) ih
  exact hcut

end Cutting

section WholeGroups

/-- Whole words are those of instructions. -/
theorem WordGroup.IsWhole.exists_slots
    {group : WordGroup}
    (h : group.IsWhole) :
    ∃ slots : List Slot, group.words = slots.flatMap Slot.words := by
  cases hslots : Slot.ofWords? group.words with
  | none =>
      have hmod := (Slot.ofWords?_eq_none_iff group.words).1 hslots
      exact absurd (Nat.mod_eq_zero_of_dvd h) hmod
  | some slots =>
      exact ⟨slots, (Slot.ofWords?_eq_some hslots).symm⟩

/-- The program of a whole group has its instructions. -/
theorem WordGroup.programs_of_slots
    (address : Option Word)
    (slots : List Slot) :
    (⟨address, slots.flatMap Slot.words⟩ : WordGroup).programs =
      endedProgram slots (address.map loadDescription) := by
  rw [WordGroup.programs, Slot.ofWords?_flatMap_words]
  rfl

/-- The program of a whole group has its words, and no others. -/
theorem WordGroup.IsWhole.flatMap_programs
    {group : WordGroup}
    (h : group.IsWhole) :
    (group.programs.flatMap fun program => program.slots.flatMap Slot.words) =
      group.words := by
  obtain ⟨address, words⟩ := group
  obtain ⟨slots, rfl⟩ : ∃ slots : List Slot, words = slots.flatMap Slot.words :=
    h.exists_slots
  rw [WordGroup.programs_of_slots, endedProgram]
  split
  · next hne =>
      rw [hne]
      rfl
  · simp

/-- A group that is not whole has no program. -/
theorem WordGroup.programs_of_ragged
    {group : WordGroup}
    (h : ¬ group.IsWhole) :
    group.programs = [] := by
  have hnone : Slot.ofWords? group.words = none := by
    rw [Slot.ofWords?_eq_none_iff]
    exact fun hmod => h (Nat.dvd_of_mod_eq_zero hmod)
  rw [WordGroup.programs, hnone]

/-- The programs of groups are made one by one from those that are whole and have words. -/
theorem forall₂_programs (groups : List WordGroup) :
    List.Forall₂ MadeOf
      (groups.flatMap WordGroup.programs)
      (groups.filter fun group => group.IsWhole ∧ group.words ≠ []) := by
  induction groups with
  | nil =>
      exact .nil
  | cons group groups ih =>
      rw [List.flatMap_cons]
      by_cases hwhole : group.IsWhole
      · obtain ⟨slots, hslots⟩ := hwhole.exists_slots
        have hprograms : group.programs = endedProgram slots group.description := by
          have := WordGroup.programs_of_slots group.address slots
          rwa [← hslots] at this
        by_cases hne : slots = []
        · have hwords : group.words = [] := by
            rw [hslots, hne, List.flatMap_nil]
          rw [hprograms, endedProgram, if_pos hne, List.nil_append,
            List.filter_cons_of_neg (by simp [hwords])]
          exact ih
        · have hwords : group.words ≠ [] := by
            obtain ⟨slot, slots, rfl⟩ := List.exists_cons_of_ne_nil hne
            simp [hslots, Slot.words]
          rw [hprograms, endedProgram, if_neg hne, List.singleton_append,
            List.filter_cons_of_pos (by simp [hwhole, hwords])]
          exact .cons ⟨hslots.symm, rfl⟩ ih
      · rw [WordGroup.programs_of_ragged hwhole, List.nil_append,
          List.filter_cons_of_neg (by simp [hwhole])]
        exact ih

end WholeGroups

section Outcome

/-- The fault of the first group that is not whole. -/
def firstRagged? (groups : List WordGroup) : Option AssemblyFault :=
  (groups.find? fun group => ¬ group.IsWhole).map fun group =>
    .ragged group.description group.words.length

theorem firstRagged?_of_isWhole
    {group : WordGroup}
    (h : group.IsWhole)
    (groups : List WordGroup) :
    firstRagged? (group :: groups) = firstRagged? groups := by
  simp [firstRagged?, h]

theorem firstRagged?_of_ragged
    {group : WordGroup}
    (h : ¬ group.IsWhole)
    (groups : List WordGroup) :
    firstRagged? (group :: groups) =
      some (.ragged group.description group.words.length) := by
  simp [firstRagged?, h]

/-- What a trace with these groups is assembled to, behind programs that are complete. -/
def groupOutcome
    (retention : Retention)
    (done : List Program)
    (groups : List WordGroup) :
    Except AssemblyFault Collection :=
  match firstRagged? groups with
  | some fault => .error fault
  | none => .ok ((Collection.empty retention).addAll (done ++ groups.flatMap WordGroup.programs))

/-- A whole group completes its program. -/
theorem groupOutcome_of_slots
    (retention : Retention)
    (done : List Program)
    (address : Option Word)
    (slots : List Slot)
    (groups : List WordGroup) :
    groupOutcome retention done (⟨address, slots.flatMap Slot.words⟩ :: groups) =
      groupOutcome retention
        (done ++ endedProgram slots (address.map loadDescription)) groups := by
  have hwhole : WordGroup.IsWhole ⟨address, slots.flatMap Slot.words⟩ := by
    rw [WordGroup.IsWhole, Slot.length_flatMap_words]
    exact Nat.dvd_mul_right 4 slots.length
  rw [groupOutcome, groupOutcome, firstRagged?_of_isWhole hwhole, List.flatMap_cons,
    WordGroup.programs_of_slots, List.append_assoc]

/-- A trace is assembled group by group.  The first group is the one that is being read. -/
theorem run_tracing_events
    (retention : Retention)
    (done : List Program)
    (address : Option Word)
    (words : List Word)
    (events : List Event) :
    (Assembly.tracing retention done words (address.map loadDescription)).run events =
      groupOutcome retention done
        (⟨address, words ++ leadingWords events⟩ :: loadedGroups events) := by
  induction events generalizing done address words with
  | nil =>
      rw [leadingWords, List.append_nil, loadedGroups, Assembly.run]
      by_cases hwhole : WordGroup.IsWhole ⟨address, words⟩
      · obtain ⟨slots, rfl⟩ : ∃ slots : List Slot, words = slots.flatMap Slot.words :=
          hwhole.exists_slots
        rw [Assembly.conclude_tracing, groupOutcome_of_slots]
        simp [groupOutcome, firstRagged?]
      · rw [Assembly.conclude_tracing_ragged _ _ _ hwhole, groupOutcome,
          firstRagged?_of_ragged hwhole]
        rfl
  | cons e events ih =>
      cases e with
      | slot index code =>
          rw [Assembly.run, Assembly.accept_tracing_slot]
          exact ih done address words
      | load next =>
          rw [leadingWords, List.append_nil, loadedGroups, Assembly.run]
          by_cases hwhole : WordGroup.IsWhole ⟨address, words⟩
          · obtain ⟨slots, rfl⟩ : ∃ slots : List Slot, words = slots.flatMap Slot.words :=
              hwhole.exists_slots
            rw [Assembly.accept_tracing_load, groupOutcome_of_slots]
            exact ih (done ++ endedProgram slots (address.map loadDescription)) (some next) []
          · rw [Assembly.accept_tracing_load_ragged _ _ _ hwhole, groupOutcome,
              firstRagged?_of_ragged hwhole]
            rfl
      | word value =>
          have hrest := ih done address (words ++ [value])
          rw [List.append_assoc, List.singleton_append] at hrest
          rw [Assembly.run, Assembly.accept_tracing_word]
          exact hrest

/-- A trace without a fault has only whole groups. -/
theorem firstRagged?_eq_none_iff {groups : List WordGroup} :
    firstRagged? groups = none ↔ ∀ group ∈ groups, group.IsWhole := by
  simp [firstRagged?, List.find?_eq_none]

/-- The fault of a trace is that of the first group that is not whole. -/
theorem exists_of_firstRagged?
    {groups : List WordGroup}
    {fault : AssemblyFault}
    (h : firstRagged? groups = some fault) :
    ∃ before group behind,
      groups = before ++ group :: behind ∧
      (∀ earlier ∈ before, earlier.IsWhole) ∧
      ¬ group.IsWhole ∧
      fault = .ragged group.description group.words.length := by
  obtain ⟨group, hfind, rfl⟩ := Option.map_eq_some_iff.1 h
  obtain ⟨hgroup, before, behind, rfl, hbefore⟩ := List.find?_eq_some_iff_append.1 hfind
  refine ⟨before, group, behind, rfl, ?_, by simpa using hgroup, rfl⟩
  intro earlier hearlier
  simpa using hbefore earlier hearlier

/-- A trace is assembled to the outcome of its groups. -/
theorem assemble_methodTrace
    (retention : Retention)
    (events : List Event) :
    assemble .methodTrace retention events = groupOutcome retention [] (wordGroups events) :=
  run_tracing_events retention [] none [] events

end Outcome

/-- The exact outcome of assembling a method trace. -/
theorem assemble_methodTrace_exact (events : List Event) :
    ((∃ c, assemble .methodTrace .all events = .ok c) ↔
      ∀ group ∈ wordGroups events, 4 ∣ group.words.length) ∧
    match assemble .methodTrace .all events with
    | .ok c =>
        List.Forall₂ MadeOf
          c.programs ((wordGroups events).filter fun group => group.words ≠ []) ∧
        (c.programs.flatMap fun program => program.slots.flatMap Slot.words) =
          uploadedWords events
    | .error fault =>
        ∃ before group behind,
          wordGroups events = before ++ group :: behind ∧
          (∀ earlier ∈ before, 4 ∣ earlier.words.length) ∧
          ¬ 4 ∣ group.words.length ∧
          fault = .ragged (group.address.map loadDescription) group.words.length := by
  rw [assemble_methodTrace, groupOutcome]
  cases hfault : firstRagged? (wordGroups events) with
  | some fault =>
      obtain ⟨before, group, behind, hgroups, hbefore, hgroup, rfl⟩ :=
        exists_of_firstRagged? hfault
      refine ⟨⟨?_, ?_⟩, before, group, behind, hgroups, hbefore, hgroup, rfl⟩
      · rintro ⟨c, hc⟩
        cases hc
      · intro hwhole
        exact absurd (hwhole group (by simp [hgroups])) hgroup
  | none =>
      have hwhole := firstRagged?_eq_none_iff.1 hfault
      have hprograms :
          ((Collection.empty .all).addAll
            ([] ++ (wordGroups events).flatMap WordGroup.programs)).programs =
            (wordGroups events).flatMap WordGroup.programs :=
        Collection.programs_addAll_all rfl _
      have hkept :
          ((wordGroups events).filter fun group => group.IsWhole ∧ group.words ≠ []) =
            (wordGroups events).filter fun group => group.words ≠ [] := by
        apply List.filter_congr
        intro group hgroup
        simp [hwhole group hgroup]
      refine ⟨⟨fun _ => hwhole, fun _ => ⟨_, rfl⟩⟩, ?_, ?_⟩
      · rw [hprograms, ← hkept]
        exact forall₂_programs (wordGroups events)
      · rw [hprograms, List.flatMap_assoc, ← flatMap_words_wordGroups]
        exact List.flatMap_congr fun group hgroup => (hwhole group hgroup).flatMap_programs

/-- An instruction of the other kind of log does not divide words, and a load without words
leaves no program. -/
example :
    (assemble .methodTrace .all
      [.word 1, .word 2, .slot 7 ⟨0, 0, 0, 0⟩, .word 3, .word 4, .load 16, .load 32, .word 5,
        .word 6, .word 7, .word 8]).map Collection.programs =
      .ok [⟨[⟨1, 2, 3, 4⟩], none⟩, ⟨[⟨5, 6, 7, 8⟩], some "Shader at 0x20 (32)"⟩] := by
  cbv

end Log
end CaptureKit
