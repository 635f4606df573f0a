import CaptureKit.Proofs.Log.Pushing
import CaptureKit.Proofs.Log.RefusedLoads
import Mathlib.Data.List.Forall2

/-!
# Traces with groups that are not whole

Each group of a trace is closed once: by the load behind it, or by the end.  What is reported
then is about this group alone, however many groups were reported before, since a group that
is not whole leaves nothing behind but the address that is held.

Main statement: what pushing a trace on behind refusals reports, and which programs are complete
on the way (`groups_reported_once`).
-/

namespace CaptureKit
namespace Log

open Microcode

/-- The event is a load, which closes a group. -/
def Event.isLoad : Event → Bool
  | .slot _ _ => false
  | .load _ => true
  | .word _ => false

/-- What is reported of a group when it is closed: nothing, or the number of its words. -/
def WordGroup.Reported (group : WordGroup) : Option AssemblyFault → Prop
  | none => 4 ∣ group.words.length
  | some fault =>
      ¬ 4 ∣ group.words.length ∧ ∃ description, fault = .ragged description group.words.length

/-- The words of programs, each program for itself. -/
def codeOf (programs : List Program) : List (List Word) :=
  programs.map fun program => program.slots.flatMap Slot.words

/-- The words of the groups that make up whole instructions and are not empty. -/
def codeIn (groups : List WordGroup) : List (List Word) :=
  (groups.map WordGroup.words).filter fun words => 4 ∣ words.length ∧ words ≠ []

namespace Assembly

/-- What the pushes of loads report. -/
def closings
    (A : Assembly)
    (events : List Event) :
    List (Option AssemblyFault) :=
  ((events.zip (A.replies events)).filter (·.1.isLoad)).map Prod.snd

/-- What finishing reports. -/
def lastReply (A : Assembly) : Option AssemblyFault :=
  match A.conclude with
  | .error fault => some fault
  | .ok _ => none

theorem closings_load
    (A : Assembly)
    (address : Word)
    (events : List Event) :
    A.closings (.load address :: events) =
      (A.accept (.load address)).2 :: (A.accept (.load address)).1.closings events :=
  rfl

theorem closings_word
    (A : Assembly)
    (value : Word)
    (events : List Event) :
    A.closings (.word value :: events) = (A.accept (.word value)).1.closings events :=
  rfl

/-- Only loads are refused. -/
theorem reply_eq_none_of_not_isLoad
    {A : Assembly}
    (h : A.kind = .methodTrace)
    (events : List Event) :
    ∀ push ∈ events.zip (A.replies events), push.1.isLoad = false → push.2 = none := by
  induction events generalizing A with
  | nil =>
      exact nofun
  | cons e events ih =>
      rw [replies, List.zip_cons_cons]
      refine List.forall_mem_cons.2 ⟨fun hload => ?_, ih ((accept_fields A e).1.trans h)⟩
      cases e with
      | slot index code => simp only [accept, h]
      | load address => cases hload
      | word value => rw [accept_word h]

end Assembly

section Closings

variable (retention : Retention)

/-- Each group is reported when it is closed, the last one at the end. -/
theorem closings_tracing
    (done : List Program)
    (address : Option Word)
    (words : List Word)
    (events : List Event) :
    (Assembly.tracing retention done words (address.map loadDescription)).closings events ++
        [((Assembly.tracing retention done words (address.map loadDescription)).pushAll
          events).lastReply] =
      (heldFrom ⟨address, words ++ leadingWords events⟩ (loadedGroups events)).map
        WordGroup.fault? := by
  -- The programs that are complete and the group that is being read vary along the events.
  induction events generalizing done address words with
  | nil =>
      have hend :
          (Assembly.tracing retention done words (address.map loadDescription)).conclude = _ :=
        conclude_tracing_of_group retention done ⟨address, words⟩
      have hlast :
          (Assembly.tracing retention done words (address.map loadDescription)).lastReply =
            WordGroup.fault? ⟨address, words⟩ := by
        rw [Assembly.lastReply, hend]
        cases WordGroup.fault? ⟨address, words⟩ <;> rfl
      rw [leadingWords, List.append_nil]
      exact congrArg (fun reply => [reply]) hlast
  | cons e events ih =>
      cases e with
      | slot index code =>
          exact ih done address words
      | load next =>
          -- The load closes the group; the next one is held under the old address if this one
          -- was refused.
          let group : WordGroup := ⟨address, words⟩
          have hstep :
              (Assembly.tracing retention done words (address.map loadDescription)).accept
                  (.load next) =
                (Assembly.tracing retention (done ++ group.programs) []
                  ((if group.IsWhole then some next else address).map loadDescription),
                  group.fault?) :=
            accept_tracing_load_of_group retention done group next
          have hrest :=
            ih (done ++ group.programs) (if group.IsWhole then some next else address) []
          rw [leadingWords, List.append_nil, loadedGroups, heldFrom_cons, Assembly.closings_load,
            Assembly.pushAll_cons, hstep]
          exact congrArg (group.fault? :: ·) hrest
      | word value =>
          have hrest := ih done address (words ++ [value])
          rw [List.append_assoc, List.singleton_append] at hrest
          rw [Assembly.closings_word, Assembly.pushAll_cons, Assembly.accept_tracing_word]
          exact hrest

/-- What is reported of groups that are held under some address is about their words. -/
theorem forall₂_reported
    {groups held : List WordGroup}
    (h : held.map WordGroup.words = groups.map WordGroup.words) :
    List.Forall₂ WordGroup.Reported groups (held.map WordGroup.fault?) := by
  rw [← List.forall₂_eq_eq_eq, List.forall₂_map_left_iff, List.forall₂_map_right_iff] at h
  rw [List.forall₂_map_right_iff]
  refine h.flip.imp fun group held hwords => ?_
  have hsame : held.words = group.words := hwords
  rw [WordGroup.fault?, hsame]
  split
  · next hwhole =>
      exact (congrArg (4 ∣ ·.length) hsame).mp hwhole
  · next hragged =>
      exact ⟨fun hwhole => hragged ((congrArg (4 ∣ ·.length) hsame).mpr hwhole),
        held.description, rfl⟩

theorem codeOf_eq_map_words
    {programs : List Program}
    {groups : List WordGroup}
    (h : List.Forall₂ MadeOf programs groups) :
    codeOf programs = groups.map WordGroup.words := by
  rw [codeOf, ← List.forall₂_eq_eq_eq, List.forall₂_map_left_iff, List.forall₂_map_right_iff]
  exact h.imp fun _ _ hmade => hmade.1

/-- The programs of groups have the words of those that are whole and not empty. -/
theorem codeOf_flatMap_programs (groups : List WordGroup) :
    codeOf (groups.flatMap WordGroup.programs) = codeIn groups := by
  rw [codeOf_eq_map_words (forall₂_programs groups), codeIn, List.filter_map]
  rfl

/-- The groups that are closed by the loads among the first events are the first groups. -/
theorem dropLast_groups
    (address : Option Word)
    (words : List Word)
    (front behind : List Event) :
    (WordGroup.mk address (words ++ leadingWords front) :: loadedGroups front).dropLast =
      (WordGroup.mk address (words ++ leadingWords (front ++ behind)) ::
        loadedGroups (front ++ behind)).take (front.countP Event.isLoad) := by
  induction front generalizing address words with
  | nil =>
      rfl
  | cons e front ih =>
      cases e with
      | slot index code =>
          exact ih address words
      | load next =>
          have hrest := ih (some next) []
          rw [List.countP_cons_of_pos rfl, List.cons_append, leadingWords, leadingWords,
            loadedGroups, loadedGroups, List.take_succ_cons]
          rw [List.append_nil, List.dropLast_cons_cons]
          exact congrArg (_ :: ·) hrest
      | word value =>
          have hrest := ih address (words ++ [value])
          rw [List.append_assoc, List.append_assoc, List.singleton_append,
            List.singleton_append] at hrest
          rw [List.countP_cons_of_neg (by simp [Event.isLoad])]
          exact hrest

/-- What is complete while a trace is read comes from the groups that are closed by then. -/
theorem codeOf_complete
    (front behind : List Event) :
    codeOf ((Assembly.start .methodTrace .all).pushAll front).complete.programs =
      codeIn ((wordGroups (front ++ behind)).take (front.countP Event.isLoad)) := by
  obtain ⟨closed, last, hheld, hpush⟩ := pushAll_tracing .all [] none [] front
  have hclosed : closed.map WordGroup.words =
      ((wordGroups (front ++ behind)).take (front.countP Event.isLoad)).map WordGroup.words := by
    have hwords := map_words_heldFrom ⟨none, [] ++ leadingWords front⟩ (loadedGroups front)
    rw [hheld, List.map_append, List.map_singleton] at hwords
    have hgroups := dropLast_groups none [] front behind
    rw [List.nil_append, List.nil_append] at hgroups
    rw [wordGroups, ← hgroups, List.map_dropLast]
    rw [List.nil_append] at hwords
    rw [← hwords, List.dropLast_concat]
  have hcomplete :
      ((Assembly.start .methodTrace .all).pushAll front).complete.programs =
        closed.flatMap WordGroup.programs := by
    rw [Assembly.start_eq_tracing]
    exact (congrArg (·.complete.programs) hpush).trans (Collection.programs_addAll_all rfl _)
  rw [hcomplete, codeOf_flatMap_programs, codeIn, codeIn, hclosed]

end Closings

/-- Every group of a trace is reported once, by the load behind it or by the end: nothing if its
words make up whole instructions, and else their number.  Nothing else is reported.  After any
number of events the complete programs are those of the whole groups that are closed by then,
and if the end is not refused, those of all whole groups. -/
theorem groups_reported_once (events : List Event) :
    List.Forall₂ WordGroup.Reported (wordGroups events)
      ((Assembly.start .methodTrace .all).closings events ++
        [((Assembly.start .methodTrace .all).pushAll events).lastReply]) ∧
    (∀ push ∈ events.zip ((Assembly.start .methodTrace .all).replies events),
      push.1.isLoad = false → push.2 = none) ∧
    (∀ count,
      codeOf ((Assembly.start .methodTrace .all).pushAll (events.take count)).complete.programs =
        codeIn ((wordGroups events).take ((events.take count).countP Event.isLoad))) ∧
    (∀ c, ((Assembly.start .methodTrace .all).pushAll events).conclude = .ok c →
      codeOf c.programs = codeIn (wordGroups events)) := by
  have hwords : (heldGroups events).map WordGroup.words = (wordGroups events).map WordGroup.words :=
    map_words_heldFrom _ _
  refine ⟨?_, Assembly.reply_eq_none_of_not_isLoad rfl events, ?_, ?_⟩
  · have hreplies := closings_tracing .all [] none [] events
    rw [List.nil_append] at hreplies
    rw [Assembly.start_eq_tracing]
    exact hreplies ▸ forall₂_reported hwords
  · intro count
    have hcomplete := codeOf_complete (events.take count) (events.drop count)
    rwa [List.take_append_drop] at hcomplete
  · intro c hc
    have hprograms : c.programs = (heldGroups events).flatMap WordGroup.programs := by
      rw [conclude_pushAll_tracing .all [] none [] events hc]
      exact Collection.programs_addAll_all rfl _
    rw [hprograms, codeOf_flatMap_programs, codeIn, codeIn, hwords]

-- The second load closes a group of one word, the third one a whole group behind it.
example :
    (Assembly.start .methodTrace .all).closings
        [.load 16, .word 9, .load 32, .word 1, .word 2, .word 3, .word 4, .load 48] =
      [none, some (.ragged (loadDescription 16) 1), none] := by
  decide

end Log
end CaptureKit
