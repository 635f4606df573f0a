import CaptureKit.Proofs.Log.Running

/-!
# Pushing on behind refusals

An event that is refused does not end an assembly: more events can be pushed.  Each push
reports its own fault or nothing (`replies`), and the events that were not refused are the
*accepted* ones.

Main statements: where a refusal leaves the assembly as it is, only the accepted events count
(`pushAll_accepted`), and no push takes a complete program away again (`complete_prefix_accept`).
-/

namespace CaptureKit
namespace Log

open Microcode

namespace Assembly

/-- What the pushes of events report, one after the other. -/
def replies (A : Assembly) : List Event → List (Option AssemblyFault)
  | [] => []
  | e :: events => (A.accept e).2 :: (A.accept e).1.replies events

/-- The events that are not refused when all of them are pushed. -/
def accepted
    (A : Assembly)
    (events : List Event) :
    List Event :=
  ((events.zip (A.replies events)).filter (·.2.isNone)).map Prod.fst

section Pushes

variable {A : Assembly}

theorem pushAll_cons
    (A : Assembly)
    (e : Event)
    (events : List Event) :
    A.pushAll (e :: events) = (A.accept e).1.pushAll events :=
  rfl

theorem accepted_cons_of_accepted
    {e : Event}
    (h : (A.accept e).2 = none)
    (events : List Event) :
    A.accepted (e :: events) = e :: (A.accept e).1.accepted events := by
  simp [accepted, replies, h]

theorem accepted_cons_of_refused
    {e : Event}
    {fault : AssemblyFault}
    (h : (A.accept e).2 = some fault)
    (events : List Event) :
    A.accepted (e :: events) = (A.accept e).1.accepted events := by
  simp [accepted, replies, h]

/-- Where a refusal leaves the assembly as it is, pushing the accepted events alone leads to the
same state, and none of them is refused then. -/
theorem pushAll_accepted
    {P : Assembly → Prop}
    (hstep : ∀ {A}, P A → ∀ e, P (A.accept e).1)
    (hrefused : ∀ {A}, P A → ∀ {e fault}, (A.accept e).2 = some fault → (A.accept e).1 = A)
    (hA : P A)
    (events : List Event) :
    A.pushAll (A.accepted events) = A.pushAll events ∧
      ∀ reply ∈ A.replies (A.accepted events), reply = none := by
  -- An event that is accepted is pushed in both runs.  One that is refused is pushed in the longer
  -- run only, where it leaves the state in which the shorter one already is.
  induction events generalizing A with
  | nil =>
      exact ⟨rfl, nofun⟩
  | cons e events ih =>
      obtain ⟨hstate, hreplies⟩ := ih (hstep hA e)
      cases hreply : (A.accept e).2 with
      | none =>
          rw [accepted_cons_of_accepted hreply, replies, hreply]
          exact ⟨hstate, List.forall_mem_cons.2 ⟨rfl, hreplies⟩⟩
      | some fault =>
          rw [hrefused hA hreply] at hstate hreplies
          rw [accepted_cons_of_refused hreply, pushAll_cons, hrefused hA hreply]
          exact ⟨hstate, hreplies⟩

end Pushes

section Complete

theorem complete_prefix_endProgram (A : Assembly) :
    A.complete.programs <+: A.endProgram.1.complete.programs := by
  unfold endProgram
  split
  · exact List.prefix_rfl
  · split
    · rw [Collection.programs_add]
      split
      · exact List.prefix_append _ _
      · exact List.prefix_rfl
    · exact List.prefix_rfl

/-- A push adds at the end of the complete programs, if it changes them at all. -/
theorem complete_prefix_accept
    (A : Assembly)
    (e : Event) :
    A.complete.programs <+: (A.accept e).1.complete.programs := by
  have hend := complete_prefix_endProgram A
  rcases hended : A.endProgram with ⟨ended, fault⟩
  rw [hended] at hend
  unfold accept
  split
  · split
    · rw [hended]
      cases fault <;> exact hend
    · split <;> exact List.prefix_rfl
  · rw [hended]
    cases fault <;> exact hend
  · exact List.prefix_rfl
  · exact List.prefix_rfl

end Complete

end Assembly

end Log
end CaptureKit
