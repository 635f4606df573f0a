import CaptureKit.Log.Assembly
import CaptureKit.Proofs.Microcode.Enumeration

/-!
# Running an assembly

An assembly takes events until one is refused.  Two facts carry over from one step to a
whole run.  What an assembly does never depends on the programs that are complete: they
can as well be put on top of another collection (`run_above`).  And an event that starts a
program leaves nothing of what was read before but the complete programs, so that a run can
be cut in front of it (`run_append_of_startsProgram`).
-/

namespace CaptureKit
namespace Log

open Microcode

/-- The event starts a program in a log of this kind. -/
def Event.StartsProgram : LogKind → Event → Prop
  | .shaderDump, .slot index _ => index = 0
  | .methodTrace, .load _ => True
  | _, _ => False

/-- The program that ends with these slots, unless there are none. -/
def endedProgram
    (slots : List Slot)
    (description : Option String) :
    List Program :=
  if slots = [] then [] else [⟨slots, description⟩]

namespace Assembly

/-- The state after events were pushed, whether or not they were refused. -/
def pushAll
    (A : Assembly)
    (events : List Event) :
    Assembly :=
  events.foldl (fun state event => (state.accept event).1) A

section Steps

variable {A : Assembly}

/-- Index 0 ends the last program and starts one. -/
theorem accept_slot_zero
    (h : A.kind = .shaderDump)
    (code : Slot) :
    A.accept (.slot 0 code) =
      match A.endProgram with
      | (ended, none) => (ended.append 0 code, none)
      | (ended, some fault) => (ended, some fault) := by
  simp only [accept, h]
  rfl

/-- Any other index is refused unless it is the next one. -/
theorem accept_slot_pos
    (h : A.kind = .shaderDump)
    {index : Nat}
    (hpos : index ≠ 0)
    (code : Slot) :
    A.accept (.slot index code) =
      if index = A.nextSlot then (A.append index code, none)
      else (A, some (.gap A.nextSlot index)) := by
  simp only [accept, h]
  exact if_neg hpos

/-- A load address ends the last program and describes the next one. -/
theorem accept_load
    (h : A.kind = .methodTrace)
    (address : Word) :
    A.accept (.load address) =
      match A.endProgram with
      | (ended, none) => ({ ended with description := some (loadDescription address) }, none)
      | (ended, some fault) => (ended, some fault) := by
  obtain ⟨kind, pending, lastSlot, description, complete⟩ := A
  cases h
  rfl

/-- A word goes on with the program that is being read. -/
theorem accept_word
    (h : A.kind = .methodTrace)
    (value : Word) :
    A.accept (.word value) = ({ A with pending := A.pending.push value }, none) := by
  simp only [accept, h]

/-- Pending words that make up whole instructions end as one program, or as none. -/
theorem endProgram_of_words
    {slots : List Slot}
    (h : A.pending = (slots.flatMap Slot.words).toArray) :
    A.endProgram =
      ({ A with
        pending := #[]
        complete := A.complete.addAll (endedProgram slots A.description) }, none) := by
  have hwords : Slot.ofWords? A.pending.toList = some slots := by
    rw [h]
    exact Slot.ofWords?_flatMap_words slots
  cases slots with
  | nil =>
      obtain ⟨kind, pending, lastSlot, description, complete⟩ := A
      have hpending : pending = #[] := h
      subst hpending
      rfl
  | cons slot slots =>
      have hpending : A.pending.isEmpty = false := by
        simp [h, Slot.words]
      simp [endProgram, endedProgram, hpending, hwords]

end Steps

section Fields

/-- Ending a program leaves no words pending; else it only adds to the complete programs. -/
theorem endProgram_fields
    {A ended : Assembly}
    {fault : Option AssemblyFault}
    (h : A.endProgram = (ended, fault)) :
    ended.pending = #[] ∧
      ended.kind = A.kind ∧
      ended.lastSlot = A.lastSlot ∧
      ended.description = A.description ∧
      ended.complete.retention = A.complete.retention := by
  unfold endProgram at h
  split at h
  · next hempty =>
      cases h
      exact ⟨Array.isEmpty_iff.1 hempty, rfl, rfl, rfl, rfl⟩
  · split at h
    · cases h
      exact ⟨rfl, rfl, rfl, rfl, Collection.retention_add _ _⟩
    · cases h
      exact ⟨rfl, rfl, rfl, rfl, rfl⟩

/-- The field that only logs of the other kind use has never been set. -/
def OwnFields (A : Assembly) : Prop :=
  match A.kind with
  | .shaderDump => A.description = none
  | .methodTrace => A.lastSlot = none

theorem ownFields_start
    (kind : LogKind)
    (retention : Retention) :
    (start kind retention).OwnFields := by
  cases kind <;> rfl

/-- No event changes the kind of the log, what is kept, or the field of the other kind. -/
theorem accept_fields
    (A : Assembly)
    (e : Event) :
    (A.accept e).1.kind = A.kind ∧
      (A.accept e).1.complete.retention = A.complete.retention ∧
      (A.OwnFields → (A.accept e).1.OwnFields) := by
  rcases hend : A.endProgram with ⟨ended, fault⟩
  obtain ⟨-, hkind, hlast, hdescription, hretention⟩ := endProgram_fields hend
  unfold accept
  split
  · split
    · rw [hend]
      cases fault <;> simp_all [append, OwnFields]
    · split <;> simp_all [append, OwnFields]
  · rw [hend]
    cases fault <;> simp_all [OwnFields]
  · simp_all [OwnFields]
  · exact ⟨rfl, rfl, id⟩

end Fields

section Above

variable {base : Collection}

/-- The assembly with its complete programs put on top of a collection. -/
def above
    (A : Assembly)
    (base : Collection) :
    Assembly :=
  { A with complete := base.addAll A.complete.programs }

/-- Ending a program does not depend on the complete programs. -/
theorem endProgram_above
    {A : Assembly}
    (h : A.complete.retention = .distinct → base.retention = .distinct) :
    (A.above base).endProgram = (A.endProgram.1.above base, A.endProgram.2) := by
  unfold endProgram
  by_cases hempty : A.pending.isEmpty = true
  · simp [above, hempty]
  · cases hslots : Slot.ofWords? A.pending.toList with
    | none =>
        simp [above, hempty, hslots]
    | some slots =>
        simp [above, hempty, hslots, Collection.addAll_programs_add h]

/-- Taking an event does not depend on the complete programs. -/
theorem accept_above
    {A : Assembly}
    (h : A.complete.retention = .distinct → base.retention = .distinct)
    (e : Event) :
    (A.above base).accept e = ((A.accept e).1.above base, (A.accept e).2) := by
  have hend := endProgram_above h
  have hkind : (A.above base).kind = A.kind := rfl
  have hnext : (A.above base).nextSlot = A.nextSlot := rfl
  rcases hplain : A.endProgram with ⟨ended, fault⟩
  rw [hplain] at hend
  unfold accept
  rw [hkind, hnext, hend, hplain]
  split
  · split
    · cases fault <;> rfl
    · split <;> rfl
  · cases fault <;> rfl
  · rfl
  · rfl

/-- A whole run does not depend on the complete programs: they are put on top of the
others at its end. -/
theorem run_above
    {A : Assembly}
    (h : A.complete.retention = .distinct → base.retention = .distinct)
    (xs : List Event) :
    (A.above base).run xs = (A.run xs).map fun c => base.addAll c.programs := by
  induction xs generalizing A with
  | nil =>
      rw [run, run, conclude, conclude, endProgram_above h]
      rcases A.endProgram with ⟨ended, _ | fault⟩ <;> rfl
  | cons x xs ih =>
      rw [run, run, accept_above h]
      rcases hx : A.accept x with ⟨next, _ | fault⟩
      · have hnext : next.complete.retention = .distinct → base.retention = .distinct := by
          have hretention := (accept_fields A x).2.1
          rw [hx] at hretention
          exact fun hd => h (hretention.symm.trans hd)
        exact ih hnext
      · rfl

end Above

section Boundary

/-- An event that starts a program leaves of what was read before only the complete
programs, or is refused with the fault that ends the last program. -/
theorem accept_of_startsProgram
    {A : Assembly}
    (hown : A.OwnFields)
    {e : Event}
    (he : e.StartsProgram A.kind) :
    ∃ first : Assembly,
      (start A.kind A.complete.retention).accept e = (first, none) ∧
      A.accept e =
        match A.endProgram with
        | (ended, none) => (first.above ended.complete, none)
        | (ended, some fault) => (ended, some fault) := by
  rcases hend : A.endProgram with ⟨ended, fault⟩
  obtain ⟨hpending, hkind, hlast, hdescription, -⟩ := endProgram_fields hend
  have hcomplete :
      ended.complete.addAll (Collection.empty A.complete.retention).programs =
        ended.complete :=
    rfl
  cases hlog : A.kind with
  | shaderDump =>
      rw [hlog] at he hkind
      rw [OwnFields, hlog] at hown
      cases e with
      | slot index code =>
          have hzero : index = 0 := he
          subst hzero
          refine ⟨(start .shaderDump A.complete.retention).append 0 code, rfl, ?_⟩
          rw [accept_slot_zero hlog, hend]
          cases fault with
          | none =>
              have hnone : A.description = none := hown
              simp [append, above, start, hpending, hkind, hdescription, hnone, hcomplete]
          | some fault =>
              rfl
      | load address =>
          cases he
      | word value =>
          cases he
  | methodTrace =>
      rw [hlog] at he hkind
      rw [OwnFields, hlog] at hown
      cases e with
      | slot index code =>
          cases he
      | load address =>
          refine ⟨{ start .methodTrace A.complete.retention with
            description := some (loadDescription address) }, rfl, ?_⟩
          rw [accept_load hlog, hend]
          cases fault with
          | none =>
              have hnone : A.lastSlot = none := hown
              simp [above, start, hpending, hkind, hlast, hnone, hcomplete]
          | some fault =>
              rfl
      | word value =>
          cases he

/-- A run can be cut in front of an event that starts a program. -/
theorem run_append_of_startsProgram
    {A : Assembly}
    (hown : A.OwnFields)
    {e : Event}
    (he : e.StartsProgram A.kind)
    (xs ys : List Event) :
    A.run (xs ++ e :: ys) =
      (A.run xs).bind fun c =>
        ((start A.kind A.complete.retention).run (e :: ys)).map fun d =>
          c.addAll d.programs := by
  induction xs generalizing A with
  | nil =>
      obtain ⟨first, hstart, haccept⟩ := accept_of_startsProgram hown he
      have hfirst : first.complete.retention = A.complete.retention := by
        have hretention := (accept_fields (start A.kind A.complete.retention) e).2.1
        rw [hstart] at hretention
        exact hretention
      simp only [List.nil_append, run, haccept, hstart, conclude]
      rcases hend : A.endProgram with ⟨ended, _ | fault⟩
      · obtain ⟨-, -, -, -, hretention⟩ := endProgram_fields hend
        have hkeep :
            first.complete.retention = .distinct → ended.complete.retention = .distinct := by
          rw [hfirst, hretention]
          exact id
        exact run_above hkeep ys
      · rfl
  | cons x xs ih =>
      obtain ⟨hkind, hretention, hnext⟩ := accept_fields A x
      rw [List.cons_append, run, run]
      rcases hx : A.accept x with ⟨next, _ | fault⟩
      · rw [hx] at hkind hretention hnext
        have hrun := ih (hnext hown) (hkind ▸ he)
        rw [hkind, hretention] at hrun
        exact hrun
      · rfl

end Boundary

end Assembly

end Log
end CaptureKit
