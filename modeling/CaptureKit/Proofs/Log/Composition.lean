import CaptureKit.Proofs.Log.EventLine
import CaptureKit.Proofs.Log.Running

/-!
# Logs one behind the other

A log whose first event starts a program can be put behind any other log, on a line of its
own.  The programs of both together are those of the first and then those of the second;
a collection of distinct programs leaves out those of the second that the first has
already.  Nothing else of the first log has an influence on the second.
-/

namespace CaptureKit
namespace Log

open Microcode

/-- The programs of a collection that is put behind another one, where both keep alike. -/
def joinedPrograms
    (retention : Retention)
    (before behind : List Program) :
    List Program :=
  match retention with
  | .all => before ++ behind
  | .distinct => before ++ behind.filter fun p => p.slots ∉ before.map Program.slots

/-- Adding all programs of a collection joins the programs of the two. -/
theorem programs_addAll_programs
    {retention : Retention}
    {before behind : Collection}
    (hbefore : before.retention = retention)
    (hbehind : behind.retention = retention) :
    (before.addAll behind.programs).programs =
      joinedPrograms retention before.programs behind.programs := by
  cases retention with
  | all =>
      exact Collection.programs_addAll_all hbefore behind.programs
  | distinct =>
      exact Collection.programs_addAll_of_nodup hbefore (behind.nodup hbehind)

/-- What is kept is said before the run and stays so. -/
theorem retention_of_run
    {A : Assembly}
    {events : List Event}
    {c : Collection}
    (h : A.run events = .ok c) :
    c.retention = A.complete.retention := by
  induction events generalizing A with
  | nil =>
      rw [Assembly.run, Assembly.conclude] at h
      rcases hend : A.endProgram with ⟨ended, _ | fault⟩
      · rw [hend] at h
        cases h
        exact (Assembly.endProgram_fields hend).2.2.2.2
      · rw [hend] at h
        cases h
  | cons e events ih =>
      rw [Assembly.run] at h
      have hretention := (Assembly.accept_fields A e).2.1
      rcases he : A.accept e with ⟨next, _ | fault⟩
      · rw [he] at h hretention
        exact (ih h).trans hretention
      · rw [he] at h
        cases h

/-- Two logs on top of each other, where the second is empty of events or begins with the
start of a program: the fault of the first that has one, and else the programs of both. -/
theorem programs_append_newline
    (kind : LogKind)
    (retention : Retention)
    (first second : List Char)
    (h : ∀ event ∈ (kind.events second).head?, event.StartsProgram kind) :
    match programs kind retention first, programs kind retention second with
    | .error fault, _ =>
        programs kind retention (first ++ '\n' :: second) = .error fault
    | .ok _, .error fault =>
        programs kind retention (first ++ '\n' :: second) = .error fault
    | .ok before, .ok behind =>
        ∃ both : Collection,
          programs kind retention (first ++ '\n' :: second) = .ok both ∧
          both.retention = retention ∧
          both.programs = joinedPrograms retention before.programs behind.programs := by
  have hjoin :
      programs kind retention (first ++ '\n' :: second) =
        (programs kind retention first).bind fun c =>
          (programs kind retention second).map fun d => c.addAll d.programs := by
    simp only [programs, assemble, events_append_newline]
    cases hevents : kind.events second with
    | nil =>
        rw [List.append_nil]
        cases (Assembly.start kind retention).run (kind.events first) <;> rfl
    | cons event events =>
        have hstarts : event.StartsProgram kind := h event (by rw [hevents]; rfl)
        exact Assembly.run_append_of_startsProgram (Assembly.ownFields_start kind retention)
          hstarts (kind.events first) events
  rw [hjoin]
  cases hfirst : programs kind retention first with
  | error fault =>
      rfl
  | ok before =>
      cases hsecond : programs kind retention second with
      | error fault =>
          rfl
      | ok behind =>
          have hbefore : before.retention = retention := retention_of_run hfirst
          have hbehind : behind.retention = retention := retention_of_run hsecond
          refine ⟨before.addAll behind.programs, rfl, ?_, ?_⟩
          · rw [Collection.retention_addAll, hbefore]
          · exact programs_addAll_programs hbefore hbehind

/-- A second dump that repeats the program of the first adds its other program only. -/
theorem programs_append_newline_repeated :
    (∀ event ∈ (LogKind.shaderDump.events
      "noise\n/* Slot 0: 0x1 0x2 0x3 0x4 */\n/* Slot 0: 0x5 0x6 0x7 0x8 */".toList).head?,
      event.StartsProgram .shaderDump) ∧
    ∃ both : Collection,
      programs .shaderDump .distinct
        ("/* Slot 0: 0x1 0x2 0x3 0x4 */".toList ++ '\n' ::
          "noise\n/* Slot 0: 0x1 0x2 0x3 0x4 */\n/* Slot 0: 0x5 0x6 0x7 0x8 */".toList) =
        .ok both ∧
      both.programs = [⟨[⟨1, 2, 3, 4⟩], none⟩, ⟨[⟨5, 6, 7, 8⟩], none⟩] := by
  have hevents :
      LogKind.shaderDump.events
        "noise\n/* Slot 0: 0x1 0x2 0x3 0x4 */\n/* Slot 0: 0x5 0x6 0x7 0x8 */".toList =
        [.slot 0 ⟨1, 2, 3, 4⟩, .slot 0 ⟨5, 6, 7, 8⟩] := by
    decide +kernel
  have hstarts :
      ∀ event ∈ (LogKind.shaderDump.events
        "noise\n/* Slot 0: 0x1 0x2 0x3 0x4 */\n/* Slot 0: 0x5 0x6 0x7 0x8 */".toList).head?,
        event.StartsProgram .shaderDump := by
    rw [hevents]
    rintro event ⟨⟩
    rfl
  have hfirst :
      (programs .shaderDump .distinct "/* Slot 0: 0x1 0x2 0x3 0x4 */".toList).map
        Collection.programs = .ok [⟨[⟨1, 2, 3, 4⟩], none⟩] := by
    decide +kernel
  have hsecond :
      (programs .shaderDump .distinct
        "noise\n/* Slot 0: 0x1 0x2 0x3 0x4 */\n/* Slot 0: 0x5 0x6 0x7 0x8 */".toList).map
        Collection.programs =
        .ok [⟨[⟨1, 2, 3, 4⟩], none⟩, ⟨[⟨5, 6, 7, 8⟩], none⟩] := by
    decide +kernel
  have hjoin := programs_append_newline .shaderDump .distinct
    "/* Slot 0: 0x1 0x2 0x3 0x4 */".toList
    "noise\n/* Slot 0: 0x1 0x2 0x3 0x4 */\n/* Slot 0: 0x5 0x6 0x7 0x8 */".toList hstarts
  refine ⟨hstarts, ?_⟩
  revert hjoin hfirst hsecond
  generalize programs .shaderDump .distinct "/* Slot 0: 0x1 0x2 0x3 0x4 */".toList = before
  generalize programs .shaderDump .distinct
    "noise\n/* Slot 0: 0x1 0x2 0x3 0x4 */\n/* Slot 0: 0x5 0x6 0x7 0x8 */".toList = behind
  intro hfirst hsecond hjoin
  rcases before with fault | before
  · cases hfirst
  rcases behind with fault | behind
  · cases hsecond
  obtain ⟨both, hboth, -, hprograms⟩ := hjoin
  refine ⟨both, hboth, ?_⟩
  rw [hprograms, Except.ok.inj hfirst, Except.ok.inj hsecond]
  decide

end Log
end CaptureKit
