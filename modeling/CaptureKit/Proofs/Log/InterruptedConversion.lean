import CaptureKit.Log.Conversion
import CaptureKit.Proofs.Listing.InterruptedWriting

/-!
# Conversions that are interrupted

A conversion can fail while its log is read or assembled, while the listing is written, and
while the sink is flushed; several of these may be in store at once.  Before the log is
assembled nothing reaches the sink or the disassembler.  From then on the sink is flushed once
in any case, behind all that is written, and a failure to write counts before a failure to
flush (`convert_interrupted`).
-/

namespace CaptureKit
namespace Log

open Listing Microcode Storage Text

variable {σ : Type}

section Stages

variable {host : Host} {path : String} {kind : LogKind} {retention : Retention}

/-- A log that cannot be read has no programs. -/
theorem readPrograms_of_unread
    {cause : IoFault}
    (h : host.readText path = .error cause)
    (kind : LogKind)
    (retention : Retention) :
    readPrograms host path kind retention = .error (.reading ⟨host.resolve path, cause⟩) := by
  rw [readPrograms, read, h]
  rfl

/-- The programs of a log that can be read are those of its text. -/
theorem readPrograms_of_read
    {log : String}
    (h : host.readText path = .ok log)
    (kind : LogKind)
    (retention : Retention) :
    readPrograms host path kind retention =
      (programs kind retention log.toList).mapError .assembling := by
  rw [readPrograms, read, h]
  rfl

/-- Without programs nothing is written, and the disassembler is left alone. -/
theorem run_convert_of_error
    {fault : ConversionFault}
    (h : readPrograms host path kind retention = .error fault)
    (disassemble : Disassembler σ)
    (sink : Sink)
    (state : σ) :
    (convert host path kind retention disassemble sink).run state =
      ((sink, .error fault), state) := by
  unfold convert
  rw [h]
  dsimp only
  rfl

/-- The listing of the programs is written, and then the sink is flushed. -/
theorem run_convert_of_ok
    {collection : Collection}
    (h : readPrograms host path kind retention = .ok collection)
    (disassemble : Disassembler σ)
    (sink : Sink)
    (state : σ) :
    (convert host path kind retention disassemble sink).run state =
      (finishWriting ((write disassemble path collection sink).run state).1,
        ((write disassemble path collection sink).run state).2) := by
  unfold convert
  rw [h]
  dsimp only
  rw [StateT.run_map]
  rfl

/-- The fault of writing counts, and else that of the flush behind it. -/
theorem snd_finishWriting (written : Sink × Option ListingFault) :
    (finishWriting written).2 =
      match written.2, written.1.whenFlushed with
      | some fault, _ => .error (.writing fault)
      | none, some cause => .error (.writing (.output cause))
      | none, none => .ok () :=
  rfl

end Stages

/-- Converting a log, whatever fails.  A log that cannot be read, or not be assembled, leaves the
sink and the disassembler as they were.  For any other log the listing of its programs is
written, under the path as it was given, and the sink is flushed once when all is written.  The
fault of writing counts if there is one, and else that of flushing.  Recording the calls of the
disassembler changes nothing. -/
theorem convert_interrupted
    (host : Host)
    (path : String)
    (kind : LogKind)
    (retention : Retention)
    (disassemble : Disassembler σ)
    (sink : Sink)
    (state : σ) :
    let ended := (convert host path kind retention (recorded disassemble) sink).run (state, [])
    (convert host path kind retention disassemble sink).run state = (ended.1, ended.2.1) ∧
    match host.readText path with
    | .error cause =>
        ended = ((sink, .error (.reading ⟨host.resolve path, cause⟩)), (state, []))
    | .ok log =>
        match programs kind retention log.toList with
        | .error fault =>
            ended = ((sink, .error (.assembling fault)), (state, []))
        | .ok collection =>
            let written := (write (recorded disassemble) path collection sink).run (state, [])
            ended.2 = written.2 ∧
            ended.1.1 = written.1.1.flush.1 ∧
            ended.1.1.flushes = sink.flushes + 1 ∧
            ended.1.1.kept = sink.kept ++
              sink.fitting (completeText (replies disassemble path 1 collection.programs state)) ∧
            ended.1.2 =
              match written.1.2, sink.whenFlushed with
              | some fault, _ => .error (.writing fault)
              | none, some cause => .error (.writing (.output cause))
              | none, none => .ok () := by
  intro ended
  cases hread : host.readText path with
  | error cause =>
      have hprograms := readPrograms_of_unread hread kind retention
      have hended : ended = ((sink, .error (.reading ⟨host.resolve path, cause⟩)), (state, [])) :=
        run_convert_of_error hprograms (recorded disassemble) sink (state, [])
      rw [hended]
      exact ⟨run_convert_of_error hprograms disassemble sink state, rfl⟩
  | ok log =>
      dsimp only
      have hlog := readPrograms_of_read hread kind retention
      cases hassembled : programs kind retention log.toList with
      | error fault =>
          have hprograms := hlog.trans (congrArg (Except.mapError _) hassembled)
          have hended : ended = ((sink, .error (.assembling fault)), (state, [])) :=
            run_convert_of_error hprograms (recorded disassemble) sink (state, [])
          rw [hended]
          exact ⟨run_convert_of_error hprograms disassemble sink state, rfl⟩
      | ok collection =>
          have hprograms := hlog.trans (congrArg (Except.mapError _) hassembled)
          have hended : ended = _ :=
            run_convert_of_ok hprograms (recorded disassemble) sink (state, [])
          have hplain := run_convert_of_ok hprograms disassemble sink state
          have hrecorded := run_writeFrom_recorded disassemble path 1
            collection.programs sink state []
          have hwrites := writes_writeFrom (recorded disassemble) path 1
            collection.programs sink (state, [])
          obtain ⟨hflushes, hwhenFlushed⟩ := hwrites.flush_fields
          change
            ((write (recorded disassemble) path collection sink).run (state, [])).1.1.whenFlushed =
              sink.whenFlushed at hwhenFlushed
          have hkept := hwrites.kept_eq
          rw [replies_recorded] at hkept
          rw [hended]
          refine ⟨?_, rfl, rfl, ?_, hkept, ?_⟩
          · rw [hplain]
            exact Prod.ext (congrArg finishWriting hrecorded.1.symm) hrecorded.2.symm
          · exact congrArg (· + 1) hflushes
          · rw [snd_finishWriting, hwhenFlushed]

end Log
end CaptureKit
