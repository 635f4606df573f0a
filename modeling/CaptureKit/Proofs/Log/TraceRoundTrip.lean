import CaptureKit.Proofs.Log.EventLine
import CaptureKit.Proofs.Log.TraceAssembly

/-!
# Uploads that are written as a method trace

An upload is a load address and the instructions that are loaded there, maybe none.
Uploads can be written as a method trace: a load and then the words one by one, each call
on a line of its own, and any lines without events in between.  Reading the trace gives one
program for each upload that has instructions, described by its own address.
-/

namespace CaptureKit
namespace Log

open Microcode

/-- Instructions that are uploaded, and the address at which they are loaded. -/
structure Upload where
  address : Word
  slots : List Slot
  deriving DecidableEq, Repr

/-- The calls of an upload: the load, and then each word. -/
def Upload.events (upload : Upload) : List Event :=
  .load upload.address :: (upload.slots.flatMap Slot.words).map .word

/-- The words of uploads complete one program for each upload that has instructions. -/
theorem run_tracing_uploads
    (retention : Retention)
    (uploads : List Upload)
    (done : List Program)
    (slots : List Slot)
    (description : Option String) :
    (Assembly.tracing retention done (slots.flatMap Slot.words) description).run
        (uploads.flatMap Upload.events) =
      .ok ((Collection.empty retention).addAll
        (done ++ endedProgram slots description ++
          uploads.flatMap fun upload =>
            endedProgram upload.slots (some (loadDescription upload.address)))) := by
  induction uploads generalizing done slots description with
  | nil =>
      rw [List.flatMap_nil, Assembly.run, Assembly.conclude_tracing, List.flatMap_nil,
        List.append_nil]
  | cons upload uploads ih =>
      rw [List.flatMap_cons, Upload.events, List.cons_append, Assembly.run,
        Assembly.accept_tracing_load]
      have hrest :=
        ih (done ++ endedProgram slots description) upload.slots
          (some (loadDescription upload.address))
      rw [List.append_assoc _ _ (uploads.flatMap _)] at hrest
      rw [List.flatMap_cons, ← hrest]
      exact Assembly.run_tracing_words retention _ [] _ _ _

/-- Uploads without instructions leave no program. -/
theorem flatMap_endedProgram (uploads : List Upload) :
    (uploads.flatMap fun upload =>
        endedProgram upload.slots (some (loadDescription upload.address))) =
      (uploads.filter fun upload => upload.slots ≠ []).map fun upload =>
        ⟨upload.slots, some (loadDescription upload.address)⟩ := by
  induction uploads with
  | nil =>
      rfl
  | cons upload uploads ih =>
      rw [List.flatMap_cons, ih]
      by_cases hslots : upload.slots = []
      · simp [endedProgram, hslots]
      · simp [endedProgram, hslots]

/-- Uploads that are written as a trace are read back: one program for each upload that
has instructions, in order, described by its own address. -/
theorem programs_of_trace
    (uploads : List Upload)
    {lines : List (List Char)}
    (hlines : Records .methodTrace (uploads.flatMap Upload.events) lines) :
    (programs .methodTrace .all (['\n'].intercalate lines)).map Collection.programs =
      .ok ((uploads.filter fun upload => upload.slots ≠ []).map fun upload =>
        ⟨upload.slots,
          some ("Shader at 0x" ++ String.ofList (Nat.toDigits 16 upload.address.toNat) ++
            " (" ++ String.ofList (Nat.toDigits 10 upload.address.toNat) ++ ")")⟩) := by
  have hevents :
      LogKind.methodTrace.events (['\n'].intercalate lines) =
        uploads.flatMap Upload.events := by
    refine events_of_records hlines ?_
    intro index code hmem
    obtain ⟨upload, -, hmem⟩ := List.mem_flatMap.1 hmem
    simp [Upload.events] at hmem
  have hdescription (address : Word) :
      loadDescription address =
        "Shader at 0x" ++ String.ofList (Nat.toDigits 16 address.toNat) ++
          " (" ++ String.ofList (Nat.toDigits 10 address.toNat) ++ ")" :=
    rfl
  have hrun := run_tracing_uploads .all uploads [] [] none
  rw [programs, hevents, assemble, Assembly.start_eq_tracing]
  rw [List.flatMap_nil] at hrun
  rw [hrun, Except.map, Collection.programs_addAll_all rfl, flatMap_endedProgram]
  simp only [hdescription]
  rfl

/-- A trace with other lines in between, and with an upload without instructions before
the one that has some. -/
def sampleTrace : List (List Char) :=
  ["nv2a_pgraph_init".toList,
   methodLine ['0'] "NV097_SET_TRANSFORM_PROGRAM_LOAD<0x1E9C>".toList [' '] ['1'],
   methodLine ['0'] "NV097_SET_TRANSFORM_PROGRAM_LOAD<0x1E9C>".toList [' '] ['a', 'F'],
   methodLine ['0'] "NV097_SET_TRANSFORM_PROGRAM[0]<0xB00>".toList [' '] ['1'],
   [],
   methodLine ['0'] "NV097_SET_TRANSFORM_PROGRAM[1]<0xB04>".toList [' '] ['1'],
   methodLine ['0'] "NV097_SET_TRANSFORM_PROGRAM[2]<0xB08>".toList [' '] ['1'],
   methodLine ['0'] "NV097_SET_TRANSFORM_PROGRAM[3]<0xB0C>".toList [' '] ['1']]

/-- The upload without instructions does not describe the one behind it. -/
theorem programs_of_sampleTrace :
    Records .methodTrace ([⟨1, []⟩, ⟨175, [⟨1, 1, 1, 1⟩]⟩].flatMap Upload.events)
      sampleTrace ∧
    (programs .methodTrace .all (['\n'].intercalate sampleTrace)).map Collection.programs =
      .ok [⟨[⟨1, 1, 1, 1⟩], some "Shader at 0xaf (175)"⟩] := by
  have one : SpellsWord 1 ['1'] :=
    ⟨by decide, by decide, [1], .cons (Or.inl rfl) .nil, rfl⟩
  have mixed : SpellsWord 175 ['a', 'F'] :=
    ⟨by decide, by decide, [10, 15], .cons (Or.inl rfl) (.cons (Or.inr rfl) .nil), rfl⟩
  have channel : ['0'] ≠ [] ∧ ∀ c ∈ ['0'], Text.isDecimalDigit c = true :=
    ⟨by simp, by simpa using (by rfl : Text.isDecimalDigit '0' = true)⟩
  have blank : ∀ c ∈ [' '], c = ' ' ∨ c = '\t' := by
    simp
  have empty := @Writes.load 1 ['0'] [' '] ['1'] channel blank one
  have load := @Writes.load 175 ['0'] [' '] ['a', 'F'] channel blank mixed
  have word (n m : Char) (hn : Text.isDecimalDigit n = true) (hm : Text.isHexDigit m = true) :=
    have hmethod : ∀ c ∈ ['B', '0', m], Text.isHexDigit c = true := by
      simpa using ⟨(by rfl : Text.isHexDigit 'B' = true),
        (by rfl : Text.isHexDigit '0' = true), hm⟩
    @Writes.word 1 ['0'] [n] ['B', '0', m] [' '] ['1'] channel
      ⟨by simp, by simpa using hn⟩ ⟨by simp, hmethod⟩ blank one
  have records : Records .methodTrace
      ([⟨1, []⟩, ⟨175, [⟨1, 1, 1, 1⟩]⟩].flatMap Upload.events) sampleTrace :=
    .noise (by decide +kernel) (.event empty (.event load (.event (word '0' '0' rfl rfl)
      (.noise (by decide +kernel) (.event (word '1' '4' rfl rfl) (.event (word '2' '8' rfl rfl)
        (.event (word '3' 'C' rfl rfl) .nil)))))))
  exact ⟨records, programs_of_trace [⟨1, []⟩, ⟨175, [⟨1, 1, 1, 1⟩]⟩] records⟩

end Log
end CaptureKit
