import CaptureKit.Proofs.Log.DumpAssembly
import CaptureKit.Proofs.Log.EventLine

/-!
# Programs that are written as a shader dump

Programs can be written as a shader dump: the instructions of each one by one, every
instruction on a line of its own with its index, and any lines without events in between.
Reading the dump gives the programs back, all of them or the first with each list of
instructions.
-/

namespace CaptureKit
namespace Log

open Microcode

/-- The instructions of programs, one program after the other, as events of a dump. -/
def dumpEvents (programs : List (List Slot)) : List Event :=
  (programs.flatMap numbered).map slotEvent

/-- In programs of at most 10⁹ instructions every index has at most nine digits. -/
theorem index_lt_of_mem_dumpEvents
    {programs : List (List Slot)}
    (hlength : ∀ slots ∈ programs, slots.length ≤ 1000000000)
    (index : Nat)
    (code : Slot)
    (h : .slot index code ∈ dumpEvents programs) :
    index < 1000000000 := by
  obtain ⟨item, hitem, heq⟩ := List.mem_map.1 h
  obtain ⟨slots, hslots, hmem⟩ := List.mem_flatMap.1 hitem
  cases heq
  have hindex := index_lt_of_mem_numberedFrom hmem
  have hbound := hlength slots hslots
  omega

/-- Programs without descriptions that have the same instructions are the same. -/
theorem eraseDupsBy_undescribed (programs : List (List Slot)) :
    (programs.map fun slots => (⟨slots, none⟩ : Program)).eraseDupsBy Program.sameCode =
      programs.eraseDups.map fun slots => ⟨slots, none⟩ := by
  -- Erasing recurses on what a filter leaves, so the induction is on the length.
  induction hn : programs.length using Nat.strongRecOn generalizing programs with
  | ind n ih =>
      subst hn
      cases programs with
      | nil =>
          rfl
      | cons slots programs =>
          have hlength : (programs.filter fun other => !other == slots).length <
              (slots :: programs).length :=
            Nat.lt_succ_of_le (List.length_filter_le _ _)
          have hfilter :
              (programs.map fun other => (⟨other, none⟩ : Program)).filter
                  (fun p => Program.sameCode p ⟨slots, none⟩ = false) =
                (programs.filter fun other => !other == slots).map fun other =>
                  ⟨other, none⟩ := by
            rw [List.filter_map]
            congr 1
            apply List.filter_congr
            intro other _
            rw [Bool.eq_iff_iff]
            simp [Program.sameCode]
          rw [List.map_cons, List.eraseDupsBy_cons, hfilter, ih _ hlength _ rfl,
            List.eraseDups_cons, List.map_cons]

/-- What is written as a dump is read back, with every program or only the first of equal
ones. -/
theorem programs_of_dump
    (programs : List (List Slot))
    (hprograms : ∀ slots ∈ programs, slots ≠ [] ∧ slots.length ≤ 1000000000)
    {lines : List (List Char)}
    (hlines : Records .shaderDump (dumpEvents programs) lines) :
    (Log.programs .shaderDump .all (['\n'].intercalate lines)).map Collection.programs =
      .ok (programs.map fun slots => ⟨slots, none⟩) ∧
    (Log.programs .shaderDump .distinct (['\n'].intercalate lines)).map Collection.programs =
      .ok (programs.eraseDups.map fun slots => ⟨slots, none⟩) := by
  have hevents :
      LogKind.shaderDump.events (['\n'].intercalate lines) = dumpEvents programs :=
    events_of_records hlines
      (index_lt_of_mem_dumpEvents fun slots hslots => (hprograms slots hslots).2)
  have hread (retention : Retention) :
      Log.programs .shaderDump retention (['\n'].intercalate lines) =
        .ok ((Collection.empty retention).addAll (programs.map (⟨·, none⟩))) := by
    rw [Log.programs, hevents]
    exact assemble_of_numbered retention (fun slots hslots => (hprograms slots hslots).1)
      (instructions_map_slotEvent _)
  constructor
  · rw [hread, Except.map, Collection.programs_addAll_all rfl]
    rfl
  · rw [hread, Except.map, Collection.programs_addAll_empty_distinct, eraseDupsBy_undescribed]

/-- A dump with other lines in between, words of several widths and a program that occurs
twice. -/
def sampleDump : List (List Char) :=
  ["DMA TimeSlot 7: 0x1 0x2 0x3 0x4".toList,
   "/*\tSlot 0: 0x1 0x1  0x1 0x0aF */".toList,
   "/* Slot 1: 0x1 0x1 0x1 0x1 */".toList,
   [],
   "/* Slot 0: 0x1 0x1 0x1 0x1 */".toList,
   "/* Slot 0: 0x1 0x1 0x1 0x1 */".toList]

/-- The program that occurs twice is read once. -/
theorem programs_of_sampleDump :
    (∀ slots ∈ ([[⟨1, 1, 1, 175⟩, ⟨1, 1, 1, 1⟩], [⟨1, 1, 1, 1⟩], [⟨1, 1, 1, 1⟩]] :
      List (List Slot)), slots ≠ [] ∧ slots.length ≤ 1000000000) ∧
    Records .shaderDump
      (dumpEvents [[⟨1, 1, 1, 175⟩, ⟨1, 1, 1, 1⟩], [⟨1, 1, 1, 1⟩], [⟨1, 1, 1, 1⟩]])
      sampleDump ∧
    (Log.programs .shaderDump .distinct (['\n'].intercalate sampleDump)).map
      Collection.programs =
      .ok [⟨[⟨1, 1, 1, 175⟩, ⟨1, 1, 1, 1⟩], none⟩, ⟨[⟨1, 1, 1, 1⟩], none⟩] := by
  have hprograms :
      ∀ slots ∈ ([[⟨1, 1, 1, 175⟩, ⟨1, 1, 1, 1⟩], [⟨1, 1, 1, 1⟩], [⟨1, 1, 1, 1⟩]] :
        List (List Slot)), slots ≠ [] ∧ slots.length ≤ 1000000000 := by
    decide
  have one : SpellsWord 1 ['1'] :=
    ⟨by decide, by decide, [1], .cons (Or.inl rfl) .nil, rfl⟩
  have mixed : SpellsWord 175 ['0', 'a', 'F'] :=
    ⟨by decide, by decide, [0, 10, 15],
      .cons (Or.inl rfl) (.cons (Or.inl rfl) (.cons (Or.inr rfl) .nil)), rfl⟩
  have first := @Writes.slot 0 ⟨1, 1, 1, 175⟩ ['\t'] [' '] [' '] [' '] [' ', ' '] [' '] [' ']
    ['1'] ['1'] ['1'] ['0', 'a', 'F'] (by decide) one one one mixed
  have start := @Writes.slot 0 ⟨1, 1, 1, 1⟩ [' '] [' '] [' '] [' '] [' '] [' '] [' ']
    ['1'] ['1'] ['1'] ['1'] (by decide) one one one one
  have next := @Writes.slot 1 ⟨1, 1, 1, 1⟩ [' '] [' '] [' '] [' '] [' '] [' '] [' ']
    ['1'] ['1'] ['1'] ['1'] (by decide) one one one one
  have records : Records .shaderDump
      (dumpEvents [[⟨1, 1, 1, 175⟩, ⟨1, 1, 1, 1⟩], [⟨1, 1, 1, 1⟩], [⟨1, 1, 1, 1⟩]])
      sampleDump :=
    .noise (by decide +kernel) (.event first (.event next
      (.noise (by decide +kernel) (.event start (.event start .nil)))))
  have heraseDups :
      ([[⟨1, 1, 1, 175⟩, ⟨1, 1, 1, 1⟩], [⟨1, 1, 1, 1⟩], [⟨1, 1, 1, 1⟩]] :
        List (List Slot)).eraseDups = [[⟨1, 1, 1, 175⟩, ⟨1, 1, 1, 1⟩], [⟨1, 1, 1, 1⟩]] := by
    decide
  have hread := (programs_of_dump _ hprograms records).2
  rw [heraseDups] at hread
  exact ⟨hprograms, records, hread⟩

end Log
end CaptureKit
