import CaptureKit.Log.Event
import Mathlib.Data.List.Basic
import Mathlib.Data.List.Induction

/-!
# Numbered instructions

A shader dump numbers the instructions of each program from 0 on.  Its instructions are
*numbered* if they are such programs one after the other.  This can be said step by step:
one more instruction keeps them numbered exactly if its index is 0 or the next one
(`isNumbered_snoc_iff`).  So instructions that are not numbered have a first one that is to
blame (`exists_first_gap`).
-/

namespace CaptureKit
namespace Log

open Microcode

/-- The instruction of an event with its index, if it is one. -/
def Event.instruction? : Event → Option (Nat × Slot)
  | .slot index code => some (index, code)
  | .load _ => none
  | .word _ => none

/-- The instructions among events, each with its index. -/
def instructions (events : List Event) : List (Nat × Slot) :=
  events.filterMap Event.instruction?

/-- An instruction with its index as an event. -/
def slotEvent (item : Nat × Slot) : Event :=
  .slot item.1 item.2

/-- Instructions with their indices from a number on. -/
def numberedFrom : Nat → List Slot → List (Nat × Slot)
  | _, [] => []
  | start, code :: codes => (start, code) :: numberedFrom (start + 1) codes

/-- The instructions of a program, with indices from 0 on. -/
def numbered (codes : List Slot) : List (Nat × Slot) :=
  numberedFrom 0 codes

/-- The instructions are those of programs, each numbered from 0 on. -/
def IsNumbered (items : List (Nat × Slot)) : Prop :=
  ∃ blocks : List (List Slot),
    (∀ block ∈ blocks, block ≠ []) ∧ items = blocks.flatMap numbered

/-- The index that goes on with the instructions; 0 where there are none. -/
def nextIndex (items : List (Nat × Slot)) : Nat :=
  match items.getLast? with
  | some (index, _) => index + 1
  | none => 0

theorem numberedFrom_append
    (start : Nat)
    (first second : List Slot) :
    numberedFrom start (first ++ second) =
      numberedFrom start first ++ numberedFrom (start + first.length) second := by
  induction first generalizing start with
  | nil =>
      rfl
  | cons code first ih =>
      simp only [List.cons_append, numberedFrom, ih, List.length_cons]
      rw [Nat.add_right_comm, Nat.add_assoc]

/-- The indices are those from the number on, as many as there are instructions. -/
theorem index_lt_of_mem_numberedFrom
    {start index : Nat}
    {code : Slot}
    {codes : List Slot}
    (h : (index, code) ∈ numberedFrom start codes) :
    index < start + codes.length := by
  induction codes generalizing start with
  | nil =>
      cases h
  | cons first codes ih =>
      rw [List.length_cons]
      rcases List.mem_cons.1 h with heq | hmem
      · cases heq
        omega
      · have := ih hmem
        omega

/-- Instructions that are written as events are the instructions of these events. -/
theorem instructions_map_slotEvent (items : List (Nat × Slot)) :
    instructions (items.map slotEvent) = items := by
  rw [instructions, List.filterMap_map]
  exact List.filterMap_some

/-- The last instruction of a program has the number of those before it. -/
theorem numbered_snoc
    (codes : List Slot)
    (code : Slot) :
    numbered (codes ++ [code]) = numbered codes ++ [(codes.length, code)] := by
  rw [numbered, numberedFrom_append, Nat.zero_add]
  rfl

/-- Behind a program comes the index of its length. -/
theorem nextIndex_append_numbered
    (items : List (Nat × Slot))
    {codes : List Slot}
    (hne : codes ≠ []) :
    nextIndex (items ++ numbered codes) = codes.length := by
  rcases List.eq_nil_or_concat' codes with rfl | ⟨front, code, rfl⟩
  · exact absurd rfl hne
  · rw [numbered_snoc, ← List.append_assoc]
    simp [nextIndex]

/-- Behind programs comes the index of the length of the last one. -/
theorem nextIndex_blocks
    {blocks : List (List Slot)}
    (hblocks : ∀ block ∈ blocks, block ≠ []) :
    nextIndex (blocks.flatMap numbered) = (blocks.getLast?.getD []).length := by
  rcases List.eq_nil_or_concat' blocks with rfl | ⟨front, codes, rfl⟩
  · rfl
  · have hne : codes ≠ [] := hblocks codes (by simp)
    rw [List.flatMap_append, List.flatMap_singleton, nextIndex_append_numbered _ hne,
      List.getLast?_concat, Option.getD_some]

theorem isNumbered_nil : IsNumbered [] :=
  ⟨[], by simp, rfl⟩

/-- One more program can always follow. -/
theorem IsNumbered.append_numbered
    {items : List (Nat × Slot)}
    (h : IsNumbered items)
    {codes : List Slot}
    (hne : codes ≠ []) :
    IsNumbered (items ++ numbered codes) := by
  obtain ⟨blocks, hblocks, rfl⟩ := h
  refine ⟨blocks ++ [codes], ?_, by simp⟩
  intro block hmem
  rcases List.mem_append.1 hmem with hmem | hmem
  · exact hblocks block hmem
  · rw [List.mem_singleton.1 hmem]
    exact hne

/-- Numbered instructions are none, or end with a whole program. -/
theorem IsNumbered.eq_nil_or_append
    {items : List (Nat × Slot)}
    (h : IsNumbered items) :
    items = [] ∨
      ∃ front codes, codes ≠ [] ∧ IsNumbered front ∧ items = front ++ numbered codes := by
  obtain ⟨blocks, hblocks, rfl⟩ := h
  rcases List.eq_nil_or_concat' blocks with rfl | ⟨front, codes, rfl⟩
  · exact Or.inl rfl
  · right
    refine ⟨front.flatMap numbered, codes, hblocks codes (by simp), ?_, by simp⟩
    exact ⟨front, fun block hmem => hblocks block (by simp [hmem]), rfl⟩

/-- One more instruction must have index 0 or the next one. -/
theorem isNumbered_snoc_iff
    {items : List (Nat × Slot)}
    {index : Nat}
    {code : Slot} :
    IsNumbered (items ++ [(index, code)]) ↔
      IsNumbered items ∧ (index = 0 ∨ index = nextIndex items) := by
  constructor
  · intro h
    rcases h.eq_nil_or_append with hnil | ⟨front, codes, hne, hfront, heq⟩
    · simp at hnil
    · rcases List.eq_nil_or_concat' codes with rfl | ⟨codes, last, rfl⟩
      · exact absurd rfl hne
      · rw [numbered_snoc, ← List.append_assoc] at heq
        obtain ⟨rfl, hlast⟩ := List.append_inj' heq rfl
        simp only [List.cons.injEq, Prod.mk.injEq, and_true] at hlast
        obtain ⟨rfl, rfl⟩ := hlast
        by_cases hcodes : codes = []
        · subst hcodes
          exact ⟨by simpa [numbered, numberedFrom] using hfront, Or.inl rfl⟩
        · exact ⟨hfront.append_numbered hcodes,
            Or.inr (nextIndex_append_numbered front hcodes).symm⟩
  · rintro ⟨h, rfl | rfl⟩
    · exact h.append_numbered (by simp : [code] ≠ [])
    · rcases h.eq_nil_or_append with rfl | ⟨front, codes, hne, hfront, rfl⟩
      · exact isNumbered_nil.append_numbered (by simp : [code] ≠ [])
      · rw [nextIndex_append_numbered front hne, List.append_assoc, ← numbered_snoc]
        exact hfront.append_numbered (by simp)

/-- The first part of numbered instructions is numbered. -/
theorem IsNumbered.of_initial
    {initial items : List (Nat × Slot)}
    (h : IsNumbered items)
    (hinitial : initial <+: items) :
    IsNumbered initial := by
  obtain ⟨rest, rfl⟩ := hinitial
  induction rest using List.reverseRecOn with
  | nil =>
      simpa using h
  | append_singleton rest item ih =>
      rw [← List.append_assoc] at h
      exact ih (isNumbered_snoc_iff.1 h).1

/-- Instructions that are not numbered have a first one that breaks the numbering. -/
theorem exists_first_gap
    {items : List (Nat × Slot)}
    (h : ¬ IsNumbered items) :
    ∃ front index code rest,
      items = front ++ (index, code) :: rest ∧
      IsNumbered front ∧
      ¬ IsNumbered (front ++ [(index, code)]) := by
  induction items using List.reverseRecOn with
  | nil =>
      exact absurd isNumbered_nil h
  | append_singleton items item ih =>
      by_cases hitems : IsNumbered items
      · exact ⟨items, item.1, item.2, [], rfl, hitems, h⟩
      · obtain ⟨front, index, code, rest, rfl, hfront, hgap⟩ := ih hitems
        exact ⟨front, index, code, rest ++ [item], by simp, hfront, hgap⟩

end Log
end CaptureKit
