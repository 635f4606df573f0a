import CaptureKit.Proofs.Log.Running

/-!
# Assembling a method trace

While a method trace is read, the assembly holds the programs that are complete, the words
since the last load, and the description that this load gave.  A program is completed by
the load behind it, with the description that is held then and not with the new one.
-/

namespace CaptureKit
namespace Log

open Microcode

namespace Assembly

/-- The state of reading a method trace: complete programs, and the words and the
description of the program that is being read. -/
def tracing
    (retention : Retention)
    (done : List Program)
    (words : List Word)
    (description : Option String) :
    Assembly where
  kind := .methodTrace
  pending := words.toArray
  lastSlot := none
  description := description
  complete := (Collection.empty retention).addAll done

section Steps

variable (retention : Retention)
variable (done : List Program)
variable (description : Option String)

/-- A word goes behind the words of the program. -/
theorem accept_tracing_word
    (words : List Word)
    (value : Word) :
    (tracing retention done words description).accept (.word value) =
      (tracing retention done (words ++ [value]) description, none) := by
  rw [accept_word rfl]
  simp [tracing]

/-- Before the first event nothing is complete, and no load described a program. -/
theorem start_eq_tracing :
    start .methodTrace retention = tracing retention [] [] none :=
  rfl

/-- Whole instructions can always be completed, under the description that is held. -/
theorem endProgram_tracing (slots : List Slot) :
    (tracing retention done (slots.flatMap Slot.words) description).endProgram =
      (tracing retention (done ++ endedProgram slots description) [] description, none) := by
  have hpending :
      (tracing retention done (slots.flatMap Slot.words) description).pending =
        (slots.flatMap Slot.words).toArray :=
    rfl
  rw [endProgram_of_words hpending]
  simp [tracing]

/-- Words that are no whole instructions are dropped, and reported under the description
that is held. -/
theorem endProgram_tracing_ragged
    {words : List Word}
    (h : ¬ 4 ∣ words.length) :
    (tracing retention done words description).endProgram =
      (tracing retention done [] description, some (.ragged description words.length)) := by
  have hne : words ≠ [] := by
    rintro rfl
    exact h (Nat.dvd_zero 4)
  have hpending : (tracing retention done words description).pending.isEmpty = false := by
    simpa [tracing] using hne
  have hwords :
      Slot.ofWords? (tracing retention done words description).pending.toList = none := by
    rw [Slot.ofWords?_eq_none_iff]
    exact fun hmod => h (Nat.dvd_of_mod_eq_zero hmod)
  simp only [endProgram, hpending, hwords]
  rfl

/-- A load completes whole instructions under the description before it. -/
theorem accept_tracing_load
    (slots : List Slot)
    (address : Word) :
    (tracing retention done (slots.flatMap Slot.words) description).accept (.load address) =
      (tracing retention (done ++ endedProgram slots description) []
        (some (loadDescription address)), none) := by
  rw [accept_load rfl, endProgram_tracing]
  rfl

/-- A load behind words that are no whole instructions is refused, and gives no
description. -/
theorem accept_tracing_load_ragged
    {words : List Word}
    (h : ¬ 4 ∣ words.length)
    (address : Word) :
    (tracing retention done words description).accept (.load address) =
      (tracing retention done [] description, some (.ragged description words.length)) := by
  rw [accept_load rfl, endProgram_tracing_ragged _ _ _ h]

/-- Instructions of the other kind of log mean nothing. -/
theorem accept_tracing_slot
    (words : List Word)
    (index : Nat)
    (code : Slot) :
    (tracing retention done words description).accept (.slot index code) =
      (tracing retention done words description, none) :=
  rfl

/-- At the end whole instructions are a program under the last description. -/
theorem conclude_tracing (slots : List Slot) :
    (tracing retention done (slots.flatMap Slot.words) description).conclude =
      .ok ((Collection.empty retention).addAll (done ++ endedProgram slots description)) := by
  rw [conclude, endProgram_tracing]
  rfl

/-- At the end words that are no whole instructions are refused. -/
theorem conclude_tracing_ragged
    {words : List Word}
    (h : ¬ 4 ∣ words.length) :
    (tracing retention done words description).conclude =
      .error (.ragged description words.length) := by
  rw [conclude, endProgram_tracing_ragged _ _ _ h]

end Steps

section Runs

variable (retention : Retention)

/-- Words one after the other go behind the words of the program. -/
theorem run_tracing_words
    (done : List Program)
    (words more : List Word)
    (description : Option String)
    (events : List Event) :
    (tracing retention done words description).run (more.map .word ++ events) =
      (tracing retention done (words ++ more) description).run events := by
  induction more generalizing words with
  | nil =>
      rw [List.append_nil]
      rfl
  | cons value more ih =>
      rw [List.map_cons, List.cons_append, run, accept_tracing_word]
      have hrest := ih (words ++ [value])
      rw [List.append_assoc] at hrest
      exact hrest

end Runs

end Assembly

end Log
end CaptureKit
