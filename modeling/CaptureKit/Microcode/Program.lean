/-!
# Vertex shader programs

A program is a list of instruction slots of four words each.  A description, such as
the address it was loaded at, says where a program was seen and is no part of it: two
programs are the same if their slots are.
-/

namespace CaptureKit
namespace Microcode

/-- A word of microcode. -/
abbrev Word := UInt32

/-- One instruction. -/
structure Slot where
  first : Word
  second : Word
  third : Word
  fourth : Word
  deriving DecidableEq, Repr

/-- The words of an instruction in order. -/
def Slot.words (slot : Slot) : List Word :=
  [slot.first, slot.second, slot.third, slot.fourth]

/-- Cuts words into instructions, if none are left over. -/
def Slot.ofWords? : List Word → Option (List Slot)
  | [] => some []
  | a :: b :: c :: d :: rest => (Slot.ofWords? rest).map (⟨a, b, c, d⟩ :: ·)
  | _ => none

/-- A program, and what is known about where it came from. -/
structure Program where
  slots : List Slot
  description : Option String
  deriving DecidableEq, Repr

/-- The number of words of a program. -/
def Program.wordCount (program : Program) : Nat :=
  4 * program.slots.length

/-- The two programs have the same instructions. -/
def Program.sameCode (p q : Program) : Bool :=
  p.slots == q.slots

/-- Exactly the instructions decide whether programs are the same. -/
theorem Program.sameCode_iff
    (p q : Program) :
    p.sameCode q = true ↔ p.slots = q.slots := by
  simp [Program.sameCode]

/-- Cutting loses nothing: the words of the slots are the words that were cut. -/
theorem Slot.ofWords?_eq_some
    {words : List Word}
    {slots : List Slot}
    (h : Slot.ofWords? words = some slots) :
    slots.flatMap Slot.words = words := by
  fun_induction Slot.ofWords? words generalizing slots with
  | case1 => simp_all
  | case2 a b c d rest ih =>
      obtain ⟨tail, htail, rfl⟩ := Option.map_eq_some_iff.1 h
      simp [Slot.words, ih htail]
  | case3 => cases h

/-- The words of instructions are cut into these instructions again. -/
theorem Slot.ofWords?_flatMap_words (slots : List Slot) :
    Slot.ofWords? (slots.flatMap Slot.words) = some slots := by
  induction slots with
  | nil =>
      rfl
  | cons slot slots ih =>
      simp [Slot.words, Slot.ofWords?, ih]

/-- Instructions have four words each. -/
theorem Slot.length_flatMap_words (slots : List Slot) :
    (slots.flatMap Slot.words).length = 4 * slots.length := by
  induction slots with
  | nil =>
      rfl
  | cons slot slots ih =>
      simp only [List.flatMap_cons, List.length_append, ih, Slot.words, List.length_cons,
        List.length_nil]
      omega

/-- Words are left over exactly if their number is no multiple of four. -/
theorem Slot.ofWords?_eq_none_iff
    (words : List Word) :
    Slot.ofWords? words = none ↔ words.length % 4 ≠ 0 := by
  fun_induction Slot.ofWords? words with
  | case1 => simp
  | case2 a b c d rest ih =>
      simp only [Option.map_eq_none_iff, ih, List.length_cons]
      omega
  | case3 words h0 h4 =>
      match words, h0, h4 with
      | [_], _, _ => simp
      | [_, _], _, _ => simp
      | [_, _, _], _, _ => simp
      | a :: b :: c :: d :: rest, _, h4 => exact (h4 a b c d rest rfl).elim

end Microcode
end CaptureKit
