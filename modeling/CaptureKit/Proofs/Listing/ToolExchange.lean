import CaptureKit.Log.Reading
import CaptureKit.Proofs.Listing.Reading

/-!
# What an external tool is asked

An external tool reads one line for each instruction, four words with a space between them.
These lines and the comments of the plain listing spell the words the same way, so a tool that
hands its input back gives the plain listing but for the sign in front of each comment.  The
words are eight digits wide and hold no blank, so every line is cut into its words in one way
only.

Main statement: what comes back from a tool that copies its input, and that the instructions are
read off what it gets (`external_of_copies`).
-/

namespace CaptureKit
namespace Listing

open Microcode Storage Text Tools

/-- The bytes that an external tool gets. -/
def toolBytes (slots : List Slot) : Bytes :=
  encode (String.ofList (toolInput slots))

/-- The tool has handed its input back and ended with success. -/
structure Copies (input : Bytes) (run : Run) : Prop where
  succeeded : run.status = .code 0
  output_eq : run.output = input

/-- The word behind `0x`. -/
def wordOfText? : List Char → Option Word
  | '0' :: 'x' :: digits => Log.word? digits
  | _ => none

/-- The instruction on a line of four words. -/
def slotOfLine? (line : List Char) : Option Slot :=
  match (line.splitOn ' ').map wordOfText? with
  | [some first, some second, some third, some fourth] => some ⟨first, second, third, fourth⟩
  | _ => none

/-- The instructions that an external tool is asked about. -/
def slotsOfBytes? (bytes : Bytes) : Option (List Slot) :=
  match decode bytes with
  | .error _ => none
  | .ok text => (pieces '\n' text.toList).mapM slotOfLine?

section Words

variable {c : Char} {word : Word}

theorem isHexDigit_of_mem_eightDigits (h : c ∈ eightDigits word) :
    isHexDigit c = true := by
  obtain ⟨shift, -, rfl⟩ := List.mem_map.1 h
  rw [isHexDigit, upperHexDigit_hexDigit? (Nat.mod_lt _ (by decide))]
  rfl

/-- No blank and no end of a line stands in a word. -/
theorem not_mem_wordText
    (hdigit : isHexDigit c = false)
    (hmark : c ≠ 'x') :
    c ∉ wordText word := by
  intro hmem
  rcases List.mem_cons.1 hmem with rfl | hmem
  · exact absurd hdigit (by decide)
  rcases List.mem_cons.1 hmem with rfl | hmem
  · exact hmark rfl
  · rw [isHexDigit_of_mem_eightDigits hmem] at hdigit
    cases hdigit

/-- A word is read off its text. -/
theorem wordOfText?_wordText (word : Word) :
    wordOfText? (wordText word) = some word := by
  have hne : eightDigits word ≠ [] :=
    List.ne_nil_of_length_pos (by rw [length_eightDigits]; decide)
  have hdigits : (eightDigits word).all isHexDigit = true :=
    List.all_eq_true.2 fun _ => isHexDigit_of_mem_eightDigits
  have hlt : hexValue (eightDigits word) < UInt32.size := by
    rw [hexValue_eightDigits]
    exact word.toNat_lt
  rw [wordText, wordOfText?, Log.word?, if_pos ⟨hne, hdigits, hlt⟩, hexValue_eightDigits,
    UInt32.ofNat_toNat]

end Words

section Lines

/-- A line is cut at its blanks into the four words. -/
theorem splitOn_slotWords (slot : Slot) :
    (slotWords slot).splitOn ' ' = slot.words.map wordText := by
  have hblank : ∀ word : Word, ' ' ∉ wordText word :=
    fun word => not_mem_wordText (by decide) (by decide)
  obtain ⟨a, b, c, d⟩ := slot
  simp only [slotWords, List.append_assoc, List.cons_append]
  rw [List.splitOn_append_cons_self_of_not_mem (hblank a),
    List.splitOn_append_cons_self_of_not_mem (hblank b),
    List.splitOn_append_cons_self_of_not_mem (hblank c),
    List.splitOn_eq_singleton (hblank d)]
  rfl

/-- An instruction is read off its line. -/
theorem slotOfLine?_slotWords (slot : Slot) :
    slotOfLine? (slotWords slot) = some slot := by
  rw [slotOfLine?, splitOn_slotWords]
  simp [Slot.words, wordOfText?_wordText]

theorem newline_not_mem_slotWords (slot : Slot) :
    '\n' ∉ slotWords slot := by
  simp [slotWords, newline_not_mem_wordText]

/-- No line ends in a carriage return, so none is lost with the end of the line. -/
theorem dropReturn_slotWords (slot : Slot) :
    dropReturn (slotWords slot) = slotWords slot := by
  have hreturn : '\r' ∉ slotWords slot := by
    have hword : ∀ word : Word, '\r' ∉ wordText word :=
      fun word => not_mem_wordText (by decide) (by decide)
    simp [slotWords, hword]
  exact if_neg fun hlast => hreturn (List.mem_of_getLast? hlast)

/-- The lines that a tool gets are those of the instructions. -/
theorem lines_toolInput (slots : List Slot) :
    lines (toolInput slots) = slots.map slotWords := by
  induction slots with
  | nil =>
      exact lines_nil
  | cons slot slots ih =>
      rw [toolInput, List.flatMap_cons, List.append_assoc, List.singleton_append,
        lines_cons _ (newline_not_mem_slotWords slot), dropReturn_slotWords, ← toolInput, ih,
        List.map_cons]

/-- The instructions are read off what a tool gets. -/
theorem slotsOfBytes?_toolBytes (slots : List Slot) :
    slotsOfBytes? (toolBytes slots) = some slots := by
  have hplain : ∀ line ∈ slots.map slotWords, '\n' ∉ line := by
    intro line hline
    obtain ⟨slot, -, rfl⟩ := List.mem_map.1 hline
    exact newline_not_mem_slotWords slot
  have hpieces : pieces '\n' (toolInput slots) = slots.map slotWords := by
    rw [← pieces_flatMap hplain, List.flatMap_map, toolInput]
  have hread : slotOfLine? ∘ slotWords = fun slot => pure (id slot) :=
    funext slotOfLine?_slotWords
  rw [slotsOfBytes?, toolBytes, decode_encode]
  dsimp only
  rw [String.toList_ofList, hpieces, List.mapM_map, hread, List.mapM_pure, List.map_id]
  rfl

end Lines

section Copying

variable {launch : Launcher} {program : String} {arguments : List String} {explain : Bool}
  {slots : List Slot} {tree after : FileTree} {run : Run}

/-- A tool that hands back what it gets answers with the lines of the instructions. -/
theorem toolAnswer_of_copies (h : Copies (toolBytes slots) run) :
    toolAnswer run = .ok (slots.map fun slot => String.ofList (slotWords slot)) := by
  have hsuccess : run.status.isSuccess = true := by
    rw [h.succeeded]
    rfl
  rw [toolAnswer, if_pos hsuccess, h.output_eq, toolBytes, decode_encode]
  dsimp only
  rw [String.toList_ofList, lines_toolInput, List.map_map]
  rfl

/-- An external tool that copies its input answers with one line for each instruction, and behind
a sign for comments these are the lines of the plain listing.  Each line is read as its
instruction, and other instructions make another input. -/
theorem external_of_copies
    (hrun : (launch program (toolArguments arguments explain) (toolBytes slots)).run tree =
      (.ok run, after))
    (hcopies : Copies (toolBytes slots) run) :
    ∃ lines : List String,
      (Disassembler.external launch program arguments slots explain).run tree =
        (.ok lines, after) ∧
      lines.length = slots.length ∧
      ((.words : Disassembler FileTree) slots false).run tree =
        (.ok (lines.map ("; " ++ ·)), tree) ∧
      lines.map (fun line => slotOfLine? line.toList) = slots.map some ∧
      slotsOfBytes? (toolBytes slots) = some slots ∧
      ∀ others, toolBytes others = toolBytes slots → others = slots := by
  refine ⟨slots.map fun slot => String.ofList (slotWords slot), ?_, List.length_map _, ?_, ?_,
    slotsOfBytes?_toolBytes slots, ?_⟩
  · rw [Disassembler.external, ← toolBytes, StateT.run_bind, hrun]
    exact congrArg (·, after) (toolAnswer_of_copies hcopies)
  · have hlisted : wordLines slots false =
        (slots.map fun slot => String.ofList (slotWords slot)).map ("; " ++ ·) := by
      rw [wordLines_false, List.map_map]
      exact List.map_congr_left fun slot _ => String.toList_inj.1 (by simp [slotLine])
    rw [← hlisted]
    rfl
  · simp [Function.comp_def, slotOfLine?_slotWords]
  · intro others hsame
    have hread := slotsOfBytes?_toolBytes others
    rw [hsame, slotsOfBytes?_toolBytes] at hread
    exact (Option.some.inj hread).symm

/-- A tool that hands back its input and leaves the files as they are. -/
def copying : Launcher := fun _ _ input => pure (.ok ⟨.code 0, input, []⟩)

/-- Two instructions, the second one with the largest word. -/
def sampleSlots : List Slot := [⟨1, 2, 3, 4⟩, ⟨0, 0, 0, 0xFFFFFFFF⟩]

theorem external_of_copies_cat :
    ∃ run lines,
      (copying "cat" [] (toolBytes sampleSlots)).run .empty = (.ok run, .empty) ∧
      Copies (toolBytes sampleSlots) run ∧
      (Disassembler.external copying "cat" [] sampleSlots false).run .empty =
        (.ok lines, .empty) ∧
      lines.map (fun line => slotOfLine? line.toList) =
        [some ⟨1, 2, 3, 4⟩, some ⟨0, 0, 0, 0xFFFFFFFF⟩] := by
  have hcopies : Copies (toolBytes sampleSlots) ⟨.code 0, toolBytes sampleSlots, []⟩ := ⟨rfl, rfl⟩
  have hrun : (copying "cat" (toolArguments [] false) (toolBytes sampleSlots)).run .empty =
      (.ok ⟨.code 0, toolBytes sampleSlots, []⟩, .empty) :=
    rfl
  obtain ⟨lines, hlines, -, -, hread, -⟩ := external_of_copies hrun hcopies
  exact ⟨_, lines, hrun, hcopies, hlines, hread⟩

end Copying

end Listing
end CaptureKit
