import CaptureKit.Proofs.Listing.InterruptedWriting
import CaptureKit.Proofs.Text.Encoding

/-!
# Reading a listing back

A plain listing is a row of blocks.  Every line of a block begins with a semicolon, the first
one being the title, so only the line behind a block is empty, and it tells where the block ends
whatever the title says.  The words stand in fixed columns.

Main statement: from a listing whose titles have no line feed, the titles and the instructions
are read back, so two such listings agree only if these do (`listing_eq_iff`).
-/

namespace CaptureKit
namespace Listing

open Microcode Storage Text

/-- A title and the instructions below it. -/
abbrev Titled := String × List Slot

/-- The programs of a collection as they are listed: under their titles and in order. -/
def titled
    (source : String)
    (collection : Collection) :
    List Titled :=
  collection.programs.mapIdx fun i program => (header source (1 + i) program, program.slots)

/-- The bytes of the plain listing. -/
def listing
    (source : String)
    (collection : Collection) :
    Bytes :=
  ((write (.words : Disassembler Unit) source collection .unbounded).run ()).1.1.kept

section Reader

variable {α : Type} [BEq α]

/-- The pieces of a list that end with the separator. -/
def pieces
    (separator : α)
    (l : List α) :
    List (List α) :=
  (l.splitOn separator).dropLast

/-- The word in a column of an instruction line. -/
def readWord
    (column : Nat)
    (line : List Char) :
    Word :=
  .ofNat (hexValue ((line.drop (4 + 11 * column)).take 8))

/-- The instruction of a line. -/
def readSlot (line : List Char) : Slot :=
  ⟨readWord 0 line, readWord 1 line, readWord 2 line, readWord 3 line⟩

/-- The title and the instructions of a block. -/
def readBlock : List (List Char) → Titled
  | [] => ("", [])
  | title :: lines => (String.ofList (title.drop 2), lines.map readSlot)

/-- What stands in a plain listing. -/
def readListing (bytes : Bytes) : List Titled :=
  match decode bytes with
  | .error _ => []
  | .ok text => (pieces [] (pieces '\n' text.toList)).map readBlock

/-- Pieces are found again if none of them holds the separator. -/
theorem pieces_flatMap
    [LawfulBEq α]
    {separator : α}
    {parts : List (List α)}
    (h : ∀ part ∈ parts, separator ∉ part) :
    pieces separator (parts.flatMap (· ++ [separator])) = parts := by
  have hsplit : (parts.flatMap (· ++ [separator])).splitOn separator = parts ++ [[]] := by
    induction parts with
    | nil =>
        rfl
    | cons part parts ih =>
        obtain ⟨hpart, hparts⟩ := List.forall_mem_cons.1 h
        rw [List.flatMap_cons, List.append_assoc, List.singleton_append,
          List.splitOn_append_cons_self_of_not_mem hpart, ih hparts, List.cons_append]
  rw [pieces, hsplit, List.dropLast_concat]

/-- Blocks of lines are found again if no line is empty or holds a line feed. -/
theorem pieces_pieces_flatMap
    {blocks : List (List (List Char))}
    (h : ∀ block ∈ blocks, ∀ line ∈ block, line ≠ [] ∧ '\n' ∉ line) :
    pieces [] (pieces '\n' ((blocks.flatMap (· ++ [[]])).flatMap (· ++ ['\n']))) = blocks := by
  have hlines : ∀ line ∈ blocks.flatMap (· ++ [[]]), '\n' ∉ line := by
    intro line hline
    obtain ⟨block, hblock, hline⟩ := List.mem_flatMap.1 hline
    rcases List.mem_append.1 hline with hline | hline
    · exact (h block hblock line hline).2
    · rw [List.mem_singleton.1 hline]
      exact List.not_mem_nil
  have hblocks : ∀ block ∈ blocks, [] ∉ block :=
    fun block hblock hempty => (h block hblock [] hempty).1 rfl
  rw [pieces_flatMap hlines, pieces_flatMap hblocks]

end Reader

section Lines

/-- The line of an instruction. -/
def slotLine (slot : Slot) : List Char :=
  ';' :: ' ' :: slotWords slot

/-- The lines of a block, without the empty one behind it. -/
def blockLines (program : Titled) : List (List Char) :=
  (';' :: ' ' :: program.1.toList) :: program.2.map slotLine

/-- The text of a plain listing. -/
def listingText (programs : List Titled) : String :=
  String.join (programs.map fun program => block program.1 (wordLines program.2 false))

theorem wordLines_false (slots : List Slot) :
    wordLines slots false = slots.map fun slot => String.ofList (slotLine slot) := by
  have hline : ∀ i slot, wordLine false i slot = String.ofList (slotLine slot) := by
    intro i slot
    exact String.toList_inj.1 (by simp [wordLine, slotLine, toString])
  rw [wordLines, List.mapIdx_eq_zipIdx_map]
  calc
    slots.zipIdx.map (fun p => wordLine false p.2 p.1) =
        slots.zipIdx.map ((fun slot => String.ofList (slotLine slot)) ∘ Prod.fst) :=
      List.map_congr_left fun p _ => hline p.2 p.1
    _ = slots.map fun slot => String.ofList (slotLine slot) := by
      rw [← List.map_map, List.zipIdx_map_fst]

theorem toList_block (program : Titled) :
    (block program.1 (wordLines program.2 false)).toList =
      (blockLines program ++ [[]]).flatMap (· ++ ['\n']) := by
  simp [block, wordLines_false, blockLines, List.flatMap_map]

/-- A plain listing is the lines of its blocks with an empty line behind each block. -/
theorem toList_listingText (programs : List Titled) :
    (listingText programs).toList =
      ((programs.map blockLines).flatMap (· ++ [[]])).flatMap (· ++ ['\n']) := by
  simp only [listingText, String.toList_join, List.flatMap_map, List.flatMap_assoc, toList_block]

theorem upperHexDigit_ne_newline (n : Nat) :
    upperHexDigit (n % 16) ≠ '\n' := by
  have hdigits : ∀ m : Fin 16, upperHexDigit m.val ≠ '\n' := by decide
  exact hdigits ⟨n % 16, Nat.mod_lt n (by decide)⟩

theorem newline_not_mem_wordText (word : Word) :
    '\n' ∉ wordText word := by
  simp only [wordText, eightDigits, List.map_cons, List.map_nil, List.mem_cons,
    List.not_mem_nil, or_false, not_or]
  refine ⟨by decide, by decide, ?_, ?_, ?_, ?_, ?_, ?_, ?_, ?_⟩ <;>
    exact (upperHexDigit_ne_newline _).symm

theorem newline_not_mem_slotLine (slot : Slot) :
    '\n' ∉ slotLine slot := by
  simp [slotLine, slotWords, newline_not_mem_wordText]

theorem plain_of_mem_blockLines
    {program : Titled}
    (h : '\n' ∉ program.1.toList) :
    ∀ line ∈ blockLines program, line ≠ [] ∧ '\n' ∉ line := by
  intro line hline
  rcases List.mem_cons.1 hline with rfl | hline
  · simp [h]
  · obtain ⟨slot, -, rfl⟩ := List.mem_map.1 hline
    exact ⟨List.cons_ne_nil _ _, newline_not_mem_slotLine slot⟩

theorem length_eightDigits (word : Word) :
    (eightDigits word).length = 8 := by
  rw [eightDigits, List.length_map]
  rfl

theorem readWord_append
    {column : Nat}
    {front : List Char}
    (h : front.length = 4 + 11 * column)
    (word : Word)
    (rest : List Char) :
    readWord column (front ++ (eightDigits word ++ rest)) = word := by
  rw [readWord, ← h, List.drop_left, ← length_eightDigits word, List.take_left,
    hexValue_eightDigits]
  exact UInt32.ofNat_toNat

/-- An instruction is read off the columns of its line. -/
theorem readSlot_slotLine (slot : Slot) :
    readSlot (slotLine slot) = slot := by
  obtain ⟨a, b, c, d⟩ := slot
  let front₀ := [';', ' ', '0', 'x']
  let front₁ := front₀ ++ (eightDigits a ++ [' ', '0', 'x'])
  let front₂ := front₁ ++ (eightDigits b ++ [' ', '0', 'x'])
  let front₃ := front₂ ++ (eightDigits c ++ [' ', '0', 'x'])
  have h₁ : front₁.length = 15 := by simp [front₁, front₀, length_eightDigits]
  have h₂ : front₂.length = 26 := by simp [front₂, h₁, length_eightDigits]
  have h₃ : front₃.length = 37 := by simp [front₃, h₂, length_eightDigits]
  have hline : slotLine ⟨a, b, c, d⟩ = front₃ ++ (eightDigits d ++ []) := by
    simp [slotLine, slotWords, wordText, front₃, front₂, front₁, front₀]
  have ha : readWord 0 (slotLine ⟨a, b, c, d⟩) = a := by
    rw [hline]
    simp only [front₃, front₂, front₁, List.append_assoc]
    exact readWord_append (by rfl) a _
  have hb : readWord 1 (slotLine ⟨a, b, c, d⟩) = b := by
    rw [hline]
    simp only [front₃, front₂, List.append_assoc]
    exact readWord_append h₁ b _
  have hc : readWord 2 (slotLine ⟨a, b, c, d⟩) = c := by
    rw [hline]
    simp only [front₃, List.append_assoc]
    exact readWord_append h₂ c _
  have hd : readWord 3 (slotLine ⟨a, b, c, d⟩) = d := by
    rw [hline]
    exact readWord_append h₃ d _
  rw [readSlot, ha, hb, hc, hd]

theorem readBlock_blockLines (program : Titled) :
    readBlock (blockLines program) = program := by
  have hslots : (readSlot ∘ slotLine) = id := funext readSlot_slotLine
  simp [readBlock, blockLines, hslots]

/-- The programs are read off the text of their listing. -/
theorem readListing_encode_listingText
    {programs : List Titled}
    (h : ∀ program ∈ programs, '\n' ∉ program.1.toList) :
    readListing (encode (listingText programs)) = programs := by
  have hlines : ∀ lines ∈ programs.map blockLines, ∀ line ∈ lines, line ≠ [] ∧ '\n' ∉ line := by
    intro lines hlines
    obtain ⟨program, hprogram, rfl⟩ := List.mem_map.1 hlines
    exact plain_of_mem_blockLines (h program hprogram)
  have hread : readBlock ∘ blockLines = id := funext readBlock_blockLines
  rw [readListing, decode_encode]
  dsimp only
  rw [toList_listingText, pieces_pieces_flatMap hlines, List.map_map, hread, List.map_id]

end Lines

section Writing

variable {σ : Type}

/-- The reply for a program that is listed by its words. -/
def plainReply (program : Titled) : Reply :=
  ⟨program.1, .ok (wordLines program.2 false)⟩

/-- The words of every program can be listed. -/
theorem replies_words
    (source : String)
    (position : Nat)
    (programs : List Program)
    (state : σ) :
    replies .words source position programs state =
      (programs.mapIdx fun i program =>
        (header source (position + i) program, program.slots)).map plainReply := by
  induction programs generalizing position with
  | nil =>
      rfl
  | cons program programs ih =>
      have hanswer :
          ((.words : Disassembler σ) program.slots false).run state =
            (.ok (wordLines program.slots false), state) :=
        rfl
      rw [replies_cons hanswer, ih, List.mapIdx_cons, List.map_cons]
      simp only [Nat.add_zero, Nat.add_assoc, Nat.add_comm 1]
      rfl

theorem completeText_map_plainReply (programs : List Titled) :
    completeText (programs.map plainReply) = encode (listingText programs) := by
  induction programs with
  | nil =>
      rfl
  | cons program programs ih =>
      rw [List.map_cons, plainReply, completeText_ok, ih, ← encode_append, listingText,
        listingText, List.map_cons, String.join_cons]

theorem firstFault?_map_plainReply (programs : List Titled) :
    firstFault? (programs.map plainReply) = none := by
  induction programs with
  | nil =>
      rfl
  | cons program programs ih =>
      rw [List.map_cons, plainReply, firstFault?_ok, ih]

/-- A plain listing is finished, and it depends on nothing but titles and instructions. -/
theorem write_words
    (source : String)
    (collection : Collection) :
    ((write (.words : Disassembler Unit) source collection .unbounded).run ()).1.2 = none ∧
      listing source collection = encode (listingText (titled source collection)) := by
  have hreplies :
      replies (.words : Disassembler Unit) source 1 collection.programs () =
        (titled source collection).map plainReply :=
    replies_words source 1 collection.programs ()
  have hroom (bytes : Bytes) : Sink.unbounded.HasRoom bytes :=
    fun room hroom => nomatch hroom
  have hwrites := writes_writeFrom (.words : Disassembler Unit) source 1 collection.programs
    .unbounded ()
  have hfault := hwrites.fault_eq
  have hkept := hwrites.kept_eq
  rw [hreplies] at hfault hkept
  rw [if_pos (hroom _), firstFault?_map_plainReply] at hfault
  rw [Sink.fitting_of_hasRoom (hroom _), completeText_map_plainReply] at hkept
  exact ⟨hfault, hkept⟩

end Writing

/-- Nothing is lost in a plain listing whose titles have no line feed: it is finished, titles and
instructions are read back from it, and it agrees with another such listing exactly if, program
by program, titles and instructions do.  There may be programs without instructions, and titles
that look like lines of instructions. -/
theorem listing_eq_iff
    {source other : String}
    {collection others : Collection}
    (h : ∀ program ∈ titled source collection, '\n' ∉ program.1.toList)
    (hothers : ∀ program ∈ titled other others, '\n' ∉ program.1.toList) :
    ((write (.words : Disassembler Unit) source collection .unbounded).run ()).1.2 = none ∧
    readListing (listing source collection) = titled source collection ∧
    (listing source collection = listing other others ↔
      titled source collection = titled other others) := by
  obtain ⟨hdone, hlisting⟩ := write_words source collection
  obtain ⟨-, hother⟩ := write_words other others
  have hread : readListing (listing source collection) = titled source collection := by
    rw [hlisting, readListing_encode_listingText h]
  have hreadOther : readListing (listing other others) = titled other others := by
    rw [hother, readListing_encode_listingText hothers]
  refine ⟨hdone, hread, ?_, ?_⟩
  · intro hbytes
    rw [← hread, hbytes, hreadOther]
  · intro hprograms
    rw [hlisting, hother, hprograms]

/-- A program without instructions, under a title that looks like one, and a program without a
description. -/
def misleadingPrograms : Collection where
  retention := .all
  programs :=
    [⟨[], some "0x00000001 0x00000002 0x00000003 0x00000004"⟩, ⟨[⟨0, 0, 0, 0xFFFFFFFF⟩], none⟩]
  nodup := nofun

/-- One program whose listing has the same instruction lines. -/
def mergedPrograms : Collection where
  retention := .distinct
  programs :=
    [⟨[⟨1, 2, 3, 4⟩, ⟨0, 0, 0, 0xFFFFFFFF⟩], none⟩]
  nodup := by decide

theorem listing_misleadingPrograms :
    readListing (listing "a.log" misleadingPrograms) =
        [("0x00000001 0x00000002 0x00000003 0x00000004", []),
          ("Shader a.log - 2", [⟨0, 0, 0, 0xFFFFFFFF⟩])] ∧
      listing "a.log" misleadingPrograms ≠ listing "b.log" mergedPrograms := by
  have htitled : titled "a.log" misleadingPrograms =
      [("0x00000001 0x00000002 0x00000003 0x00000004", []),
        ("Shader a.log - 2", [⟨0, 0, 0, 0xFFFFFFFF⟩])] := by
    rfl
  have hmerged : titled "b.log" mergedPrograms =
      [("Shader b.log - 1", [⟨1, 2, 3, 4⟩, ⟨0, 0, 0, 0xFFFFFFFF⟩])] := by
    rfl
  have hplain : ∀ program ∈ titled "a.log" misleadingPrograms, '\n' ∉ program.1.toList := by
    rw [htitled]
    decide
  have hplain' : ∀ program ∈ titled "b.log" mergedPrograms, '\n' ∉ program.1.toList := by
    rw [hmerged]
    decide
  obtain ⟨-, hread, hiff⟩ := listing_eq_iff hplain hplain'
  rw [htitled] at hread hiff
  rw [hmerged] at hiff
  exact ⟨hread, fun hbytes => absurd (hiff.1 hbytes) (by decide)⟩

end Listing
end CaptureKit
