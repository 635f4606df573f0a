import CaptureKit.Draw.Overview
import CaptureKit.Proofs.Text.LineLocality
import CaptureKit.Proofs.Text.Matching

/-!
# The entries of the lines of an overview

A line of an overview has an entry if `EID `, with a digit behind it, stands anywhere in it.  The
first such place counts: the digits from there on are the event, and what stands behind them
on the line is the entry, without the blanks in front of it and the white space at its end.
Here this is said of a line without running the reader of entries (`EntryOfLine`).

Main statements: a line has the entry that is read from it, if it has one
(`entries_eq_singleton_iff`, `entries_eq_nil_iff`), and the entries of an overview are those
of its lines (`entries_eq_flatMap_lines`).
-/

namespace CaptureKit
namespace Draw

open Text

/-- An event begins at the front of the text. -/
def StartsEntry (s : List Char) : Prop :=
  ∃ digit rest, s = "EID ".toList ++ digit :: rest ∧ isDecimalDigit digit = true

/-- The entry is the text without the white space at its end. -/
def TrimmedEnd (text entry : List Char) : Prop :=
  ∃ spaces, text = entry ++ spaces ∧ (∀ c ∈ spaces, isWhite c = true) ∧
    ∀ c ∈ entry.getLast?, isWhite c = false

/-- The event and the entry at the first place of the line where an event begins. -/
def EntryOfLine (line : List Char) (item : String × List Char) : Prop :=
  ∃ front event blanks said,
    line = front ++ ("EID ".toList ++ (event ++ (blanks ++ said))) ∧
    (∀ i < front.length, ¬ StartsEntry (line.drop i)) ∧
    (event ≠ [] ∧ (∀ c ∈ event, isDecimalDigit c = true) ∧
      StopsAt isDecimalDigit (blanks ++ said)) ∧
    ((∀ c ∈ blanks, isBlank c = true) ∧ StopsAt isBlank said) ∧
    item.1 = String.ofList event ∧ TrimmedEnd said item.2

section Trimming

/-- Every text has its part without white space at its end. -/
theorem trimmedEnd_trimEnd (text : List Char) : TrimmedEnd text (trimEnd text) := by
  refine ⟨(text.reverse.takeWhile isWhite).reverse, ?_, ?_, ?_⟩
  · rw [trimEnd, ← List.reverse_append, List.takeWhile_append_dropWhile, List.reverse_reverse]
  · intro c hc
    exact List.all_eq_true.1 List.all_takeWhile c (List.mem_reverse.1 hc)
  · intro c hc
    rw [trimEnd, List.getLast?_reverse] at hc
    have hstop := List.head?_dropWhile_not isWhite text.reverse
    rw [hc] at hstop
    simpa using hstop

/-- There is no other part without white space at its end. -/
theorem TrimmedEnd.eq_trimEnd
    {text entry : List Char}
    (h : TrimmedEnd text entry) :
    entry = trimEnd text := by
  obtain ⟨spaces, rfl, hspaces, hlast⟩ := h
  have hstop : StopsAt isWhite entry.reverse := by
    cases hentry : entry.reverse with
    | nil =>
        trivial
    | cons c front =>
        apply hlast c
        rw [← List.head?_reverse, hentry]
        rfl
  have hall : ∀ c ∈ spaces.reverse, isWhite c = true :=
    fun c hc => hspaces c (List.mem_reverse.1 hc)
  rw [trimEnd, List.reverse_append, (takeWhile_of_stopsAt hall hstop).2, List.reverse_reverse]

end Trimming

section Reading

/-- The reader of the entries of an overview. -/
def entryReader : Reader (String × List Char) :=
  (Reader.ofTemplate entryTemplate trivial).map entryOf

theorem entries_eq_scan (text : List Char) : entries text = entryReader.scan text := rfl

theorem read_entryReader (s : List Char) :
    entryReader.read s =
      (entryTemplate.read s).map fun item => (entryOf item.1, item.2) :=
  rfl

theorem breaksAt_entryTemplate : entryTemplate.BreaksAt '\n' := by
  decide

theorem breaksAt_entryReader : entryReader.BreaksAt '\n' :=
  (Reader.breaksAt_ofTemplate breaksAt_entryTemplate).map entryOf

/-- Where an event begins, its digits, blanks and the rest of the text stand. -/
theorem StartsEntry.exists_parts
    {s : List Char}
    (h : StartsEntry s) :
    ∃ event blanks said,
      s = "EID ".toList ++ (event ++ (blanks ++ said)) ∧
      (event ≠ [] ∧ (∀ c ∈ event, isDecimalDigit c = true) ∧
        StopsAt isDecimalDigit (blanks ++ said)) ∧
      (∀ c ∈ blanks, isBlank c = true) ∧ StopsAt isBlank said := by
  obtain ⟨digit, rest, rfl, hdigit⟩ := h
  have hdigits : (digit :: rest).takeWhile isDecimalDigit ++
      (digit :: rest).dropWhile isDecimalDigit = digit :: rest :=
    List.takeWhile_append_dropWhile
  have hblanks := List.takeWhile_append_dropWhile (p := isBlank)
    (l := (digit :: rest).dropWhile isDecimalDigit)
  refine ⟨(digit :: rest).takeWhile isDecimalDigit,
    ((digit :: rest).dropWhile isDecimalDigit).takeWhile isBlank,
    ((digit :: rest).dropWhile isDecimalDigit).dropWhile isBlank,
    ?_, ⟨?_, ?_, ?_⟩, ?_, stopsAt_dropWhile isBlank _⟩
  · rw [hblanks, hdigits]
  · rw [List.takeWhile_cons_of_pos hdigit]
    exact List.cons_ne_nil _ _
  · exact fun c hc => List.all_eq_true.1 List.all_takeWhile c hc
  · rw [hblanks]
    exact stopsAt_dropWhile isDecimalDigit _
  · exact fun c hc => List.all_eq_true.1 List.all_takeWhile c hc

/-- An entry is read to the end of its line. -/
theorem read_entry
    {event blanks said : List Char}
    (hevent : event ≠ [] ∧ (∀ c ∈ event, isDecimalDigit c = true) ∧
      StopsAt isDecimalDigit (blanks ++ said))
    (hblanks : (∀ c ∈ blanks, isBlank c = true) ∧ StopsAt isBlank said)
    (hsaid : '\n' ∉ said) :
    entryReader.read ("EID ".toList ++ (event ++ (blanks ++ said))) =
      some ((String.ofList event, trimEnd said), []) := by
  have hline : ∀ c ∈ said, (c != '\n') = true := by
    intro c hc
    rw [bne_iff_ne]
    rintro rfl
    exact hsaid hc
  have hfits :
      Template.Fits entryTemplate ("EID ".toList ++ (event ++ (blanks ++ (said ++ []))))
        [event, said] [] := by
    rw [entryTemplate]
    refine .skip rfl (.keep ⟨hevent.2.1, ?_, List.length_pos_iff.2 hevent.1, ?_⟩
      (.skip ⟨hblanks.1, ?_, Nat.zero_le _, ?_⟩ (.keep ⟨hline, trivial, Nat.zero_le _, ?_⟩
        (.nil []))))
    · rw [List.append_nil]
      exact hevent.2.2
    · intro bound hbound
      cases hbound
    · rw [List.append_nil]
      exact hblanks.2
    · intro bound hbound
      cases hbound
    · intro bound hbound
      cases hbound
  rw [List.append_nil] at hfits
  rw [read_entryReader, Template.read_eq_some_iff.2 hfits]
  rfl

/-- Nothing is read where no event begins. -/
theorem read_eq_none_of_not_startsEntry
    {s : List Char}
    (h : ¬ StartsEntry s) :
    entryReader.read s = none := by
  cases hread : entryTemplate.read s with
  | none =>
      rw [read_entryReader, hread]
      rfl
  | some found =>
      obtain ⟨rest, rfl, hrest⟩ :=
        exists_of_fits_literal (Template.read_eq_some_iff.1 hread)
      obtain ⟨event, text, others, rfl, -, hevent, -⟩ := hrest.exists_of_keep
      have hne : event ≠ [] := List.length_pos_iff.1 hevent.2.2.1
      obtain ⟨digit, digits, rfl⟩ := List.exists_cons_of_ne_nil hne
      have hstarts : StartsEntry ("EID ".toList ++ (digit :: digits ++ text)) :=
        ⟨digit, digits ++ text, rfl, hevent.1 digit List.mem_cons_self⟩
      exact absurd hstarts h

/-- A front where no item starts is passed over. -/
theorem scan_append_of_read_eq_none
    {α : Type}
    (reader : Reader α)
    (front s : List Char)
    (h : ∀ i < front.length, reader.read ((front ++ s).drop i) = none) :
    reader.scan (front ++ s) = reader.scan s := by
  induction front with
  | nil =>
      rfl
  | cons c front ih =>
      have hfirst : reader.read (c :: (front ++ s)) = none := h 0 (Nat.zero_lt_succ _)
      rw [List.cons_append, reader.scan_cons_of_read_none hfirst]
      exact ih fun i hi => h (i + 1) (Nat.succ_lt_succ hi)

end Reading

section Lines

/-- Where an event begins on a line, the line has an entry. -/
theorem exists_entryOfLine
    {line : List Char}
    (h : ∃ i, StartsEntry (line.drop i)) :
    ∃ item, EntryOfLine line item := by
  induction line with
  | nil =>
      obtain ⟨i, digit, rest, heq, -⟩ := h
      simp at heq
  | cons c line ih =>
      by_cases hfirst : StartsEntry (c :: line)
      · obtain ⟨event, blanks, said, hline, hevent, hblanks⟩ := hfirst.exists_parts
        exact ⟨(String.ofList event, trimEnd said), [], event, blanks, said, hline,
          fun i hi => absurd hi (Nat.not_lt_zero i), hevent, hblanks, rfl,
          trimmedEnd_trimEnd said⟩
      · obtain ⟨i, hi⟩ := h
        cases i with
        | zero =>
            exact absurd hi hfirst
        | succ i =>
            obtain ⟨item, front, event, blanks, said, hline, hfront, hrest⟩ := ih ⟨i, hi⟩
            refine ⟨item, c :: front, event, blanks, said, congrArg (c :: ·) hline, ?_, hrest⟩
            intro j hj
            cases j with
            | zero => exact hfirst
            | succ j => exact hfront j (Nat.lt_of_succ_lt_succ hj)

/-- The entry of a line is all that is read from it. -/
theorem EntryOfLine.entries_eq
    {line : List Char}
    {item : String × List Char}
    (h : EntryOfLine line item)
    (hline : '\n' ∉ line) :
    entries line = [item] := by
  obtain ⟨front, event, blanks, said, rfl, hfront, hevent, hblanks, hfst, hsnd⟩ := h
  have hsaid : '\n' ∉ said := by
    intro hmem
    apply hline
    simp [hmem]
  rw [entries_eq_scan, scan_append_of_read_eq_none _ front _
      fun i hi => read_eq_none_of_not_startsEntry (hfront i hi),
    entryReader.scan_of_read (read_entry hevent hblanks hsaid), Reader.scan_nil,
    ← hfst, ← hsnd.eq_trimEnd]

/-- From a line where no event begins nothing is read. -/
theorem entries_eq_nil_of_not_startsEntry
    {line : List Char}
    (h : ∀ i, ¬ StartsEntry (line.drop i)) :
    entries line = [] := by
  have hscan := scan_append_of_read_eq_none entryReader line []
    fun i _ => read_eq_none_of_not_startsEntry (by rw [List.append_nil]; exact h i)
  rw [List.append_nil, Reader.scan_nil] at hscan
  exact hscan

/-- A line has the entry that is read from it. -/
theorem entries_eq_singleton_iff
    {line : List Char}
    (hline : '\n' ∉ line)
    (item : String × List Char) :
    entries line = [item] ↔ EntryOfLine line item := by
  refine ⟨fun h => ?_, fun h => h.entries_eq hline⟩
  by_cases hstarts : ∃ i, StartsEntry (line.drop i)
  · obtain ⟨found, hfound⟩ := exists_entryOfLine hstarts
    have hsame := h.symm.trans (hfound.entries_eq hline)
    rw [List.singleton_inj.1 hsame]
    exact hfound
  · rw [entries_eq_nil_of_not_startsEntry (not_exists.1 hstarts)] at h
    cases h

/-- Nothing is read from a line exactly if no event begins on it. -/
theorem entries_eq_nil_iff
    {line : List Char}
    (hline : '\n' ∉ line) :
    entries line = [] ↔ ∀ i, ¬ StartsEntry (line.drop i) := by
  refine ⟨fun h i hi => ?_, entries_eq_nil_of_not_startsEntry⟩
  obtain ⟨item, hitem⟩ := exists_entryOfLine ⟨i, hi⟩
  rw [hitem.entries_eq hline] at h
  cases h

/-- The parts between line feeds have no line feed. -/
theorem newline_not_mem_of_mem_splitOn
    {text line : List Char}
    (h : line ∈ text.splitOn '\n') :
    '\n' ∉ line := by
  induction text generalizing line with
  | nil =>
      rw [List.splitOn_nil, List.mem_singleton] at h
      simp [h]
  | cons c text ih =>
      obtain ⟨first, others, hparts⟩ :=
        List.exists_cons_of_ne_nil (List.splitOn_ne_nil '\n' text)
      rw [hparts] at ih
      rw [List.splitOn_cons_eq_if_modifyHead, hparts] at h
      split at h
      · rcases List.mem_cons.1 h with rfl | hmem
        · exact List.not_mem_nil
        · exact ih hmem
      · next hc =>
          rw [List.modifyHead_cons] at h
          rcases List.mem_cons.1 h with rfl | hmem
          · intro hmem
            rcases List.mem_cons.1 hmem with rfl | hfirst
            · exact hc (beq_self_eq_true _)
            · exact ih List.mem_cons_self hfirst
          · exact ih (List.mem_cons_of_mem _ hmem)

/-- The entries of an overview are those of its lines, in order. -/
theorem entries_eq_flatMap_lines (text : List Char) :
    entries text = (text.splitOn '\n').flatMap entries := by
  have hscan := Reader.scan_intercalate breaksAt_entryReader (text.splitOn '\n')
  rw [List.intercalate_splitOn] at hscan
  exact hscan

end Lines

end Draw
end CaptureKit
