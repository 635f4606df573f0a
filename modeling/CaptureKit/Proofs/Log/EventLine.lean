import CaptureKit.Proofs.Log.Occurrence
import CaptureKit.Proofs.Text.LineLocality

/-!
# Lines that hold events

Events stand on lines.  A line is written with any spaces and tabs between its parts, and
its words with any one to eight hexadecimal digits that denote them.  Between such lines a
log may hold any other lines, as long as those have no event of their own.

The main statements: the events of a log are those of its lines (`events_intercalate`),
a written line holds exactly its event (`events_of_writes`), and so a log holds exactly
the events that its lines record (`events_of_records`).
-/

namespace CaptureKit
namespace Log

open Microcode Text

section LineLocality

/-- The characters that line ends are made of. -/
def lineEndChars : List Char := ['\n', '\r']

theorem breaksAt_slotTemplate
    {cut : Char}
    (h : cut ∈ lineEndChars) :
    slotTemplate.BreaksAt cut := by
  rcases List.mem_pair.1 h with rfl | rfl <;> decide

theorem breaksAt_loadTemplate
    {cut : Char}
    (h : cut ∈ lineEndChars) :
    loadTemplate.BreaksAt cut := by
  rcases List.mem_pair.1 h with rfl | rfl <;> decide

theorem breaksAt_wordTemplate
    {cut : Char}
    (h : cut ∈ lineEndChars) :
    wordTemplate.BreaksAt cut := by
  rcases List.mem_pair.1 h with rfl | rfl <;> decide

/-- No event of either kind of log goes past the end of its line. -/
theorem breaksAt_reader
    (kind : LogKind)
    {cut : Char}
    (h : cut ∈ lineEndChars) :
    kind.reader.BreaksAt cut := by
  cases kind with
  | shaderDump =>
      exact (Reader.breaksAt_ofTemplate (breaksAt_slotTemplate h)).map _
  | methodTrace =>
      exact ((Reader.breaksAt_ofTemplate (breaksAt_loadTemplate h)).map _).orElse
        ((Reader.breaksAt_ofTemplate (breaksAt_wordTemplate h)).map _)

/-- A character of a line end cuts the events of a log in two. -/
theorem events_append_cut
    (kind : LogKind)
    {cut : Char}
    (h : cut ∈ lineEndChars)
    (s t : List Char) :
    kind.events (s ++ cut :: t) = kind.events s ++ kind.events t := by
  simp only [LogKind.events, Reader.scan_append_cut (breaksAt_reader kind h),
    List.filterMap_append]

/-- A line feed cuts the events of a log in two. -/
theorem events_append_newline
    (kind : LogKind)
    (s t : List Char) :
    kind.events (s ++ '\n' :: t) = kind.events s ++ kind.events t :=
  events_append_cut kind (by decide) s t

/-- The events of a log are those of its lines. -/
theorem events_intercalate
    (kind : LogKind)
    (lines : List (List Char)) :
    kind.events (['\n'].intercalate lines) = lines.flatMap kind.events := by
  have hbreaks : kind.reader.BreaksAt '\n' := breaksAt_reader kind (by decide)
  simp only [LogKind.events, Reader.scan_intercalate hbreaks, List.filterMap_flatMap]
  rfl

end LineLocality

section WrittenLines

/-- The lines on which an event of a log is written.  In a method trace the number of the
channel, the number of the word and the address of the method do not matter. -/
inductive Writes : LogKind → Event → List Char → Prop
  | slot
      {index : Nat} {code : Slot}
      {s₀ s₁ s₂ s₃ s₄ s₅ s₆ a b c d : List Char}
      (hseparators : ∀ s ∈ [s₀, s₁, s₂, s₃, s₄, s₅, s₆], Separator s)
      (hfirst : SpellsWord code.first a)
      (hsecond : SpellsWord code.second b)
      (hthird : SpellsWord code.third c)
      (hfourth : SpellsWord code.fourth d) :
      Writes .shaderDump (.slot index code)
        ("/*".toList ++ s₀ ++ "Slot".toList ++ s₁ ++ Nat.toDigits 10 index ++ ":".toList ++
          s₂ ++ "0x".toList ++ a ++ s₃ ++ "0x".toList ++ b ++
          s₄ ++ "0x".toList ++ c ++ s₅ ++ "0x".toList ++ d ++ s₆ ++ "*/".toList)
  | load
      {address : Word}
      {channel blanks digits : List Char}
      (hchannel : channel ≠ [] ∧ ∀ c ∈ channel, isDecimalDigit c = true)
      (hblanks : ∀ c ∈ blanks, c = ' ' ∨ c = '\t')
      (haddress : SpellsWord address digits) :
      Writes .methodTrace (.load address)
        (methodLine channel "NV097_SET_TRANSFORM_PROGRAM_LOAD<0x1E9C>".toList blanks digits)
  | word
      {value : Word}
      {channel number method blanks digits : List Char}
      (hchannel : channel ≠ [] ∧ ∀ c ∈ channel, isDecimalDigit c = true)
      (hnumber : number ≠ [] ∧ ∀ c ∈ number, isDecimalDigit c = true)
      (hmethod : method ≠ [] ∧ ∀ c ∈ method, isHexDigit c = true)
      (hblanks : ∀ c ∈ blanks, c = ' ' ∨ c = '\t')
      (hvalue : SpellsWord value digits) :
      Writes .methodTrace (.word value)
        (methodLine channel
          ("NV097_SET_TRANSFORM_PROGRAM[".toList ++ number ++ "]<0x".toList ++ method ++
            ">".toList)
          blanks digits)

/-- Lines that write the events in order.  Lines between them have no event. -/
inductive Records (kind : LogKind) : List Event → List (List Char) → Prop
  | nil :
      Records kind [] []
  | noise
      {events : List Event} {line : List Char} {lines : List (List Char)}
      (hnoise : kind.events line = [])
      (hrest : Records kind events lines) :
      Records kind events (line :: lines)
  | event
      {event : Event} {events : List Event} {line : List Char} {lines : List (List Char)}
      (hline : Writes kind event line)
      (hrest : Records kind events lines) :
      Records kind (event :: events) (line :: lines)

end WrittenLines

section EventsOfLines

/-- The decimal digits of an index below a billion spell it. -/
theorem spellsIndex_toDigits
    {index : Nat}
    (hindex : index < 1000000000) :
    SpellsIndex index (Nat.toDigits 10 index) := by
  have hlength : (Nat.toDigits 10 index).length ≤ 9 :=
    (Nat.length_toDigits_le_iff (by decide) (by decide)).2 hindex
  have hdigits : ∀ c ∈ Nat.toDigits 10 index, c.isDigit = true :=
    fun c hc => Nat.isDigit_of_mem_toDigits (by decide) (by decide) hc
  have hspelling := decimalSpelling_decimalValue hdigits
  rw [decimalValue, Nat.ofDigitChars_ten_toDigits] at hspelling
  exact ⟨Nat.toDigits_ne_nil, hlength, hspelling⟩

/-- The end of an instruction's line has no event. -/
theorem scan_slotLine_end
    {s : List Char}
    (hs : Separator s) :
    LogKind.shaderDump.reader.scan (s ++ "*/".toList) = [] := by
  have hslash : '/' ∉ s ++ ['*'] := by
    intro hmem
    rcases List.mem_append.1 hmem with hmem | hmem
    · rcases hs.blank '/' hmem with h | h <;> cases h
    · cases List.mem_singleton.1 hmem
  have hend : LogKind.shaderDump.reader.read ['/'] = none := by
    rfl
  have htext : s ++ "*/".toList = (s ++ ['*']) ++ ['/'] := by
    simp
  rw [htext, (opensWith_reader .shaderDump).scan_append hslash,
    Reader.scan_cons_of_read_none _ hend, Reader.scan_nil]

/-- An event occurs at the front of the line that writes it, and no other behind it. -/
theorem Writes.exists_occurs
    {kind : LogKind}
    {event : Event}
    {line : List Char}
    (h : Writes kind event line)
    (hindex : ∀ index code, event = .slot index code → index < 1000000000) :
    ∃ rest, Occurs kind event line rest ∧ kind.reader.scan rest = [] := by
  cases h with
  | @slot index code s₀ s₁ s₂ s₃ s₄ s₅ s₆ a b c d hs ha hb hc hd =>
      have hspells := spellsIndex_toDigits (hindex index code rfl)
      have hs₆ : Separator s₆ := hs s₆ (by simp)
      refine ⟨s₆ ++ "*/".toList, ?_, scan_slotLine_end hs₆⟩
      rw [List.append_assoc]
      refine .slot ?_ hspells ha hb hc hd (hs₆.stopsAt rfl rfl _)
      intro s hmem
      exact hs s (List.mem_append_left [s₆] hmem)
  | @load address channel blanks digits hchannel hblanks haddress =>
      refine ⟨[], ?_, Reader.scan_nil _⟩
      have hoccurs : Occurs .methodTrace (.load address) (_ ++ []) [] :=
        .load hchannel hblanks haddress
      rwa [List.append_nil] at hoccurs
  | @word value channel number method blanks digits hchannel hnumber hmethod hblanks hvalue =>
      refine ⟨[], ?_, Reader.scan_nil _⟩
      have hoccurs : Occurs .methodTrace (.word value) (_ ++ []) [] :=
        .word hchannel hnumber hmethod hblanks hvalue
      rwa [List.append_nil] at hoccurs

/-- A line that writes an event holds exactly this event.  The index of an instruction may
have up to nine digits. -/
theorem events_of_writes
    {kind : LogKind}
    {event : Event}
    {line : List Char}
    (h : Writes kind event line)
    (hindex : ∀ index code, event = .slot index code → index < 1000000000) :
    kind.events line = [event] := by
  obtain ⟨rest, hoccurs, hrest⟩ := h.exists_occurs hindex
  rw [LogKind.events, Reader.scan_of_read _ hoccurs.read, hrest]
  rfl

/-- A log holds the events that its lines record, in order. -/
theorem events_of_records
    {kind : LogKind}
    {events : List Event}
    {lines : List (List Char)}
    (h : Records kind events lines)
    (hindex : ∀ index code, .slot index code ∈ events → index < 1000000000) :
    kind.events (['\n'].intercalate lines) = events := by
  rw [events_intercalate]
  induction h with
  | nil =>
      rfl
  | noise hnoise _ ih =>
      rw [List.flatMap_cons, hnoise, ih hindex, List.nil_append]
  | @event event events line lines hline _ ih =>
      have hfirst : kind.events line = [event] := by
        refine events_of_writes hline ?_
        rintro index code rfl
        exact hindex index code (by simp)
      have hothers := ih fun index code hmem => hindex index code (by simp [hmem])
      rw [List.flatMap_cons, hfirst, hothers, List.singleton_append]

end EventsOfLines

end Log
end CaptureKit
