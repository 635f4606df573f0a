import CaptureKit.Log.Reading
import CaptureKit.Proofs.Text.Matching
import CaptureKit.Proofs.Text.OpeningMark
import CaptureKit.Proofs.Text.Spelling

/-!
# Where events occur

An event occurs at the front of a text if its template is written there: any spaces and
tabs between the parts, an index of one to nine ASCII digits, and each word as one to eight
hexadecimal digits that denote it, behind which no word goes on.  This is said by what the
digits denote (`Occurs`), and not by what the reader of this library does with them.

The main statements: an event is read at the front of a text exactly if it occurs there
(`read_eq_some_iff`), and the events of a log are those that occur anywhere in it, in order
(`events_at_occurrences`).  No occurrence is missed, though the search goes on behind each
match: no template takes the character again with which it begins.
-/

namespace CaptureKit
namespace Log

open Microcode Text

section Occurrences

/-- One or more spaces or tabs. -/
structure Separator (s : List Char) : Prop where
  nonempty : s ≠ []
  blank : ∀ c ∈ s, c = ' ' ∨ c = '\t'

instance (s : List Char) : Decidable (Separator s) :=
  decidable_of_iff (s ≠ [] ∧ s.all (fun c => c = ' ' ∨ c = '\t') = true)
    ⟨fun h => ⟨h.1, by simpa using h.2⟩, fun h => ⟨h.nonempty, by simpa using h.blank⟩⟩

/-- One to eight hexadecimal digits that denote the word. -/
structure SpellsWord (word : Word) (digits : List Char) : Prop where
  nonempty : digits ≠ []
  length_le : digits.length ≤ 8
  denotes : HexSpelling word.toNat digits

/-- One to nine ASCII digits that denote the index. -/
structure SpellsIndex (index : Nat) (digits : List Char) : Prop where
  nonempty : digits ≠ []
  length_le : digits.length ≤ 9
  denotes : DecimalSpelling index digits

/-- One to nine decimal digits of any script. -/
structure IndexDigits (digits : List Char) : Prop where
  nonempty : digits ≠ []
  length_le : digits.length ≤ 9
  decimal : ∀ c ∈ digits, isDecimalDigit c = true

/-- An instruction with its index and its four words, and what separates them. -/
def slotText (s₀ s₁ index s₂ a s₃ b s₄ c s₅ d : List Char) : List Char :=
  "/*".toList ++ s₀ ++ "Slot".toList ++ s₁ ++ index ++ ":".toList ++
    s₂ ++ "0x".toList ++ a ++ s₃ ++ "0x".toList ++ b ++
    s₄ ++ "0x".toList ++ c ++ s₅ ++ "0x".toList ++ d

/-- The line of a method call: the channel, the method with its address, and the value. -/
def methodLine (channel method blanks digits : List Char) : List Char :=
  "nv2a_pgraph_method ".toList ++ channel ++ ": NV20_KELVIN_PRIMITIVE<0x97> -> ".toList ++
    method ++ blanks ++ "(".toList ++ "0x".toList ++ digits ++ ")".toList

/-- The event is written at the front of the text, with the rest behind it.  In a method
trace the number of the channel, the number of the word and the address of the method do
not matter. -/
inductive Occurs : LogKind → Event → List Char → List Char → Prop
  | slot
      {index : Nat} {code : Slot}
      {s₀ s₁ s₂ s₃ s₄ s₅ digits a b c d rest : List Char}
      (hseparators : ∀ s ∈ [s₀, s₁, s₂, s₃, s₄, s₅], Separator s)
      (hindex : SpellsIndex index digits)
      (hfirst : SpellsWord code.first a)
      (hsecond : SpellsWord code.second b)
      (hthird : SpellsWord code.third c)
      (hfourth : SpellsWord code.fourth d)
      (hend : StopsAt isWordChar rest) :
      Occurs .shaderDump (.slot index code)
        (slotText s₀ s₁ digits s₂ a s₃ b s₄ c s₅ d ++ rest) rest
  | load
      {address : Word}
      {channel blanks digits rest : List Char}
      (hchannel : channel ≠ [] ∧ ∀ c ∈ channel, isDecimalDigit c = true)
      (hblanks : ∀ c ∈ blanks, c = ' ' ∨ c = '\t')
      (haddress : SpellsWord address digits) :
      Occurs .methodTrace (.load address)
        (methodLine channel "NV097_SET_TRANSFORM_PROGRAM_LOAD<0x1E9C>".toList blanks digits ++
          rest)
        rest
  | word
      {value : Word}
      {channel number method blanks digits rest : List Char}
      (hchannel : channel ≠ [] ∧ ∀ c ∈ channel, isDecimalDigit c = true)
      (hnumber : number ≠ [] ∧ ∀ c ∈ number, isDecimalDigit c = true)
      (hmethod : method ≠ [] ∧ ∀ c ∈ method, isHexDigit c = true)
      (hblanks : ∀ c ∈ blanks, c = ' ' ∨ c = '\t')
      (hvalue : SpellsWord value digits) :
      Occurs .methodTrace (.word value)
        (methodLine channel
          ("NV097_SET_TRANSFORM_PROGRAM[".toList ++ number ++ "]<0x".toList ++ method ++
            ">".toList)
          blanks digits ++ rest)
        rest

/-- What has the shape of an event, but is none: an instruction whose index has a digit
outside of ASCII. -/
inductive Rejected : LogKind → List Char → List Char → Prop
  | slot
      {code : Slot}
      {s₀ s₁ s₂ s₃ s₄ s₅ digits a b c d rest : List Char}
      (hseparators : ∀ s ∈ [s₀, s₁, s₂, s₃, s₄, s₅], Separator s)
      (hindex : IndexDigits digits)
      (hforeign : ∃ c ∈ digits, c.isDigit = false)
      (hfirst : SpellsWord code.first a)
      (hsecond : SpellsWord code.second b)
      (hthird : SpellsWord code.third c)
      (hfourth : SpellsWord code.fourth d)
      (hend : StopsAt isWordChar rest) :
      Rejected .shaderDump (slotText s₀ s₁ digits s₂ a s₃ b s₄ c s₅ d ++ rest) rest

/-- The parts of an instruction stand one behind the other. -/
theorem slotText_append (s₀ s₁ index s₂ a s₃ b s₄ c s₅ d rest : List Char) :
    slotText s₀ s₁ index s₂ a s₃ b s₄ c s₅ d ++ rest =
      "/*".toList ++ (s₀ ++ ("Slot".toList ++ (s₁ ++ (index ++ (":".toList ++
        (s₂ ++ ("0x".toList ++ (a ++ (s₃ ++ ("0x".toList ++ (b ++
          (s₄ ++ ("0x".toList ++ (c ++ (s₅ ++ ("0x".toList ++ (d ++ rest))))))))))))))))) := by
  unfold slotText
  simp only [List.append_assoc]

/-- The parts of a method call stand one behind the other. -/
theorem methodLine_append (channel method blanks digits rest : List Char) :
    methodLine channel method blanks digits ++ rest =
      "nv2a_pgraph_method ".toList ++ (channel ++
        (": NV20_KELVIN_PRIMITIVE<0x97> -> ".toList ++ (method ++ (blanks ++
          ("(".toList ++ ("0x".toList ++ (digits ++ (")".toList ++ rest)))))))) := by
  unfold methodLine
  simp only [List.append_assoc]

end Occurrences

section Digits

/-- One to eight hexadecimal digits always denote a word. -/
theorem exists_spellsWord
    {digits : List Char}
    (hne : digits ≠ [])
    (hlength : digits.length ≤ 8)
    (hdigits : ∀ c ∈ digits, isHexDigit c = true) :
    ∃ w : Word, SpellsWord w digits := by
  have hspelling := hexSpelling_hexValue hdigits
  have hsize : hexValue digits < UInt32.size :=
    Nat.lt_of_lt_of_le hspelling.lt (Nat.pow_le_pow_right (by decide) hlength)
  refine ⟨UInt32.ofNat (hexValue digits), hne, hlength, ?_⟩
  rwa [UInt32.toNat_ofNat_of_lt' hsize]

/-- The word that is spelled is the word that is read. -/
theorem word?_of_spells
    {w : Word}
    {digits : List Char}
    (hw : SpellsWord w digits) :
    word? digits = some w := by
  have hdigits : digits.all isHexDigit = true := List.all_eq_true.2 hw.denotes.isHexDigit
  have hvalue : hexValue digits = w.toNat := hexValue_of_spelling hw.denotes
  have hsize : w.toNat < UInt32.size := w.toNat_lt
  rw [word?, hvalue, if_pos ⟨hw.nonempty, hdigits, hsize⟩, UInt32.ofNat_toNat]

/-- An index of at most nine digits is in range. -/
theorem decimal?_of_spells
    {index : Nat}
    {digits : List Char}
    (h : SpellsIndex index digits) :
    decimal? digits = some index := by
  refine decimal?_of_spelling h.denotes h.nonempty (Nat.lt_trans h.denotes.lt ?_)
  exact Nat.lt_of_le_of_lt (Nat.pow_le_pow_right (by decide) h.length_le) (by decide)

/-- The digits of an index are decimal digits. -/
theorem SpellsIndex.indexDigits
    {index : Nat}
    {digits : List Char}
    (h : SpellsIndex index digits) :
    IndexDigits digits :=
  ⟨h.nonempty, h.length_le, fun c hc => isDecimalDigit_of_isDigit (h.denotes.isDigit c hc)⟩

/-- Decimal digits that denote no index are not all in ASCII. -/
theorem IndexDigits.exists_foreign_iff
    {digits : List Char}
    (h : IndexDigits digits) :
    (∃ c ∈ digits, c.isDigit = false) ↔ decimal? digits = none := by
  constructor
  · rintro ⟨c, hc, hforeign⟩
    cases hread : decimal? digits with
    | none =>
        rfl
    | some index =>
        have hdigit := (spelling_of_decimal? hread).isDigit c hc
        rw [hforeign] at hdigit
        cases hdigit
  · intro hread
    by_contra hno
    have hascii : ∀ c ∈ digits, c.isDigit = true := by
      intro c hc
      by_contra hdigit
      exact hno ⟨c, hc, Bool.eq_false_of_not_eq_true hdigit⟩
    have hspells : SpellsIndex (decimalValue digits) digits :=
      ⟨h.nonempty, h.length_le, decimalSpelling_decimalValue hascii⟩
    rw [decimal?_of_spells hspells] at hread
    cases hread

/-- No blank follows where an index does. -/
theorem IndexDigits.stopsAt
    {digits : List Char}
    (h : IndexDigits digits)
    (rest : List Char) :
    StopsAt isBlank (digits ++ rest) := by
  refine stopsAt_append h.nonempty ?_ rest
  intro c hc
  have hdigit := h.decimal c hc
  cases hblank : isBlank c with
  | false =>
      rfl
  | true =>
      simp only [isBlank, Bool.or_eq_true, beq_iff_eq] at hblank
      rcases hblank with rfl | rfl <;> cases hdigit

end Digits

section Writing

variable {template : Template}
variable {rest after : List Char}
variable {parts : List (List Char)}

theorem fits_text
    (s : String)
    (h : template.Fits rest parts after) :
    Template.Fits (text s :: template) (s.toList ++ rest) parts after :=
  .skip rfl h

theorem fits_gap
    {s : List Char}
    (hs : Separator s)
    (hstop : StopsAt isBlank rest)
    (h : template.Fits rest parts after) :
    Template.Fits (gap :: template) (s ++ rest) parts after := by
  refine fits_run ⟨hs.nonempty, ?_⟩ hstop h
  intro c hc
  rcases hs.blank c hc with rfl | rfl <;> rfl

theorem fits_hex
    {w : Word}
    {digits : List Char}
    (hw : SpellsWord w digits)
    (hstop : StopsAt isWordChar rest)
    (h : template.Fits rest parts after) :
    Template.Fits (hexPieces ++ template) ("0x".toList ++ (digits ++ rest))
      (digits :: parts) after := by
  have hrun : (Shape.run isHexDigit 1 (some 8)).Takes digits rest := by
    refine ⟨hw.denotes.isHexDigit, hstop.mono fun _ => isWordChar_of_isHexDigit,
      List.length_pos_iff.2 hw.nonempty, ?_⟩
    rintro bound ⟨⟩
    exact hw.length_le
  have hend : (Shape.stop isWordChar).Takes [] rest := ⟨rfl, hstop⟩
  exact .skip rfl (.keep hrun (.skip hend h))

/-- No blank and no letter of a word stands before a separator or behind it. -/
theorem Separator.stopsAt
    {s : List Char}
    (hs : Separator s)
    {member : Char → Bool}
    (hspace : member ' ' = false)
    (htab : member '\t' = false)
    (rest : List Char) :
    StopsAt member (s ++ rest) := by
  refine stopsAt_append hs.nonempty ?_ rest
  intro c hc
  rcases hs.blank c hc with rfl | rfl
  · exact hspace
  · exact htab

/-- A word behind a separator, where no word goes on. -/
theorem fits_field
    {s : List Char}
    (hs : Separator s)
    {w : Word}
    {digits : List Char}
    (hw : SpellsWord w digits)
    (hstop : StopsAt isWordChar rest)
    (h : template.Fits rest parts after) :
    Template.Fits (gap :: (hexPieces ++ template))
      (s ++ ("0x".toList ++ (digits ++ rest))) (digits :: parts) after :=
  fits_gap hs (by rfl) (fits_hex hw hstop h)

theorem fits_index
    {digits : List Char}
    (hindex : IndexDigits digits)
    (hstop : StopsAt isDecimalDigit rest)
    (h : template.Fits rest parts after) :
    Template.Fits ((Shape.run isDecimalDigit 1 (some 9)).keep :: template)
      (digits ++ rest) (digits :: parts) after := by
  refine .keep ⟨hindex.decimal, hstop, List.length_pos_iff.2 hindex.nonempty, ?_⟩ h
  rintro bound ⟨⟩
  exact hindex.length_le

/-- The start of a method call, with the number of any channel. -/
theorem fits_method
    {channel : List Char}
    (hchannel : channel ≠ [] ∧ ∀ c ∈ channel, isDecimalDigit c = true)
    (rest : List Char) :
    Template.Fits methodPieces
      ("nv2a_pgraph_method ".toList ++
        (channel ++ (": NV20_KELVIN_PRIMITIVE<0x97> -> ".toList ++ rest))) [] rest :=
  fits_text _ (fits_run hchannel (by rfl) (fits_text _ (.nil rest)))

/-- The value in parentheses at the end of a method call. -/
theorem fits_argument
    {blanks digits : List Char}
    (hblanks : ∀ c ∈ blanks, c = ' ' ∨ c = '\t')
    {w : Word}
    (hw : SpellsWord w digits)
    (rest : List Char) :
    Template.Fits argumentPieces
      (blanks ++ ("(".toList ++ ("0x".toList ++ (digits ++ (")".toList ++ rest)))))
      [digits] rest := by
  have hrun :
      (Shape.anyNumber isBlank).Takes blanks
        ("(".toList ++ ("0x".toList ++ (digits ++ (")".toList ++ rest)))) := by
    refine ⟨?_, by rfl, Nat.zero_le _, ?_⟩
    · intro c hc
      rcases hblanks c hc with rfl | rfl <;> rfl
    · intro bound hbound
      cases hbound
  exact .skip hrun (fits_text "(" (fits_hex hw (by rfl) (fits_text ")" (.nil rest))))

/-- An instruction fits its template, with an index in the digits of any script. -/
theorem fits_slot
    {s₀ s₁ s₂ s₃ s₄ s₅ digits a b c d : List Char}
    (hs : ∀ s ∈ [s₀, s₁, s₂, s₃, s₄, s₅], Separator s)
    (hindex : IndexDigits digits)
    {code : Slot}
    (ha : SpellsWord code.first a)
    (hb : SpellsWord code.second b)
    (hc : SpellsWord code.third c)
    (hd : SpellsWord code.fourth d)
    (hend : StopsAt isWordChar rest) :
    slotTemplate.Fits (slotText s₀ s₁ digits s₂ a s₃ b s₄ c s₅ d ++ rest)
      [digits, a, b, c, d] rest := by
  have hs₃ : Separator s₃ := hs s₃ (by simp)
  have hs₄ : Separator s₄ := hs s₄ (by simp)
  have hs₅ : Separator s₅ := hs s₅ (by simp)
  rw [slotText_append]
  refine fits_text "/*" (fits_gap (hs s₀ (by simp)) (by rfl) ?_)
  refine fits_text "Slot" (fits_gap (hs s₁ (by simp)) (hindex.stopsAt _) ?_)
  refine fits_index hindex (by rfl) (fits_text ":" ?_)
  refine fits_field (hs s₂ (by simp)) ha (hs₃.stopsAt rfl rfl _) ?_
  refine fits_field hs₃ hb (hs₄.stopsAt rfl rfl _) ?_
  refine fits_field hs₄ hc (hs₅.stopsAt rfl rfl _) ?_
  exact fits_field hs₅ hd hend (.nil rest)

end Writing

section Finding

variable {template : Template}
variable {whole after : List Char}
variable {parts : List (List Char)}

theorem exists_of_fits_text
    {s : String}
    (h : Template.Fits (text s :: template) whole parts after) :
    ∃ rest, whole = s.toList ++ rest ∧ template.Fits rest parts after :=
  exists_of_fits_literal h

theorem eq_or_eq_of_isBlank
    {c : Char}
    (h : isBlank c = true) :
    c = ' ' ∨ c = '\t' := by
  simpa [isBlank] using h

theorem exists_of_fits_gap
    (h : Template.Fits (gap :: template) whole parts after) :
    ∃ s rest, whole = s ++ rest ∧ Separator s ∧ template.Fits rest parts after := by
  obtain ⟨s, rest, rfl, ⟨hne, hblank⟩, hfits⟩ := exists_of_fits_run h
  exact ⟨s, rest, rfl, ⟨hne, fun c hc => eq_or_eq_of_isBlank (hblank c hc)⟩, hfits⟩

/-- What is taken as a word denotes one, however many leading zeros it has. -/
theorem exists_of_fits_hex
    (h : Template.Fits (hexPieces ++ template) whole parts after) :
    ∃ digits w rest others,
      whole = "0x".toList ++ (digits ++ rest) ∧ SpellsWord w digits ∧
        StopsAt isWordChar rest ∧ parts = digits :: others ∧
        template.Fits rest others after := by
  obtain ⟨behind, rfl, hbehind⟩ := exists_of_fits_text h
  obtain ⟨digits, tail, others, rfl, rfl, ⟨hhex, -, hleast, hmost⟩, htail⟩ :=
    hbehind.exists_of_keep
  obtain ⟨nothing, rest, rfl, ⟨rfl, hstop⟩, hfits⟩ := htail.exists_of_skip
  obtain ⟨w, hw⟩ := exists_spellsWord (List.length_pos_iff.1 hleast) (hmost 8 rfl) hhex
  exact ⟨digits, w, rest, others, rfl, hw, hstop, rfl, hfits⟩

theorem exists_of_fits_field
    (h : Template.Fits (gap :: (hexPieces ++ template)) whole parts after) :
    ∃ s digits w rest others,
      whole = s ++ ("0x".toList ++ (digits ++ rest)) ∧ Separator s ∧ SpellsWord w digits ∧
        StopsAt isWordChar rest ∧ parts = digits :: others ∧
        template.Fits rest others after := by
  obtain ⟨s, behind, rfl, hs, hbehind⟩ := exists_of_fits_gap h
  obtain ⟨digits, w, rest, others, rfl, hw, hstop, rfl, hfits⟩ := exists_of_fits_hex hbehind
  exact ⟨s, digits, w, rest, others, rfl, hs, hw, hstop, rfl, hfits⟩

/-- An index is taken in the digits of any script. -/
theorem exists_of_fits_index
    (h : Template.Fits ((Shape.run isDecimalDigit 1 (some 9)).keep :: template)
      whole parts after) :
    ∃ digits rest others,
      whole = digits ++ rest ∧ IndexDigits digits ∧ parts = digits :: others ∧
        template.Fits rest others after := by
  obtain ⟨digits, rest, others, rfl, rfl, ⟨hdecimal, -, hleast, hmost⟩, hfits⟩ :=
    h.exists_of_keep
  have hindex : IndexDigits digits := ⟨List.length_pos_iff.1 hleast, hmost 9 rfl, hdecimal⟩
  exact ⟨digits, rest, others, rfl, hindex, rfl, hfits⟩

theorem exists_of_fits_method
    (h : Template.Fits (methodPieces ++ template) whole parts after) :
    ∃ channel rest,
      whole = "nv2a_pgraph_method ".toList ++
          (channel ++ (": NV20_KELVIN_PRIMITIVE<0x97> -> ".toList ++ rest)) ∧
        (channel ≠ [] ∧ ∀ c ∈ channel, isDecimalDigit c = true) ∧
        template.Fits rest parts after := by
  obtain ⟨first, rfl, hfirst⟩ := exists_of_fits_text h
  obtain ⟨channel, second, rfl, hchannel, hsecond⟩ := exists_of_fits_run hfirst
  obtain ⟨rest, rfl, hfits⟩ := exists_of_fits_text hsecond
  exact ⟨channel, rest, rfl, hchannel, hfits⟩

theorem exists_of_fits_argument
    (h : Template.Fits argumentPieces whole parts after) :
    ∃ blanks digits w,
      whole = blanks ++ ("(".toList ++ ("0x".toList ++ (digits ++ (")".toList ++ after)))) ∧
        (∀ c ∈ blanks, c = ' ' ∨ c = '\t') ∧ SpellsWord w digits ∧ parts = [digits] := by
  obtain ⟨blanks, first, rfl, ⟨hblanks, -⟩, hfirst⟩ := h.exists_of_skip
  obtain ⟨second, rfl, hsecond⟩ := exists_of_fits_text hfirst
  obtain ⟨digits, w, third, others, rfl, hw, -, rfl, hthird⟩ := exists_of_fits_hex hsecond
  obtain ⟨rest, rfl, hrest⟩ := exists_of_fits_text hthird
  obtain ⟨rfl, rfl⟩ := hrest.eq_of_nil
  exact ⟨blanks, digits, w, rfl, fun c hc => eq_or_eq_of_isBlank (hblanks c hc), hw, rfl⟩

/-- What fits the template of an instruction. -/
theorem exists_of_fits_slot
    (h : slotTemplate.Fits whole parts after) :
    ∃ s₀ s₁ s₂ s₃ s₄ s₅ digits a b c d, ∃ code : Slot,
      whole = slotText s₀ s₁ digits s₂ a s₃ b s₄ c s₅ d ++ after ∧
        (∀ s ∈ [s₀, s₁, s₂, s₃, s₄, s₅], Separator s) ∧
        IndexDigits digits ∧
        SpellsWord code.first a ∧ SpellsWord code.second b ∧
        SpellsWord code.third c ∧ SpellsWord code.fourth d ∧
        StopsAt isWordChar after ∧ parts = [digits, a, b, c, d] := by
  obtain ⟨text₀, rfl, h₀⟩ := exists_of_fits_text h
  obtain ⟨s₀, text₁, rfl, hs₀, h₁⟩ := exists_of_fits_gap h₀
  obtain ⟨text₂, rfl, h₂⟩ := exists_of_fits_text h₁
  obtain ⟨s₁, text₃, rfl, hs₁, h₃⟩ := exists_of_fits_gap h₂
  obtain ⟨digits, text₄, parts₄, rfl, hindex, rfl, h₄⟩ := exists_of_fits_index h₃
  obtain ⟨text₅, rfl, h₅⟩ := exists_of_fits_text h₄
  obtain ⟨s₂, a, first, text₆, parts₆, rfl, hs₂, ha, -, rfl, h₆⟩ := exists_of_fits_field h₅
  obtain ⟨s₃, b, second, text₇, parts₇, rfl, hs₃, hb, -, rfl, h₇⟩ := exists_of_fits_field h₆
  obtain ⟨s₄, c, third, text₈, parts₈, rfl, hs₄, hc, -, rfl, h₈⟩ := exists_of_fits_field h₇
  obtain ⟨s₅, d, fourth, text₉, parts₉, rfl, hs₅, hd, hend, rfl, h₉⟩ :=
    @exists_of_fits_field [] _ _ _ h₈
  obtain ⟨rfl, rfl⟩ := h₉.eq_of_nil
  refine ⟨s₀, s₁, s₂, s₃, s₄, s₅, digits, a, b, c, d, ⟨first, second, third, fourth⟩, ?_, ?_,
    hindex, ha, hb, hc, hd, hend, rfl⟩
  · rw [slotText_append]
  · simp [hs₀, hs₁, hs₂, hs₃, hs₄, hs₅]

/-- What fits the template of a load. -/
theorem exists_of_fits_load
    (h : loadTemplate.Fits whole parts after) :
    ∃ channel blanks digits w,
      whole = methodLine channel "NV097_SET_TRANSFORM_PROGRAM_LOAD<0x1E9C>".toList
          blanks digits ++ after ∧
        (channel ≠ [] ∧ ∀ c ∈ channel, isDecimalDigit c = true) ∧
        (∀ c ∈ blanks, c = ' ' ∨ c = '\t') ∧ SpellsWord w digits ∧ parts = [digits] := by
  obtain ⟨channel, first, rfl, hchannel, hfirst⟩ := exists_of_fits_method h
  obtain ⟨second, rfl, hsecond⟩ := exists_of_fits_text hfirst
  obtain ⟨blanks, digits, w, rfl, hblanks, hw, rfl⟩ := exists_of_fits_argument hsecond
  exact ⟨channel, blanks, digits, w, (methodLine_append ..).symm, hchannel, hblanks, hw, rfl⟩

/-- What fits the template of a word. -/
theorem exists_of_fits_word
    (h : wordTemplate.Fits whole parts after) :
    ∃ channel number method blanks digits w,
      whole = methodLine channel
          ("NV097_SET_TRANSFORM_PROGRAM[".toList ++ number ++ "]<0x".toList ++ method ++
            ">".toList)
          blanks digits ++ after ∧
        (channel ≠ [] ∧ ∀ c ∈ channel, isDecimalDigit c = true) ∧
        (number ≠ [] ∧ ∀ c ∈ number, isDecimalDigit c = true) ∧
        (method ≠ [] ∧ ∀ c ∈ method, isHexDigit c = true) ∧
        (∀ c ∈ blanks, c = ' ' ∨ c = '\t') ∧ SpellsWord w digits ∧ parts = [digits] := by
  obtain ⟨channel, first, rfl, hchannel, hfirst⟩ := exists_of_fits_method h
  obtain ⟨second, rfl, hsecond⟩ := exists_of_fits_text hfirst
  obtain ⟨number, third, rfl, hnumber, hthird⟩ := exists_of_fits_run hsecond
  obtain ⟨fourth, rfl, hfourth⟩ := exists_of_fits_text hthird
  obtain ⟨method, fifth, rfl, hmethod, hfifth⟩ := exists_of_fits_run hfourth
  obtain ⟨sixth, rfl, hsixth⟩ := exists_of_fits_text hfifth
  obtain ⟨blanks, digits, w, rfl, hblanks, hw, rfl⟩ := exists_of_fits_argument hsixth
  refine ⟨channel, number, method, blanks, digits, w, ?_, hchannel, hnumber, hmethod, hblanks,
    hw, rfl⟩
  rw [methodLine_append]
  simp only [List.append_assoc]

end Finding

section Events

/-- A shader dump is read by the template of an instruction. -/
theorem read_shaderDump (s : List Char) :
    LogKind.shaderDump.reader.read s =
      (slotTemplate.read s).map fun item => (slotEvent? item.1, item.2) :=
  rfl

/-- A method trace is read by the template of a load, or else by that of a word. -/
theorem read_methodTrace (s : List Char) :
    LogKind.methodTrace.reader.read s =
      ((loadTemplate.read s).map fun item => (valueEvent? .load item.1, item.2)).or
        ((wordTemplate.read s).map fun item => (valueEvent? .word item.1, item.2)) :=
  rfl

/-- The words of an instruction are never at fault: it has an event if its index is read. -/
theorem slotEvent?_of_spells
    {code : Slot}
    {a b c d : List Char}
    (ha : SpellsWord code.first a)
    (hb : SpellsWord code.second b)
    (hc : SpellsWord code.third c)
    (hd : SpellsWord code.fourth d)
    (digits : List Char) :
    slotEvent? [digits, a, b, c, d] = (decimal? digits).map fun index => .slot index code := by
  simp only [slotEvent?, word?_of_spells ha, word?_of_spells hb, word?_of_spells hc,
    word?_of_spells hd]
  cases decimal? digits <;> rfl

/-- A call whose value is spelled has its event. -/
theorem valueEvent?_of_spells
    {w : Word}
    {digits : List Char}
    (hw : SpellsWord w digits)
    (event : Word → Event) :
    valueEvent? event [digits] = some (event w) := by
  rw [valueEvent?, word?_of_spells hw, Option.map_some]

/-- The name of the method that uploads a word is not the one that loads an address. -/
theorem read_load_of_word (rest : List Char) :
    Template.read (text "NV097_SET_TRANSFORM_PROGRAM_LOAD<0x1E9C>" :: argumentPieces)
      ("NV097_SET_TRANSFORM_PROGRAM[".toList ++ rest) = none :=
  rfl

/-- What occurs at the front of a text is read there. -/
theorem Occurs.read
    {kind : LogKind}
    {event : Event}
    {s rest : List Char}
    (h : Occurs kind event s rest) :
    kind.reader.read s = some (some event, rest) := by
  cases h with
  | slot hs hindex ha hb hc hd hend =>
      have hfits := fits_slot hs hindex.indexDigits ha hb hc hd hend
      rw [read_shaderDump, Template.read_eq_some_iff.2 hfits, Option.map_some,
        slotEvent?_of_spells ha hb hc hd, decimal?_of_spells hindex, Option.map_some]
  | load hchannel hblanks haddress =>
      have hcall := fits_text "NV097_SET_TRANSFORM_PROGRAM_LOAD<0x1E9C>"
        (fits_argument hblanks haddress rest)
      rw [methodLine_append, read_methodTrace, loadTemplate,
        (fits_method hchannel _).read_append, Template.read_eq_some_iff.2 hcall]
      simp only [Option.map_some, List.nil_append, valueEvent?_of_spells haddress,
        Option.some_or]
  | word hchannel hnumber hmethod hblanks hvalue =>
      have hcall := fits_text "NV097_SET_TRANSFORM_PROGRAM["
        (fits_run hnumber (by rfl) (fits_text "]<0x"
          (fits_run hmethod (by rfl) (fits_text ">" (fits_argument hblanks hvalue rest)))))
      rw [methodLine_append]
      simp only [List.append_assoc]
      rw [read_methodTrace, loadTemplate, wordTemplate, (fits_method hchannel _).read_append,
        (fits_method hchannel _).read_append, read_load_of_word,
        Template.read_eq_some_iff.2 hcall]
      simp only [Option.map_none, Option.none_or, Option.map_some, List.nil_append,
        valueEvent?_of_spells hvalue]

/-- What is rejected is taken off the text all the same. -/
theorem Rejected.read
    {kind : LogKind}
    {s rest : List Char}
    (h : Rejected kind s rest) :
    kind.reader.read s = some (none, rest) := by
  cases h with
  | slot hs hindex hforeign ha hb hc hd hend =>
      have hfits := fits_slot hs hindex ha hb hc hd hend
      rw [read_shaderDump, Template.read_eq_some_iff.2 hfits, Option.map_some,
        slotEvent?_of_spells ha hb hc hd, hindex.exists_foreign_iff.1 hforeign,
        Option.map_none]

/-- Whatever is read has an event that occurs there, or is rejected. -/
theorem occurs_or_rejected_of_read
    {kind : LogKind}
    {found : Option Event}
    {s rest : List Char}
    (h : kind.reader.read s = some (found, rest)) :
    (∃ event, found = some event ∧ Occurs kind event s rest) ∨
      (found = none ∧ Rejected kind s rest) := by
  cases kind with
  | shaderDump =>
      rw [read_shaderDump, Option.map_eq_some_iff] at h
      obtain ⟨⟨parts, after⟩, hread, hfound⟩ := h
      obtain ⟨rfl, rfl⟩ := Prod.mk.inj hfound
      obtain ⟨s₀, s₁, s₂, s₃, s₄, s₅, digits, a, b, c, d, code, htext, hs, hindex, ha, hb, hc,
        hd, hend, rfl⟩ := exists_of_fits_slot (Template.read_eq_some_iff.1 hread)
      rw [slotEvent?_of_spells ha hb hc hd, htext]
      cases hdecimal : decimal? digits with
      | none =>
          have hforeign := hindex.exists_foreign_iff.2 hdecimal
          exact .inr ⟨rfl, .slot hs hindex hforeign ha hb hc hd hend⟩
      | some index =>
          have hspells : SpellsIndex index digits :=
            ⟨hindex.nonempty, hindex.length_le, spelling_of_decimal? hdecimal⟩
          exact .inl ⟨_, rfl, .slot hs hspells ha hb hc hd hend⟩
  | methodTrace =>
      rw [read_methodTrace, Option.or_eq_some_iff] at h
      refine .inl ?_
      rcases h with h | ⟨-, h⟩
      · obtain ⟨⟨parts, after⟩, hread, hfound⟩ := Option.map_eq_some_iff.1 h
        obtain ⟨rfl, rfl⟩ := Prod.mk.inj hfound
        obtain ⟨channel, blanks, digits, w, htext, hchannel, hblanks, hw, rfl⟩ :=
          exists_of_fits_load (Template.read_eq_some_iff.1 hread)
        rw [htext, valueEvent?_of_spells hw]
        exact ⟨.load w, rfl, .load hchannel hblanks hw⟩
      · obtain ⟨⟨parts, after⟩, hread, hfound⟩ := Option.map_eq_some_iff.1 h
        obtain ⟨rfl, rfl⟩ := Prod.mk.inj hfound
        obtain ⟨channel, number, method, blanks, digits, w, htext, hchannel, hnumber, hmethod,
          hblanks, hw, rfl⟩ := exists_of_fits_word (Template.read_eq_some_iff.1 hread)
        rw [htext, valueEvent?_of_spells hw]
        exact ⟨.word w, rfl, .word hchannel hnumber hmethod hblanks hw⟩

/-- An event is read at the front of a text exactly if it occurs there. -/
theorem read_eq_some_iff
    {kind : LogKind}
    {event : Event}
    {s rest : List Char} :
    kind.reader.read s = some (some event, rest) ↔ Occurs kind event s rest := by
  refine ⟨fun h => ?_, Occurs.read⟩
  rcases occurs_or_rejected_of_read h with ⟨found, hfound, hoccurs⟩ | ⟨hnone, -⟩
  · rwa [Option.some.inj hfound]
  · cases hnone

/-- A match without an event is exactly one that is rejected. -/
theorem read_eq_none_iff
    {kind : LogKind}
    {s rest : List Char} :
    kind.reader.read s = some (none, rest) ↔ Rejected kind s rest := by
  refine ⟨fun h => ?_, Rejected.read⟩
  rcases occurs_or_rejected_of_read h with ⟨event, hevent, -⟩ | ⟨-, hrejected⟩
  · cases hevent
  · exact hrejected

/-- At most one event occurs at the front of a text. -/
theorem Occurs.unique
    {kind : LogKind}
    {event event' : Event}
    {s rest rest' : List Char}
    (h : Occurs kind event s rest)
    (h' : Occurs kind event' s rest') :
    event = event' ∧ rest = rest' := by
  have hread := h.read.symm.trans h'.read
  simpa using hread

end Events

section Places

theorem opensWith_slotTemplate : slotTemplate.OpensWith '/' :=
  ⟨by decide, by decide, by decide⟩

theorem opensWith_loadTemplate : loadTemplate.OpensWith 'n' :=
  ⟨by decide, by decide, by decide⟩

theorem opensWith_wordTemplate : wordTemplate.OpensWith 'n' :=
  ⟨by decide, by decide, by decide⟩

/-- The character with which the events of a log begin. -/
def LogKind.mark : LogKind → Char
  | .shaderDump => '/'
  | .methodTrace => 'n'

/-- What is read as an event has the mark of its log at its front and nowhere else. -/
theorem opensWith_reader (kind : LogKind) : kind.reader.OpensWith kind.mark := by
  cases kind with
  | shaderDump =>
      exact (Reader.opensWith_ofTemplate opensWith_slotTemplate).map _
  | methodTrace =>
      exact ((Reader.opensWith_ofTemplate opensWith_loadTemplate).map _).orElse
        ((Reader.opensWith_ofTemplate opensWith_wordTemplate).map _)

/-- The event at the front of a text. -/
def LogKind.eventAt?
    (kind : LogKind)
    (s : List Char) :
    Option Event :=
  (kind.reader.itemAt? s).bind id

theorem eventAt?_eq_some_iff
    {kind : LogKind}
    {event : Event}
    {s : List Char} :
    kind.eventAt? s = some event ↔ ∃ rest, Occurs kind event s rest := by
  simp only [LogKind.eventAt?, Reader.itemAt?, Option.bind_eq_some_iff, Option.map_eq_some_iff,
    Prod.exists, id_eq, ← read_eq_some_iff]
  constructor
  · rintro ⟨found, ⟨item, rest, hread, rfl⟩, rfl⟩
    exact ⟨rest, hread⟩
  · rintro ⟨rest, hread⟩
    exact ⟨some event, ⟨some event, rest, hread, rfl⟩, rfl⟩

/-- The events of a log are those at its places, in order. -/
theorem events_eq_filterMap_tails
    (kind : LogKind)
    (log : List Char) :
    kind.events log = log.tails.filterMap kind.eventAt? := by
  rw [LogKind.events, Reader.scan_eq_filterMap_tails (opensWith_reader kind),
    List.filterMap_filterMap]
  rfl

/-- The events of a log are exactly those that occur in it, one for each place and in the
order of the places.  At no place do two events occur, and what has the shape of an event
without being one is an instruction whose index has a digit outside of ASCII. -/
theorem events_at_occurrences
    (kind : LogKind)
    (log : List Char) :
    ∃ places : List Nat,
      places.Pairwise (· < ·) ∧
      (∀ i, i ∈ places ↔ ∃ event rest, Occurs kind event (log.drop i) rest) ∧
      List.Forall₂ (fun i event => ∃ rest, Occurs kind event (log.drop i) rest)
        places (kind.events log) ∧
      (∀ i event event' rest rest',
        Occurs kind event (log.drop i) rest → Occurs kind event' (log.drop i) rest' →
          event = event' ∧ rest = rest') ∧
      ∀ i rest, kind.reader.read (log.drop i) = some (none, rest) →
        Rejected kind (log.drop i) rest := by
  have hnil : kind.eventAt? [] = none := by
    cases hevent : kind.eventAt? [] with
    | none =>
        rfl
    | some event =>
        obtain ⟨rest, hoccurs⟩ := eventAt?_eq_some_iff.1 hevent
        exact absurd (kind.reader.shortens hoccurs.read) (Nat.not_lt_zero _)
  obtain ⟨places, hincreasing, hmem, hfound⟩ := exists_positions kind.eventAt? hnil log
  refine ⟨places, hincreasing, ?_, ?_, ?_, ?_⟩
  · intro i
    simp only [hmem, eventAt?_eq_some_iff]
  · rw [events_eq_filterMap_tails]
    exact hfound.imp fun i event hevent => eventAt?_eq_some_iff.1 hevent
  · intro i event event' rest rest' h h'
    exact h.unique h'
  · intro i rest h
    exact read_eq_none_iff.1 h

/-- An instruction is found behind one that is cut off and one whose index is not in ASCII. -/
example :
    LogKind.shaderDump.events
      "/* Slot 0: 0x1 /* Slot \u0661: 0x1 0x1 0x1 0x1/* Slot 0: 0x1 0x1 0x1 0xfF".toList =
      [.slot 0 ⟨1, 1, 1, 255⟩] := by
  cbv

end Places

end Log
end CaptureKit
