import CaptureKit.Text.Digit
import CaptureKit.Text.Numeral
import CaptureKit.Text.WordChar
import Mathlib.Data.List.Forall2
import Mathlib.Data.Nat.Digits.Defs

/-!
# Numbers as they are spelled

A number is spelled by numerals, most significant first.  Decimal numerals are the ASCII
digits, hexadecimal ones have each letter in lower or upper case, and any zeros may lead.
Spellings are described by the digits that the numerals stand for, not by the readers of
this library.  The main statements say that a spelling is read as its number
(`decimal?_of_spelling`, `hexValue_of_spelling`), and that digits of the right class always
spell one (`decimalSpelling_decimalValue`, `hexSpelling_hexValue`).
-/

namespace CaptureKit
namespace Text

section Numerals

variable {Numeral : Nat → Char → Prop}

/-- Reading numerals from left to right is Horner's rule on their digits. -/
theorem foldl_numerals
    {value : Char → Nat}
    (hvalue : ∀ d c, Numeral d c → value c = d)
    {ds : List Nat}
    {digits : List Char}
    (h : List.Forall₂ Numeral ds digits)
    (base n : Nat) :
    digits.foldl (fun n c => base * n + value c) n =
      ds.foldl (fun n d => base * n + d) n := by
  induction h generalizing n with
  | nil =>
      rfl
  | cons hd _ ih =>
      simp only [List.foldl_cons, hvalue _ _ hd, ih]

/-- Horner's rule gives the number with these digits. -/
theorem foldl_eq_ofDigits
    (base : Nat)
    (ds : List Nat) :
    ds.foldl (fun n d => base * n + d) 0 = Nat.ofDigits base ds.reverse := by
  rw [Nat.ofDigits_eq_foldr, List.foldr_reverse]
  simp only [Nat.cast_id, Nat.add_comm]

/-- Characters that are numerals stand for digits. -/
theorem exists_digits
    {digits : List Char}
    (h : ∀ c ∈ digits, ∃ d, Numeral d c) :
    ∃ ds : List Nat, List.Forall₂ Numeral ds digits := by
  induction digits with
  | nil =>
      exact ⟨[], .nil⟩
  | cons c digits ih =>
      obtain ⟨d, hd⟩ := h c List.mem_cons_self
      obtain ⟨ds, hds⟩ := ih fun e he => h e (List.mem_cons_of_mem _ he)
      exact ⟨d :: ds, .cons hd hds⟩

/-- What holds of every numeral holds of the digits and of the characters of a spelling. -/
theorem forall_of_numerals
    {P : Nat → Prop}
    {Q : Char → Prop}
    (hnumeral : ∀ d c, Numeral d c → P d ∧ Q c)
    {ds : List Nat}
    {digits : List Char}
    (h : List.Forall₂ Numeral ds digits) :
    (∀ d ∈ ds, P d) ∧ ∀ c ∈ digits, Q c := by
  induction h with
  | nil =>
      exact ⟨by simp, by simp⟩
  | cons hd _ ih =>
      obtain ⟨hP, hQ⟩ := hnumeral _ _ hd
      exact ⟨List.forall_mem_cons.2 ⟨hP, ih.1⟩, List.forall_mem_cons.2 ⟨hQ, ih.2⟩⟩

/-- As many digits as there are numerals bound the number. -/
theorem ofDigits_lt_of_numerals
    {base : Nat}
    (hbase : 1 < base)
    {ds : List Nat}
    {digits : List Char}
    (h : List.Forall₂ Numeral ds digits)
    (hlt : ∀ d ∈ ds, d < base) :
    Nat.ofDigits base ds.reverse < base ^ digits.length := by
  have hdigits : ∀ d ∈ ds.reverse, d < base := fun d hd => hlt d (List.mem_reverse.1 hd)
  have hbound := Nat.ofDigits_lt_base_pow_length hbase hdigits
  rwa [List.length_reverse, h.length_eq] at hbound

end Numerals

section Hexadecimal

/-- The numeral of a digit below sixteen, in lower or upper case. -/
def HexNumeral (d : Nat) (c : Char) : Prop :=
  "0123456789abcdef".toList[d]? = some c ∨ "0123456789ABCDEF".toList[d]? = some c

instance (d : Nat) (c : Char) : Decidable (HexNumeral d c) :=
  inferInstanceAs (Decidable (_ ∨ _))

/-- Hexadecimal digits of either case that denote a number, most significant first.  Zeros
may lead. -/
def HexSpelling (n : Nat) (digits : List Char) : Prop :=
  ∃ ds : List Nat, List.Forall₂ HexNumeral ds digits ∧ Nat.ofDigits 16 ds.reverse = n

/-- The digit of a numeral is below sixteen. -/
theorem HexNumeral.lt
    {d : Nat}
    {c : Char}
    (h : HexNumeral d c) :
    d < 16 := by
  rcases h with h | h
  · exact (List.getElem?_eq_some_iff.1 h).1
  · exact (List.getElem?_eq_some_iff.1 h).1

/-- A numeral of either case is read as its digit. -/
theorem hexDigit?_of_numeral
    {d : Nat}
    {c : Char}
    (h : HexNumeral d c) :
    hexDigit? c = some d := by
  have lower :
      ∀ k : Fin 16, ("0123456789abcdef".toList[k.val]?).bind hexDigit? = some k.val := by
    decide
  have upper :
      ∀ k : Fin 16, ("0123456789ABCDEF".toList[k.val]?).bind hexDigit? = some k.val := by
    decide
  have hd := h.lt
  rcases h with h | h
  · have hread := lower ⟨d, hd⟩
    rwa [h] at hread
  · have hread := upper ⟨d, hd⟩
    rwa [h] at hread

/-- All hexadecimal digits are in ASCII. -/
theorem toNat_lt_of_isHexDigit
    {c : Char}
    (h : isHexDigit c = true) :
    c.toNat < 128 := by
  have bound {d : Char} (hd : d.toNat < 128) (hc : c ≤ d) : c.toNat < 128 :=
    Nat.lt_of_le_of_lt (UInt32.le_iff_toNat_le.1 hc) hd
  unfold isHexDigit hexDigit? at h
  split at h
  · next hc => exact bound (by decide) hc.2
  · split at h
    · next hc => exact bound (by decide) hc.2
    · split at h
      · next hc => exact bound (by decide) hc.2
      · cases h

/-- A hexadecimal digit can stand inside a word. -/
theorem isWordChar_of_isHexDigit
    {c : Char}
    (h : isHexDigit c = true) :
    isWordChar c = true := by
  have ascii :
      ∀ k : Fin 128, isHexDigit (Char.ofNat k) = true → isWordChar (Char.ofNat k) = true := by
    decide
  have hc := ascii ⟨c.toNat, toNat_lt_of_isHexDigit h⟩
  rw [Char.ofNat_toNat] at hc
  exact hc h

/-- A hexadecimal digit is the numeral of what it is read as. -/
theorem hexNumeral_hexDigit?
    {c : Char}
    (h : isHexDigit c = true) :
    HexNumeral ((hexDigit? c).getD 0) c := by
  have ascii :
      ∀ k : Fin 128, isHexDigit (Char.ofNat k) = true →
        HexNumeral ((hexDigit? (Char.ofNat k)).getD 0) (Char.ofNat k) := by
    decide
  have hc := ascii ⟨c.toNat, toNat_lt_of_isHexDigit h⟩
  rw [Char.ofNat_toNat] at hc
  exact hc h

/-- Every digit of a spelling is a hexadecimal digit. -/
theorem HexSpelling.isHexDigit
    {n : Nat}
    {digits : List Char}
    (h : HexSpelling n digits) :
    ∀ c ∈ digits, isHexDigit c = true := by
  obtain ⟨ds, hds, -⟩ := h
  have hnumeral : ∀ d c, HexNumeral d c → True ∧ Text.isHexDigit c = true :=
    fun d c hd => ⟨trivial, by rw [Text.isHexDigit, hexDigit?_of_numeral hd]; rfl⟩
  exact (forall_of_numerals hnumeral hds).2

/-- A spelling of either case, with or without leading zeros, is read as its number. -/
theorem hexValue_of_spelling
    {n : Nat}
    {digits : List Char}
    (h : HexSpelling n digits) :
    hexValue digits = n := by
  obtain ⟨ds, hds, rfl⟩ := h
  have hvalue : ∀ d c, HexNumeral d c → (hexDigit? c).getD 0 = d :=
    fun d c hd => by rw [hexDigit?_of_numeral hd, Option.getD_some]
  rw [hexValue, foldl_numerals hvalue hds, foldl_eq_ofDigits]

/-- Hexadecimal digits spell the number that they are read as. -/
theorem hexSpelling_hexValue
    {digits : List Char}
    (h : ∀ c ∈ digits, isHexDigit c = true) :
    HexSpelling (hexValue digits) digits := by
  obtain ⟨ds, hds⟩ := exists_digits fun c hc => ⟨_, hexNumeral_hexDigit? (h c hc)⟩
  have hspelling : HexSpelling (Nat.ofDigits 16 ds.reverse) digits := ⟨ds, hds, rfl⟩
  rwa [hexValue_of_spelling hspelling]

/-- As many hexadecimal digits spell no larger number. -/
theorem HexSpelling.lt
    {n : Nat}
    {digits : List Char}
    (h : HexSpelling n digits) :
    n < 16 ^ digits.length := by
  obtain ⟨ds, hds, rfl⟩ := h
  have hnumeral : ∀ d c, HexNumeral d c → d < 16 ∧ True := fun d c hd => ⟨hd.lt, trivial⟩
  exact ofDigits_lt_of_numerals (by decide) hds (forall_of_numerals hnumeral hds).1

end Hexadecimal

section Decimal

/-- The ASCII numeral of a digit below ten. -/
def DecimalNumeral (d : Nat) (c : Char) : Prop :=
  "0123456789".toList[d]? = some c

instance (d : Nat) (c : Char) : Decidable (DecimalNumeral d c) :=
  inferInstanceAs (Decidable (_ = _))

/-- ASCII digits that denote a number, most significant first.  Zeros may lead. -/
def DecimalSpelling (n : Nat) (digits : List Char) : Prop :=
  ∃ ds : List Nat, List.Forall₂ DecimalNumeral ds digits ∧ Nat.ofDigits 10 ds.reverse = n

/-- A numeral is a digit, and counts from the one for zero. -/
theorem isDigit_of_numeral
    {d : Nat}
    {c : Char}
    (h : DecimalNumeral d c) :
    d < 10 ∧ c.isDigit = true ∧ c.toNat - '0'.toNat = d := by
  have hd : d < 10 := (List.getElem?_eq_some_iff.1 h).1
  have numerals :
      ∀ k : Fin 10, ("0123456789".toList[k.val]?).all
        (fun c => c.isDigit = true ∧ c.toNat - '0'.toNat = k.val) = true := by
    decide
  have hread := numerals ⟨d, hd⟩
  rw [h] at hread
  exact ⟨hd, of_decide_eq_true hread⟩

/-- A digit is the numeral of its place behind the one for zero. -/
theorem decimalNumeral_of_isDigit
    {c : Char}
    (h : c.isDigit = true) :
    DecimalNumeral (c.toNat - '0'.toNat) c := by
  have hc : c.toNat < 128 := by
    simp only [Char.isDigit, Bool.and_eq_true, decide_eq_true_eq] at h
    exact Nat.lt_of_le_of_lt (UInt32.le_iff_toNat_le.1 h.2) (by decide)
  have ascii :
      ∀ k : Fin 128, (Char.ofNat k).isDigit = true →
        DecimalNumeral ((Char.ofNat k).toNat - '0'.toNat) (Char.ofNat k) := by
    decide
  have hnumeral := ascii ⟨c.toNat, hc⟩
  rw [Char.ofNat_toNat] at hnumeral
  exact hnumeral h

/-- Every character of a spelling is an ASCII digit. -/
theorem DecimalSpelling.isDigit
    {n : Nat}
    {digits : List Char}
    (h : DecimalSpelling n digits) :
    ∀ c ∈ digits, c.isDigit = true := by
  obtain ⟨ds, hds, -⟩ := h
  have hnumeral : ∀ d c, DecimalNumeral d c → True ∧ c.isDigit = true :=
    fun d c hd => ⟨trivial, (isDigit_of_numeral hd).2.1⟩
  exact (forall_of_numerals hnumeral hds).2

/-- A spelling is read as its number. -/
theorem decimalValue_of_spelling
    {n : Nat}
    {digits : List Char}
    (h : DecimalSpelling n digits) :
    decimalValue digits = n := by
  obtain ⟨ds, hds, rfl⟩ := h
  have hvalue : ∀ d c, DecimalNumeral d c → c.toNat - '0'.toNat = d :=
    fun d c hd => (isDigit_of_numeral hd).2.2
  rw [decimalValue, Nat.ofDigitChars, foldl_numerals hvalue hds, foldl_eq_ofDigits]

/-- ASCII digits spell the number that they are read as. -/
theorem decimalSpelling_decimalValue
    {digits : List Char}
    (h : ∀ c ∈ digits, c.isDigit = true) :
    DecimalSpelling (decimalValue digits) digits := by
  obtain ⟨ds, hds⟩ := exists_digits fun c hc => ⟨_, decimalNumeral_of_isDigit (h c hc)⟩
  have hspelling : DecimalSpelling (Nat.ofDigits 10 ds.reverse) digits := ⟨ds, hds, rfl⟩
  rwa [decimalValue_of_spelling hspelling]

/-- As many decimal digits spell no larger number. -/
theorem DecimalSpelling.lt
    {n : Nat}
    {digits : List Char}
    (h : DecimalSpelling n digits) :
    n < 10 ^ digits.length := by
  obtain ⟨ds, hds, rfl⟩ := h
  have hnumeral : ∀ d c, DecimalNumeral d c → d < 10 ∧ True :=
    fun d c hd => ⟨(isDigit_of_numeral hd).1, trivial⟩
  exact ofDigits_lt_of_numerals (by decide) hds (forall_of_numerals hnumeral hds).1

/-- A number in range is read from any of its spellings. -/
theorem decimal?_of_spelling
    {n : Nat}
    {digits : List Char}
    (h : DecimalSpelling n digits)
    (hne : digits ≠ [])
    (hlimit : n < limit64) :
    decimal? digits = some n := by
  have hdigits : digits.all Char.isDigit = true := List.all_eq_true.2 h.isDigit
  simp only [decimal?, ne_eq, hne, not_false_eq_true, hdigits, and_self, ↓reduceIte,
    decimalValue_of_spelling h, hlimit]

/-- What is read as a number is a spelling of it. -/
theorem spelling_of_decimal?
    {n : Nat}
    {digits : List Char}
    (h : decimal? digits = some n) :
    DecimalSpelling n digits := by
  unfold decimal? at h
  split at h
  · next hdigits =>
      dsimp only at h
      split at h
      · rw [← Option.some.inj h]
        exact decimalSpelling_decimalValue (List.all_eq_true.1 hdigits.2)
      · cases h
  · cases h

end Decimal

end Text
end CaptureKit
