import CaptureKit.Text.Utf8
import Mathlib.Data.String.Basic

/-!
# What the bytes of a text keep

A character has one to four bytes.  The first one says how many there are and holds the upper
bits of the code point, and the others hold six bits each.  So the text can be read off its
bytes, and texts come in the order of their bytes.

Main statements: decoding undoes encoding (`decode_encode`), and of two texts the smaller one
has the smaller bytes (`encode_lt_encode`).
-/

namespace CaptureKit
namespace Text

section Reading

/-- The bytes that follow a first byte, judged by its number. -/
theorem tailShape_ofNat
    {n : Nat}
    (h : n < 256) :
    tailShape (UInt8.ofNat n) =
      if 194 ≤ n ∧ n ≤ 223 then some (1, 0x80, 0xBF)
      else if n = 224 then some (2, 0xA0, 0xBF)
      else if n = 237 then some (2, 0x80, 0x9F)
      else if 225 ≤ n ∧ n ≤ 239 then some (2, 0x80, 0xBF)
      else if n = 240 then some (3, 0x90, 0xBF)
      else if 241 ≤ n ∧ n ≤ 243 then some (3, 0x80, 0xBF)
      else if n = 244 then some (3, 0x80, 0x8F)
      else none := by
  simp only [tailShape, UInt8.le_iff_toNat_le, ← UInt8.toNat_inj,
    UInt8.toNat_ofNat_of_lt' h]
  rfl

/-- A following byte adds its six lower bits. -/
theorem complete_sextet
    {n : Nat}
    (hn : n < 64)
    {low high : UInt8}
    (hlow : low.toNat ≤ n + 128)
    (hhigh : n + 128 ≤ high.toNat)
    (value taken missing : Nat)
    (rest : Bytes) :
    complete value taken (missing + 1) low high (UInt8.ofNat (n + 128) :: rest) =
      complete (64 * value + n) (taken + 1) missing 0x80 0xBF rest := by
  have hless : n + 128 < 256 := by omega
  have hbyte : (UInt8.ofNat (n + 128)).toNat = n + 128 := UInt8.toNat_ofNat_of_lt' hless
  have hbits : (n + 128) % 64 = n := by omega
  have hwithin : low ≤ UInt8.ofNat (n + 128) ∧ UInt8.ofNat (n + 128) ≤ high := by
    rw [UInt8.le_iff_toNat_le, UInt8.le_iff_toNat_le, hbyte]
    exact ⟨hlow, hhigh⟩
  rw [complete, if_pos hwithin, hbyte, hbits]

theorem complete_last
    {value v : Nat}
    (h : value = v)
    (taken : Nat)
    (low high : UInt8)
    (rest : Bytes) :
    complete value taken 0 low high rest = .char (Char.ofNat v) rest := by
  rw [h, complete]

theorem lead_of_tailShape
    {n : Nat}
    (hlow : 128 ≤ n)
    (hhigh : n < 256)
    {missing bound : Nat}
    (hbound : 64 >>> missing = bound)
    {low high : UInt8}
    (hshape : tailShape (UInt8.ofNat n) = some (missing, low, high))
    (rest : Bytes) :
    lead (UInt8.ofNat n) rest = complete (n % bound) 1 missing low high rest := by
  have hnot : ¬ UInt8.ofNat n < 0x80 := by
    rw [UInt8.lt_iff_toNat_lt, UInt8.toNat_ofNat_of_lt' hhigh]
    exact Nat.not_lt.2 hlow
  rw [lead, if_neg hnot, hshape, UInt8.toNat_ofNat_of_lt' hhigh, ← hbound]

theorem lead_one
    {v : Nat}
    (h : v ≤ 127)
    (rest : Bytes) :
    lead (UInt8.ofNat v) rest = .char (Char.ofNat v) rest := by
  have hsmall : v < 256 := by omega
  have hbyte : (UInt8.ofNat v).toNat = v := UInt8.toNat_ofNat_of_lt' hsmall
  have hless : UInt8.ofNat v < 0x80 := by
    rw [UInt8.lt_iff_toNat_lt, hbyte]
    exact Nat.lt_succ_of_le h
  rw [lead, if_pos hless, hbyte]

theorem lead_two
    {v : Nat}
    (hlow : 127 < v)
    (hhigh : v ≤ 2047)
    (rest : Bytes) :
    lead (UInt8.ofNat (v / 64 % 32 + 192)) (UInt8.ofNat (v % 64 + 128) :: rest) =
      .char (Char.ofNat v) rest := by
  have hshape : tailShape (UInt8.ofNat (v / 64 % 32 + 192)) = some (1, 0x80, 0xBF) := by
    rw [tailShape_ofNat (by omega), if_pos (by omega)]
  rw [lead_of_tailShape (by omega) (by omega) (by rfl : 64 >>> 1 = 32) hshape,
    complete_sextet (Nat.mod_lt _ (by decide)) (by simp) (by simp; omega)]
  exact complete_last (by omega) _ _ _ rest

theorem lead_three
    {v : Nat}
    (hlow : 2047 < v)
    (hhigh : v ≤ 65535)
    (hvalid : v < 55296 ∨ 57343 < v)
    (rest : Bytes) :
    lead (UInt8.ofNat (v / 4096 % 16 + 224))
        (UInt8.ofNat (v / 64 % 64 + 128) :: UInt8.ofNat (v % 64 + 128) :: rest) =
      .char (Char.ofNat v) rest := by
  -- The bounds on the second byte keep out the short characters and the surrogates.
  have hshape : ∃ low high : UInt8,
      tailShape (UInt8.ofNat (v / 4096 % 16 + 224)) = some (2, low, high) ∧
        low.toNat ≤ v / 64 % 64 + 128 ∧ v / 64 % 64 + 128 ≤ high.toNat := by
    rw [tailShape_ofNat (by omega), if_neg (by omega)]
    by_cases hfirst : v / 4096 % 16 + 224 = 224
    · exact ⟨0xA0, 0xBF, if_pos hfirst, by simp; omega, by simp; omega⟩
    · rw [if_neg hfirst]
      by_cases hsurrogate : v / 4096 % 16 + 224 = 237
      · exact ⟨0x80, 0x9F, if_pos hsurrogate, by simp, by simp; omega⟩
      · exact ⟨0x80, 0xBF, by rw [if_neg hsurrogate, if_pos (by omega)], by simp, by simp; omega⟩
  obtain ⟨low, high, hshape, hsecond, hsecond'⟩ := hshape
  rw [lead_of_tailShape (by omega) (by omega) (by rfl : 64 >>> 2 = 16) hshape,
    complete_sextet (Nat.mod_lt _ (by decide)) hsecond hsecond',
    complete_sextet (Nat.mod_lt _ (by decide)) (by simp) (by simp; omega)]
  exact complete_last (by omega) _ _ _ rest

theorem lead_four
    {v : Nat}
    (hlow : 65535 < v)
    (hhigh : v < 1114112)
    (rest : Bytes) :
    lead (UInt8.ofNat (v / 262144 % 8 + 240))
        (UInt8.ofNat (v / 4096 % 64 + 128) :: UInt8.ofNat (v / 64 % 64 + 128) ::
          UInt8.ofNat (v % 64 + 128) :: rest) =
      .char (Char.ofNat v) rest := by
  have hshape : ∃ low high : UInt8,
      tailShape (UInt8.ofNat (v / 262144 % 8 + 240)) = some (3, low, high) ∧
        low.toNat ≤ v / 4096 % 64 + 128 ∧ v / 4096 % 64 + 128 ≤ high.toNat := by
    rw [tailShape_ofNat (by omega), if_neg (by omega), if_neg (by omega), if_neg (by omega),
      if_neg (by omega)]
    by_cases hfirst : v / 262144 % 8 + 240 = 240
    · exact ⟨0x90, 0xBF, if_pos hfirst, by simp; omega, by simp; omega⟩
    · rw [if_neg hfirst]
      by_cases hmiddle : v / 262144 % 8 + 240 ≤ 243
      · exact ⟨0x80, 0xBF, if_pos (by omega), by simp, by simp; omega⟩
      · exact ⟨0x80, 0x8F, by rw [if_neg (by omega), if_pos (by omega)], by simp,
          by simp; omega⟩
  obtain ⟨low, high, hshape, hsecond, hsecond'⟩ := hshape
  rw [lead_of_tailShape (by omega) (by omega) (by rfl : 64 >>> 3 = 8) hshape,
    complete_sextet (Nat.mod_lt _ (by decide)) hsecond hsecond',
    complete_sextet (Nat.mod_lt _ (by decide)) (by simp) (by simp; omega),
    complete_sextet (Nat.mod_lt _ (by decide)) (by simp) (by simp; omega)]
  exact complete_last (by omega) _ _ _ rest

/-- A character is read where its bytes stand. -/
theorem lead_utf8EncodeChar
    (c : Char)
    (rest : Bytes) :
    ∃ b bytes, String.utf8EncodeChar c ++ rest = b :: bytes ∧ lead b bytes = .char c rest := by
  have hvalid : c.val.toNat < 55296 ∨ 57343 < c.val.toNat ∧ c.val.toNat < 1114112 := c.valid
  have hchar : Char.ofNat c.val.toNat = c := Char.ofNat_toNat c
  rw [String.utf8EncodeChar]
  by_cases hone : c.val.toNat ≤ 127
  · rw [if_pos hone]
    exact ⟨_, _, rfl, (lead_one hone rest).trans (by rw [hchar])⟩
  rw [if_neg hone]
  by_cases htwo : c.val.toNat ≤ 2047
  · rw [if_pos htwo]
    exact ⟨_, _, rfl, (lead_two (by omega) htwo rest).trans (by rw [hchar])⟩
  rw [if_neg htwo]
  by_cases hthree : c.val.toNat ≤ 65535
  · rw [if_pos hthree]
    exact ⟨_, _, rfl, (lead_three (by omega) hthree (by omega) rest).trans (by rw [hchar])⟩
  · rw [if_neg hthree]
    exact ⟨_, _, rfl, (lead_four (by omega) (by omega) rest).trans (by rw [hchar])⟩

theorem decodeFrom_flatMap_utf8EncodeChar
    (start : Nat)
    (read l : List Char) :
    decodeFrom start read (l.flatMap String.utf8EncodeChar) = .ok (read.reverse ++ l) := by
  induction l generalizing start read with
  | nil =>
      rw [List.flatMap_nil, decodeFrom, List.append_nil]
  | cons c l ih =>
      obtain ⟨b, bytes, hbytes, hlead⟩ :=
        lead_utf8EncodeChar c (l.flatMap String.utf8EncodeChar)
      rw [List.flatMap_cons, hbytes, decodeFrom]
      split
      · next hcase =>
          cases hcase.symm.trans hlead
          rw [ih, List.reverse_cons, List.append_assoc, List.singleton_append]
      · next hcase =>
          cases hcase.symm.trans hlead
      · next hcase =>
          cases hcase.symm.trans hlead

/-- A text is read off its bytes. -/
theorem decode_encode (s : String) :
    decode (encode s) = .ok s := by
  rw [decode, encode, decodeFrom_flatMap_utf8EncodeChar]
  simp [Except.map]

end Reading

section Order

theorem sextets_lt
    {v w : Nat}
    (h : v < w) :
    v / 262144 < w / 262144 ∨ v / 262144 = w / 262144 ∧
      (v / 4096 % 64 < w / 4096 % 64 ∨ v / 4096 % 64 = w / 4096 % 64 ∧
        (v / 64 % 64 < w / 64 % 64 ∨ v / 64 % 64 = w / 64 % 64 ∧ v % 64 < w % 64)) := by
  omega

/-- The first byte in which two characters differ decides, whatever follows them. -/
theorem utf8EncodeChar_append_lt
    {c d : Char}
    (h : c < d)
    (s t : Bytes) :
    String.utf8EncodeChar c ++ s < String.utf8EncodeChar d ++ t := by
  have hless : c.val.toNat < d.val.toNat := UInt32.lt_iff_toNat_lt.1 h
  have hbound : d.val.toNat < 1114112 := by
    rcases d.valid with hlow | hhigh
    · exact Nat.lt_trans hlow (by decide)
    · exact hhigh.2
  rw [String.utf8EncodeChar, String.utf8EncodeChar]
  generalize c.val.toNat = v at hless
  generalize d.val.toNat = w at hless hbound
  simp only [apply_ite (· ++ s), apply_ite (· ++ t), List.cons_append, List.nil_append]
  by_cases hlong : 65535 < v
  · rw [if_neg (by omega), if_neg (by omega), if_neg (by omega), if_neg (by omega),
      if_neg (by omega), if_neg (by omega)]
    simp only [List.cons_lt_cons_iff, UInt8.lt_iff_toNat_lt, ← UInt8.toNat_inj,
      UInt8.toNat_ofNat']
    obtain h1 | ⟨h1, h2 | ⟨h2, h3 | ⟨h3, h4⟩⟩⟩ := sextets_lt hless
    · exact .inl (by omega)
    · exact .inr ⟨by omega, .inl (by omega)⟩
    · exact .inr ⟨by omega, .inr ⟨by omega, .inl (by omega)⟩⟩
    · exact .inr ⟨by omega, .inr ⟨by omega, .inr ⟨by omega, .inl (by omega)⟩⟩⟩
  · split_ifs <;>
      simp only [List.cons_lt_cons_iff, UInt8.lt_iff_toNat_lt, ← UInt8.toNat_inj,
        UInt8.toNat_ofNat'] <;>
      omega

theorem flatMap_utf8EncodeChar_lt
    {s t : List Char}
    (h : s < t) :
    s.flatMap String.utf8EncodeChar < t.flatMap String.utf8EncodeChar := by
  induction h with
  | nil =>
      rename_i c t
      rw [List.flatMap_nil, List.flatMap_cons]
      have hne : String.utf8EncodeChar c ≠ [] := String.utf8EncodeChar_ne_nil
      obtain ⟨b, bytes, hbytes⟩ := List.exists_cons_of_ne_nil hne
      rw [hbytes]
      exact List.nil_lt_cons _ _
  | cons _ ih =>
      rw [List.flatMap_cons, List.flatMap_cons]
      exact List.append_left_lt ih
  | rel hless =>
      rw [List.flatMap_cons, List.flatMap_cons]
      exact utf8EncodeChar_append_lt hless _ _

/-- Texts come in the order of their bytes. -/
theorem encode_lt_encode
    {a b : String}
    (h : a < b) :
    encode a < encode b :=
  flatMap_utf8EncodeChar_lt (String.lt_iff_toList_lt.1 h)

end Order

end Text
end CaptureKit
