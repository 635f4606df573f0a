import CaptureKit.Text.Utf8

/-!
# Bytes spelled as characters

Programs pass bytes around, but their syntax is made of characters.  Octets are both: a
character below 256 for each byte.  Main statement: spelling loses nothing
(`bytesOf_octetsOf`).
-/

namespace CaptureKit
namespace Text

/-- Bytes, each spelled as the character of its number. -/
abbrev Octets := List Char

/-- The spelling of bytes. -/
def octetsOf (bytes : Bytes) : Octets :=
  bytes.map fun b => Char.ofNat b.toNat

/-- The bytes that a spelling stands for. -/
def bytesOf (octets : Octets) : Bytes :=
  octets.map fun c => UInt8.ofNat c.toNat

/-- The octets of a text. -/
def octets (s : String) : Octets :=
  octetsOf (encode s)

theorem toNat_ofNat_byte (b : UInt8) :
    (Char.ofNat b.toNat).toNat = b.toNat := by
  have hb := b.toNat_lt
  have hv : b.toNat.isValidChar := Or.inl (by omega)
  rw [Char.ofNat, dif_pos hv]
  rfl

/-- The bytes of a spelling are the bytes that were spelled. -/
theorem bytesOf_octetsOf (bytes : Bytes) :
    bytesOf (octetsOf bytes) = bytes := by
  induction bytes with
  | nil => rfl
  | cons b bytes ih =>
      simp only [bytesOf, octetsOf, List.map_cons, toNat_ofNat_byte] at ih ⊢
      rw [ih, UInt8.ofNat_toNat]

end Text
end CaptureKit
