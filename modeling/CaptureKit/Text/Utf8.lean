/-!
# Text as bytes

UTF-8 with the strict rules: no overlong forms, no surrogates, nothing above the last
code point.  Where bytes are no text, the reader says where the first fault starts and
how many bytes it spoils, or that the bytes end inside a character.
-/

namespace CaptureKit
namespace Text

/-- Raw bytes. -/
abbrev Bytes := List UInt8

/-- The bytes of a text. -/
def encode (s : String) : Bytes :=
  s.toList.flatMap String.utf8EncodeChar

/-- Where and how bytes stop being text. -/
inductive Utf8Fault
  /-- The bytes from `start` on, `length` of them, belong to no character. -/
  | invalid (start length : Nat)
  /-- The bytes end inside the character that begins at `start`. -/
  | incomplete (start : Nat)
  deriving DecidableEq, Repr

/-- What stands at the front of bytes that are not empty. -/
inductive Lead
  /-- A whole character. -/
  | char (c : Char) (rest : Bytes)
  /-- Bytes that no character can start with. -/
  | broken (length : Nat) (rest : Bytes)
  /-- A proper beginning of a character, and then the end. -/
  | cut

/-- For a first byte above ASCII: how many bytes follow and between which bounds the next
one lies. -/
def tailShape (b : UInt8) : Option (Nat × UInt8 × UInt8) :=
  if 0xC2 ≤ b ∧ b ≤ 0xDF then some (1, 0x80, 0xBF)
  else if b = 0xE0 then some (2, 0xA0, 0xBF)
  else if b = 0xED then some (2, 0x80, 0x9F)
  else if 0xE1 ≤ b ∧ b ≤ 0xEF then some (2, 0x80, 0xBF)
  else if b = 0xF0 then some (3, 0x90, 0xBF)
  else if 0xF1 ≤ b ∧ b ≤ 0xF3 then some (3, 0x80, 0xBF)
  else if b = 0xF4 then some (3, 0x80, 0x8F)
  else none

/-- Takes the bytes that complete a character whose value so far is `value` and of which
`taken` bytes are read. -/
def complete
    (value taken : Nat) :
    (missing : Nat) → (low high : UInt8) → Bytes → Lead
  | 0, _, _, rest => .char (Char.ofNat value) rest
  | _ + 1, _, _, [] => .cut
  | missing + 1, low, high, b :: rest =>
      if low ≤ b ∧ b ≤ high then
        complete (64 * value + b.toNat % 64) (taken + 1) missing 0x80 0xBF rest
      else .broken taken (b :: rest)

/-- The front of the bytes `b :: rest`. -/
def lead
    (b : UInt8)
    (rest : Bytes) :
    Lead :=
  if b < 0x80 then .char (Char.ofNat b.toNat) rest
  else
    match tailShape b with
    | none => .broken 1 rest
    | some (missing, low, high) =>
        complete (b.toNat % (64 >>> missing)) 1 missing low high rest

/-- What is left behind the front, nothing after a cut. -/
def Lead.rest : Lead → Bytes
  | .char _ rest => rest
  | .broken _ rest => rest
  | .cut => []

theorem complete_rest_le
    (value taken missing : Nat)
    (low high : UInt8)
    (bytes : Bytes) :
    (complete value taken missing low high bytes).rest.length ≤ bytes.length := by
  induction missing generalizing value taken low high bytes with
  | zero => simp [complete, Lead.rest]
  | succ missing ih =>
      cases bytes with
      | nil => simp [complete, Lead.rest]
      | cons b rest =>
          simp only [complete]
          split
          · exact Nat.le_succ_of_le (ih ..)
          · simp [Lead.rest]

/-- Each step uses up at least the first byte. -/
theorem lead_rest_le
    (b : UInt8)
    (rest : Bytes) :
    (lead b rest).rest.length ≤ rest.length := by
  unfold lead
  split
  · simp [Lead.rest]
  · split
    · simp [Lead.rest]
    · exact complete_rest_le ..

/-- Reads characters until the bytes end or stop being text; `read` holds the characters
so far, last first. -/
def decodeFrom
    (start : Nat)
    (read : List Char) :
    Bytes → Except Utf8Fault (List Char)
  | [] => .ok read.reverse
  | b :: rest =>
      match _h : lead b rest with
      | .char c after => decodeFrom (start + c.utf8Size) (c :: read) after
      | .broken length _ => .error (.invalid start length)
      | .cut => .error (.incomplete start)
termination_by bytes => bytes.length
decreasing_by
  have := lead_rest_le b rest
  simp [_h, Lead.rest] at this
  simpa [Nat.lt_succ_iff] using this

/-- The text that bytes spell, or where they stop being text. -/
def decode (bytes : Bytes) : Except Utf8Fault String :=
  (decodeFrom 0 [] bytes).map String.ofList

/-- Reads characters to the end, with one replacement character for each faulty stretch. -/
def mendFrom
    (read : List Char) :
    Bytes → List Char
  | [] => read.reverse
  | b :: rest =>
      match _h : lead b rest with
      | .char c after => mendFrom (c :: read) after
      | .broken _ after => mendFrom ('\uFFFD' :: read) after
      | .cut => ('\uFFFD' :: read).reverse
termination_by bytes => bytes.length
decreasing_by
  all_goals
    have := lead_rest_le b rest
    simp [_h, Lead.rest] at this
    simpa [Nat.lt_succ_iff] using this

/-- The text that bytes spell, with replacement characters where they spell none. -/
def mend (bytes : Bytes) : String :=
  String.ofList (mendFrom [] bytes)

/-- The wording of a fault. -/
def Utf8Fault.message : Utf8Fault → String
  | .invalid start length =>
      s!"invalid utf-8 sequence of {length} bytes from index {start}"
  | .incomplete start => s!"incomplete utf-8 byte sequence from index {start}"

/-- The bytes of two texts joined are the bytes of each. -/
theorem encode_append
    (s t : String) :
    encode (s ++ t) = encode s ++ encode t := by
  simp [encode]

end Text
end CaptureKit
