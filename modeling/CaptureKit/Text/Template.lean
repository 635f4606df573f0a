/-!
# Templates of one-line shapes

A template is a list of pieces, read from left to right.  A run takes every character
of its class that it can, so a template never has to go back: what follows a run is
always a character outside of its class.  Pieces marked as kept give the parts that a
reader of the template asks for.

The main statements: what a template leaves is an end of the text that it was given
(`Template.read_suffix`), and scanning goes on behind each match, so that it always ends.
-/

namespace CaptureKit
namespace Text

/-- The shape of one piece of a template. -/
inductive Shape
  /-- These characters exactly. -/
  | literal (text : List Char)
  /-- One character of a class. -/
  | one (member : Char → Bool)
  /-- The longest run of a class, at least `least` and, if given, at most `most` long. -/
  | run (member : Char → Bool) (least : Nat) (most : Option Nat)
  /-- Nothing, where no character of the class follows. -/
  | stop (member : Char → Bool)

/-- A shape, and whether the text it takes is kept. -/
structure Piece where
  shape : Shape
  kept : Bool

/-- Pieces from left to right. -/
abbrev Template := List Piece

namespace Shape

/-- A piece that is kept. -/
def keep (shape : Shape) : Piece := ⟨shape, true⟩

/-- A piece that only has to be there. -/
def skip (shape : Shape) : Piece := ⟨shape, false⟩

/-- One or more characters of a class. -/
def atLeastOne (member : Char → Bool) : Shape := .run member 1 none

/-- Any number of characters of a class. -/
def anyNumber (member : Char → Bool) : Shape := .run member 0 none

end Shape

/-- What is left of a text after a literal at its front. -/
def afterLiteral : List Char → List Char → Option (List Char)
  | [], s => some s
  | _ :: _, [] => none
  | c :: literal, d :: s => if c = d then afterLiteral literal s else none

/-- A literal is found exactly where the text starts with it. -/
theorem afterLiteral_eq_some_iff
    {literal s rest : List Char} :
    afterLiteral literal s = some rest ↔ s = literal ++ rest := by
  induction literal generalizing s with
  | nil => simp [afterLiteral, eq_comm]
  | cons c literal ih =>
      cases s with
      | nil => simp [afterLiteral]
      | cons d s =>
          by_cases h : c = d
          · simp [afterLiteral, h, ih]
          · simp only [afterLiteral, h, ↓reduceIte, List.cons_append, List.cons.injEq,
              reduceCtorEq, false_iff, not_and]
            intro e
            exact absurd e.symm h

/-- The text that a shape takes from the front, and the rest. -/
def Shape.read : Shape → List Char → Option (List Char × List Char)
  | .literal text, s => (afterLiteral text s).map fun rest => (text, rest)
  | .one _, [] => none
  | .one member, c :: s => if member c then some ([c], s) else none
  | .run member least most, s =>
      let taken := s.takeWhile member
      if least ≤ taken.length ∧ most.all (taken.length ≤ ·) then
        some (taken, s.dropWhile member)
      else none
  | .stop _, [] => some ([], [])
  | .stop member, c :: s => if member c then none else some ([], c :: s)

/-- A shape splits the text in two. -/
theorem Shape.read_append
    {shape : Shape}
    {s taken rest : List Char}
    (h : shape.read s = some (taken, rest)) :
    s = taken ++ rest := by
  cases shape with
  | literal text =>
      simp only [Shape.read, Option.map_eq_some_iff, Prod.mk.injEq] at h
      obtain ⟨r, hr, rfl, rfl⟩ := h
      exact afterLiteral_eq_some_iff.1 hr
  | one member =>
      cases s with
      | nil => simp [Shape.read] at h
      | cons c s =>
          simp only [Shape.read, Option.ite_none_right_eq_some, Option.some.injEq,
            Prod.mk.injEq] at h
          obtain ⟨_, rfl, rfl⟩ := h
          rfl
  | run member least most =>
      simp only [Shape.read, Option.ite_none_right_eq_some, Option.some.injEq,
        Prod.mk.injEq] at h
      obtain ⟨_, rfl, rfl⟩ := h
      exact List.takeWhile_append_dropWhile.symm
  | stop member =>
      cases s with
      | nil => simp_all [Shape.read]
      | cons c s =>
          simp only [Shape.read, Option.ite_none_left_eq_some, Option.some.injEq,
            Prod.mk.injEq] at h
          obtain ⟨_, rfl, rfl⟩ := h
          rfl

/-- The kept parts of a template at the front of a text, and the rest. -/
def Template.read : Template → List Char → Option (List (List Char) × List Char)
  | [], s => some ([], s)
  | piece :: template, s =>
      match piece.shape.read s with
      | none => none
      | some (taken, rest) =>
          match Template.read template rest with
          | none => none
          | some (parts, after) => some (if piece.kept then taken :: parts else parts, after)

/-- What a template leaves is an end of the text. -/
theorem Template.read_suffix
    {template : Template}
    {s rest : List Char}
    {parts : List (List Char)}
    (h : template.read s = some (parts, rest)) :
    rest <:+ s := by
  induction template generalizing s parts with
  | nil =>
      simp only [Template.read, Option.some.injEq, Prod.mk.injEq] at h
      exact h.2 ▸ List.suffix_refl _
  | cons piece template ih =>
      simp only [Template.read] at h
      split at h
      · cases h
      · next taken middle hread =>
          split at h
          · cases h
          · next parts' after htail =>
              simp only [Option.some.injEq, Prod.mk.injEq] at h
              obtain ⟨_, rfl⟩ := h
              rw [Shape.read_append hread]
              exact (ih htail).trans (List.suffix_append _ _)

/-- A template that begins with a literal of at least one character. -/
def Template.Opens : Template → Prop
  | ⟨.literal (_ :: _), _⟩ :: _ => True
  | _ => False

/-- A template that opens with a literal uses up some of the text. -/
theorem Template.read_length_lt
    {template : Template}
    (opens : template.Opens)
    {s rest : List Char}
    {parts : List (List Char)}
    (h : template.read s = some (parts, rest)) :
    rest.length < s.length := by
  match template, opens with
  | ⟨.literal (c :: literal), kept⟩ :: template, _ =>
      simp only [Template.read] at h
      split at h
      · cases h
      · next taken middle hread =>
          split at h
          · cases h
          · next parts' after htail =>
              simp only [Option.some.injEq, Prod.mk.injEq] at h
              obtain ⟨_, rfl⟩ := h
              have hsplit := Shape.read_append hread
              simp only [Shape.read, Option.map_eq_some_iff, Prod.mk.injEq] at hread
              obtain ⟨_, _, rfl, _⟩ := hread
              have := (Template.read_suffix htail).length_le
              rw [hsplit]
              simp
              omega

/-- Reads an item at the front of a text and leaves a shorter text. -/
structure Reader (α : Type) where
  read : List Char → Option (α × List Char)
  shortens : ∀ {s a rest}, read s = some (a, rest) → rest.length < s.length

namespace Reader

variable {α β : Type}

/-- Reads the kept parts of a template. -/
def ofTemplate
    (template : Template)
    (opens : template.Opens) :
    Reader (List (List Char)) where
  read := template.read
  shortens := Template.read_length_lt opens

/-- Turns what is read into another item. -/
def map
    (f : α → β)
    (reader : Reader α) :
    Reader β where
  read s := (reader.read s).map fun item => (f item.1, item.2)
  shortens h := by
    simp only [Option.map_eq_some_iff, Prod.mk.injEq] at h
    obtain ⟨item, hread, _, rfl⟩ := h
    exact reader.shortens hread

/-- Reads with the second reader where the first finds nothing. -/
def orElse
    (first second : Reader α) :
    Reader α where
  read s := (first.read s).or (second.read s)
  shortens h := by
    simp only [Option.or_eq_some_iff] at h
    rcases h with h | h
    · exact first.shortens h
    · exact second.shortens h.2

/-- All items of a text from left to right: behind each item the search goes on, and where
no item starts it goes on one character later. -/
def scan
    (reader : Reader α) :
    List Char → List α
  | [] => []
  | c :: s =>
      match _h : reader.read (c :: s) with
      | some (item, rest) => item :: scan reader rest
      | none => scan reader s
termination_by s => s.length
decreasing_by
  · exact reader.shortens _h
  · simp

theorem scan_nil
    (reader : Reader α) :
    reader.scan [] = [] := by
  rw [scan]

/-- Where an item starts, it is taken and the search goes on behind it. -/
theorem scan_of_read
    (reader : Reader α)
    {s rest : List Char}
    {item : α}
    (h : reader.read s = some (item, rest)) :
    reader.scan s = item :: reader.scan rest := by
  cases s with
  | nil => exact absurd (reader.shortens h) (by simp)
  | cons c s =>
      rw [scan]
      split
      · next h' => rw [h] at h'; cases h'; rfl
      · next h' => rw [h] at h'; cases h'

/-- Where no item starts, the character is passed over. -/
theorem scan_cons_of_read_none
    (reader : Reader α)
    {c : Char}
    {s : List Char}
    (h : reader.read (c :: s) = none) :
    reader.scan (c :: s) = reader.scan s := by
  rw [scan]
  split
  · next h' => rw [h] at h'; cases h'
  · rfl

end Reader

end Text
end CaptureKit
