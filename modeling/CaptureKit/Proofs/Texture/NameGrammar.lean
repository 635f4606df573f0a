import CaptureKit.Proofs.Text.Matching
import CaptureKit.Texture.Name

/-!
# How the names of dumped textures are written

The name of a dumped texture is made of parts: the number of its event, the number of its
texture slot, and behind the dash at least one character that is no line feed.  The numbers
are written in the decimal digits of any script.

The main statement is that a text is taken for such a name exactly if it is written with
some parts (`isDumpName_grammar`).  So its end is free, but its beginning is not: nothing can
be put in front of the mark of the event that is not such a beginning itself.
-/

namespace CaptureKit
namespace Texture

open Text

/-- The parts of the name of a dumped texture. -/
structure NameParts where
  /-- The digits of the event. -/
  event : List Char
  /-- The digits of the texture slot. -/
  slot : List Char
  /-- The first character behind the dash. -/
  first : Char
  /-- What else stands behind the dash. -/
  more : List Char
  event_digits : event ≠ [] ∧ ∀ c ∈ event, isDecimalDigit c = true
  slot_digits : slot ≠ [] ∧ ∀ c ∈ slot, isDecimalDigit c = true
  first_ne_newline : first ≠ '\n'

namespace NameParts

/-- The name up to the dash. -/
def head (parts : NameParts) : List Char :=
  "EID_".toList ++ parts.event ++ "_tex".toList ++ parts.slot ++ "-".toList

/-- The name that is written with the parts. -/
def name (parts : NameParts) : List Char :=
  parts.head ++ parts.first :: parts.more

/-- The parts of a name stand one behind the other. -/
theorem name_eq (parts : NameParts) :
    parts.name =
      "EID_".toList ++ (parts.event ++ ("_tex".toList ++ (parts.slot ++
        ("-".toList ++ ([parts.first] ++ parts.more))))) := by
  unfold name head
  simp only [List.append_assoc, List.singleton_append]

/-- The parts of a name with more characters at its end. -/
def extend
    (parts : NameParts)
    (extra : List Char) :
    NameParts :=
  { parts with more := parts.more ++ extra }

theorem name_extend
    (parts : NameParts)
    (extra : List Char) :
    (parts.extend extra).name = parts.name ++ extra := by
  rw [name_eq, name_eq]
  simp only [extend, List.append_assoc]

/-- A name begins with the mark of an event. -/
theorem mark_prefix_name (parts : NameParts) : "EID_".toList <+: parts.name := by
  rw [name_eq]
  exact List.prefix_append _ _

/-- The first letter of the mark stands nowhere else in front of the dash. -/
theorem exists_head_eq (parts : NameParts) :
    ∃ tail, parts.head = 'E' :: tail ∧ 'E' ∉ tail := by
  have hevent : 'E' ∉ parts.event := fun h => by cases parts.event_digits.2 'E' h
  have hslot : 'E' ∉ parts.slot := fun h => by cases parts.slot_digits.2 'E' h
  refine ⟨"ID_".toList ++ parts.event ++ "_tex".toList ++ parts.slot ++ "-".toList, rfl, ?_⟩
  simp only [List.mem_append, not_or]
  exact ⟨⟨⟨⟨by decide, hevent⟩, by decide⟩, hslot⟩, by decide⟩

/-- Another mark of an event stands behind the dash of a name only. -/
theorem head_prefix_of_mark
    {parts : NameParts}
    {front rest : List Char}
    (h : parts.name = front ++ ("EID_".toList ++ rest))
    (hfront : front ≠ []) :
    parts.head <+: front := by
  rcases List.append_eq_append_iff.1 h with ⟨between, hfront, -⟩ | ⟨between, hhead, hmark⟩
  · exact ⟨between, hfront.symm⟩
  · cases between with
    | nil =>
        exact ⟨[], by rw [List.append_nil, hhead, List.append_nil]⟩
    | cons c between =>
        -- Then the mark begins inside of the head, at another place than its front.
        obtain ⟨tail, htail, hnot⟩ := parts.exists_head_eq
        obtain ⟨d, front, rfl⟩ := List.exists_cons_of_ne_nil hfront
        have hc : 'E' = c := (List.cons.inj hmark).1
        rw [htail, List.cons_append, List.cons.injEq] at hhead
        rw [hhead.2, ← hc] at hnot
        exact absurd (List.mem_append_right front List.mem_cons_self) hnot

/-- A name that is written with parts fits the template of names. -/
theorem fits_name (parts : NameParts) :
    nameTemplate.Fits parts.name [] parts.more := by
  have hfirst : (Shape.one (· != '\n')).Takes [parts.first] parts.more :=
    ⟨parts.first, rfl, bne_iff_ne.2 parts.first_ne_newline⟩
  rw [name_eq]
  refine .skip rfl (fits_run parts.event_digits (by rfl) (.skip rfl ?_))
  exact fits_run parts.slot_digits (by rfl) (.skip rfl (.skip hfirst (.nil parts.more)))

/-- What fits the template of names is written with parts. -/
theorem exists_name_of_fits
    {name rest : List Char}
    {kept : List (List Char)}
    (h : nameTemplate.Fits name kept rest) :
    ∃ parts : NameParts, parts.name = name := by
  obtain ⟨behind₁, rfl, h₁⟩ := exists_of_fits_literal h
  obtain ⟨event, behind₂, rfl, hevent, h₂⟩ := exists_of_fits_run h₁
  obtain ⟨behind₃, rfl, h₃⟩ := exists_of_fits_literal h₂
  obtain ⟨slot, behind₄, rfl, hslot, h₄⟩ := exists_of_fits_run h₃
  obtain ⟨behind₅, rfl, h₅⟩ := exists_of_fits_literal h₄
  obtain ⟨_, more, rfl, ⟨first, rfl, hfirst⟩, -⟩ := h₅.exists_of_skip
  exact ⟨⟨event, slot, first, more, hevent, hslot, bne_iff_ne.1 hfirst⟩, name_eq _⟩

end NameParts

/-- A text is taken for the name of a dumped texture exactly if it is written with parts. -/
theorem isDumpName_iff_parts (name : List Char) :
    isDumpName name = true ↔ ∃ parts : NameParts, parts.name = name := by
  rw [isDumpName, Option.isSome_iff_exists]
  constructor
  · rintro ⟨⟨kept, rest⟩, hread⟩
    exact NameParts.exists_name_of_fits (Template.read_eq_some_iff.1 hread)
  · rintro ⟨parts, rfl⟩
    exact ⟨_, Template.read_eq_some_iff.2 parts.fits_name⟩

/-- The names of dumped textures are exactly the texts that are written with the number of an
event, the number of a texture slot, and something behind the dash on the same line.  Such a
name stays one whatever is put at its end.  It begins with the mark of an event, and if there
is something in front of a mark, this has a beginning of a name up to the dash already. -/
theorem isDumpName_grammar (name : List Char) :
    (isDumpName name = true ↔ ∃ parts : NameParts, parts.name = name) ∧
    (isDumpName name = true → ∀ extra, isDumpName (name ++ extra) = true) ∧
    (isDumpName name = true → "EID_".toList <+: name) ∧
    (isDumpName name = true → ∀ front rest, name = front ++ ("EID_".toList ++ rest) →
      front = [] ∨ ∃ parts : NameParts, parts.head <+: front) := by
  refine ⟨isDumpName_iff_parts name, ?_, ?_, ?_⟩
  · intro h extra
    obtain ⟨parts, rfl⟩ := (isDumpName_iff_parts name).1 h
    exact (isDumpName_iff_parts _).2 ⟨parts.extend extra, parts.name_extend extra⟩
  · intro h
    obtain ⟨parts, rfl⟩ := (isDumpName_iff_parts name).1 h
    exact parts.mark_prefix_name
  · intro h front rest hmark
    obtain ⟨parts, rfl⟩ := (isDumpName_iff_parts name).1 h
    by_cases hfront : front = []
    · exact .inl hfront
    · exact .inr ⟨parts, NameParts.head_prefix_of_mark hmark hfront⟩

/-- A name with a second mark behind its dash, which is a name with an ending as well. -/
theorem isDumpName_grammar_twoMarks :
    isDumpName "EID_1_tex0-EID_2_tex0-a".toList = true ∧
      isDumpName ("EID_1_tex0-EID_2_tex0-a".toList ++ ".png".toList) = true ∧
      "EID_".toList <+: "EID_1_tex0-EID_2_tex0-a".toList ∧
      ∃ parts : NameParts, parts.head <+: "EID_1_tex0-".toList := by
  have hname : isDumpName "EID_1_tex0-EID_2_tex0-a".toList = true := by
    decide
  obtain ⟨-, hextra, hmark, hfront⟩ := isDumpName_grammar "EID_1_tex0-EID_2_tex0-a".toList
  refine ⟨hname, hextra hname _, hmark hname, ?_⟩
  rcases hfront hname "EID_1_tex0-".toList "2_tex0-a".toList (by decide) with hempty | hparts
  · cases hempty
  · exact hparts

/-- Nothing else may stand in front, and no line feed directly behind the dash. -/
example :
    isDumpName "copy_EID_123_tex0-1234.png".toList = false ∧
      isDumpName "EID_1_tex0-\na".toList = false ∧
      isDumpName "EID_1_tex0-a\n".toList = true := by
  decide

end Texture
end CaptureKit
