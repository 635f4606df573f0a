import CaptureKit.Text.Template

/-!
# What a template matches

The reader of a template works from left to right and never goes back.  Here the same is
said without running it: a text *fits* a template if it is made of parts, one for each
piece, where a run is as long as its class allows and a stop is followed by no character
of its class.  Main statement: reading a text with a template succeeds exactly if the text
fits it, and then gives the kept parts and the rest (`Template.read_eq_some_iff`).
-/

namespace CaptureKit
namespace Text

/-- No character of the class comes first. -/
def StopsAt (member : Char → Bool) : List Char → Prop
  | [] => True
  | c :: _ => member c = false

/-- A part outside of the class ends a run of the class. -/
theorem stopsAt_append
    {member : Char → Bool}
    {part : List Char}
    (hne : part ≠ [])
    (h : ∀ c ∈ part, member c = false)
    (rest : List Char) :
    StopsAt member (part ++ rest) := by
  cases part with
  | nil =>
      exact absurd rfl hne
  | cons c part =>
      exact h c (by simp)

/-- A smaller class stops where a larger one does. -/
theorem StopsAt.mono
    {small large : Char → Bool}
    (hsub : ∀ c, small c = true → large c = true)
    {rest : List Char}
    (h : StopsAt large rest) :
    StopsAt small rest := by
  cases rest with
  | nil =>
      trivial
  | cons c rest =>
      have hc : large c = false := h
      cases hs : small c with
      | false =>
          exact hs
      | true =>
          rw [hsub c hs] at hc
          cases hc

/-- The shape takes exactly this part where this rest follows. -/
def Shape.Takes : Shape → List Char → List Char → Prop
  | .literal text, part, _ => part = text
  | .one member, part, _ => ∃ c, part = [c] ∧ member c = true
  | .run member least most, part, rest =>
      (∀ c ∈ part, member c = true) ∧ StopsAt member rest ∧
        least ≤ part.length ∧ ∀ bound ∈ most, part.length ≤ bound
  | .stop member, part, rest => part = [] ∧ StopsAt member rest

/-- Text that fits a template: the text, the parts that are kept, and the rest. -/
inductive Template.Fits : Template → List Char → List (List Char) → List Char → Prop
  | nil (rest : List Char) :
      Template.Fits [] rest [] rest
  | skip
      {shape : Shape} {template : Template}
      {part text rest : List Char} {parts : List (List Char)}
      (htakes : shape.Takes part text)
      (hfits : Template.Fits template text parts rest) :
      Template.Fits (shape.skip :: template) (part ++ text) parts rest
  | keep
      {shape : Shape} {template : Template}
      {part text rest : List Char} {parts : List (List Char)}
      (htakes : shape.Takes part text)
      (hfits : Template.Fits template text parts rest) :
      Template.Fits (shape.keep :: template) (part ++ text) (part :: parts) rest

/-- What is left behind a run does not go on with the run. -/
theorem stopsAt_dropWhile
    (member : Char → Bool)
    (s : List Char) :
    StopsAt member (s.dropWhile member) := by
  cases h : s.dropWhile member with
  | nil =>
      trivial
  | cons c rest =>
      have hc := List.head?_dropWhile_not member s
      rw [h] at hc
      show member c = false
      simpa using hc

/-- A part of the class is the whole run if a stop follows. -/
theorem takeWhile_of_stopsAt
    {member : Char → Bool}
    {part rest : List Char}
    (hpart : ∀ c ∈ part, member c = true)
    (hstop : StopsAt member rest) :
    (part ++ rest).takeWhile member = part ∧ (part ++ rest).dropWhile member = rest := by
  rw [List.takeWhile_append_of_pos hpart, List.dropWhile_append_of_pos hpart]
  cases rest with
  | nil =>
      simp
  | cons c rest =>
      have hc : member c = false := hstop
      simp [hc]

/-- A shape is read exactly where it takes a part of the text. -/
theorem Shape.read_eq_some_iff
    {shape : Shape}
    {s part rest : List Char} :
    shape.read s = some (part, rest) ↔ s = part ++ rest ∧ shape.Takes part rest := by
  constructor
  · intro h
    refine ⟨Shape.read_append h, ?_⟩
    cases shape with
    | literal text =>
        simp only [Shape.read, Option.map_eq_some_iff, Prod.mk.injEq] at h
        obtain ⟨_, _, rfl, _⟩ := h
        rfl
    | one member =>
        cases s with
        | nil =>
            cases h
        | cons c s =>
            simp only [Shape.read, Option.ite_none_right_eq_some, Option.some.injEq,
              Prod.mk.injEq] at h
            obtain ⟨hc, rfl, _⟩ := h
            exact ⟨c, rfl, hc⟩
    | run member least most =>
        simp only [Shape.read, Option.ite_none_right_eq_some, Option.some.injEq,
          Prod.mk.injEq] at h
        obtain ⟨⟨hleast, hmost⟩, rfl, rfl⟩ := h
        refine ⟨fun c hc => List.all_eq_true.1 List.all_takeWhile c hc,
          stopsAt_dropWhile member s, hleast, ?_⟩
        rintro bound rfl
        simpa using hmost
    | stop member =>
        cases s with
        | nil =>
            cases h
            exact ⟨rfl, trivial⟩
        | cons c s =>
            simp only [Shape.read, Option.ite_none_left_eq_some, Option.some.injEq,
              Prod.mk.injEq] at h
            obtain ⟨hc, rfl, rfl⟩ := h
            exact ⟨rfl, by simpa [StopsAt] using hc⟩
  · rintro ⟨rfl, h⟩
    cases shape with
    | literal text =>
        have hpart : part = text := h
        have hafter : afterLiteral text (text ++ rest) = some rest :=
          afterLiteral_eq_some_iff.2 rfl
        rw [hpart, Shape.read, hafter, Option.map_some]
    | one member =>
        obtain ⟨c, rfl, hc⟩ := h
        simp [Shape.read, hc]
    | run member least most =>
        obtain ⟨hpart, hstop, hleast, hmost⟩ := h
        obtain ⟨htake, hdrop⟩ := takeWhile_of_stopsAt hpart hstop
        have hall : most.all (part.length ≤ ·) = true := by
          cases most with
          | none => rfl
          | some bound => simpa using hmost bound rfl
        simp only [Shape.read, htake, hdrop, hleast, hall, and_self, ↓reduceIte]
    | stop member =>
        obtain ⟨rfl, hstop⟩ := h
        cases rest with
        | nil =>
            rfl
        | cons c rest =>
            have hc : member c = false := hstop
            simp [Shape.read, hc]

/-- A template is read exactly where the text fits it. -/
theorem Template.read_eq_some_iff
    {template : Template}
    {s rest : List Char}
    {parts : List (List Char)} :
    template.read s = some (parts, rest) ↔ template.Fits s parts rest := by
  constructor
  · intro h
    induction template generalizing s parts with
    | nil =>
        simp only [Template.read, Option.some.injEq, Prod.mk.injEq] at h
        obtain ⟨rfl, rfl⟩ := h
        exact .nil s
    | cons piece template ih =>
        simp only [Template.read] at h
        split at h
        · cases h
        · next part text hread =>
            split at h
            · cases h
            · next parts' after htail =>
                simp only [Option.some.injEq, Prod.mk.injEq] at h
                obtain ⟨rfl, rfl⟩ := h
                obtain ⟨rfl, htakes⟩ := Shape.read_eq_some_iff.1 hread
                obtain ⟨shape, kept⟩ := piece
                cases kept with
                | false => exact .skip htakes (ih htail)
                | true => exact .keep htakes (ih htail)
  · intro h
    induction h with
    | nil rest =>
        rfl
    | skip htakes _ ih =>
        have hread := Shape.read_eq_some_iff.2 ⟨rfl, htakes⟩
        simp [Template.read, Shape.skip, hread, ih]
    | keep htakes _ ih =>
        have hread := Shape.read_eq_some_iff.2 ⟨rfl, htakes⟩
        simp [Template.read, Shape.keep, hread, ih]

/-- No pieces take nothing. -/
theorem Template.Fits.eq_of_nil
    {s rest : List Char}
    {parts : List (List Char)}
    (h : Template.Fits [] s parts rest) :
    parts = [] ∧ s = rest := by
  cases h
  exact ⟨rfl, rfl⟩

/-- A piece that is skipped takes a part of the text, and the other pieces fit behind it. -/
theorem Template.Fits.exists_of_skip
    {shape : Shape}
    {template : Template}
    {s rest : List Char}
    {parts : List (List Char)}
    (h : Template.Fits (shape.skip :: template) s parts rest) :
    ∃ part text, s = part ++ text ∧ shape.Takes part text ∧ template.Fits text parts rest := by
  cases h with
  | skip htakes hfits =>
      exact ⟨_, _, rfl, htakes, hfits⟩

/-- A piece that is kept takes the first of the parts. -/
theorem Template.Fits.exists_of_keep
    {shape : Shape}
    {template : Template}
    {s rest : List Char}
    {parts : List (List Char)}
    (h : Template.Fits (shape.keep :: template) s parts rest) :
    ∃ part text others,
      s = part ++ text ∧ parts = part :: others ∧ shape.Takes part text ∧
        template.Fits text others rest := by
  cases h with
  | keep htakes hfits =>
      exact ⟨_, _, _, rfl, rfl, htakes, hfits⟩

section SkippedPieces

variable {template : Template}
variable {whole rest after : List Char}
variable {parts : List (List Char)}

/-- A run of at least one character of a class that is not kept. -/
theorem fits_run
    {member : Char → Bool}
    {part : List Char}
    (hpart : part ≠ [] ∧ ∀ c ∈ part, member c = true)
    (hstop : StopsAt member rest)
    (h : template.Fits rest parts after) :
    Template.Fits ((Shape.atLeastOne member).skip :: template) (part ++ rest) parts after := by
  refine .skip ⟨hpart.2, hstop, List.length_pos_iff.2 hpart.1, ?_⟩ h
  intro bound hbound
  cases hbound

/-- A literal that is not kept stands at the front. -/
theorem exists_of_fits_literal
    {literal : List Char}
    (h : Template.Fits ((Shape.literal literal).skip :: template) whole parts after) :
    ∃ rest, whole = literal ++ rest ∧ template.Fits rest parts after := by
  obtain ⟨part, rest, rfl, hpart, hfits⟩ := h.exists_of_skip
  have hliteral : part = literal := hpart
  exact ⟨rest, by rw [hliteral], hfits⟩

/-- A run that is not kept stands at the front. -/
theorem exists_of_fits_run
    {member : Char → Bool}
    (h : Template.Fits ((Shape.atLeastOne member).skip :: template) whole parts after) :
    ∃ part rest,
      whole = part ++ rest ∧ (part ≠ [] ∧ ∀ c ∈ part, member c = true) ∧
        template.Fits rest parts after := by
  obtain ⟨part, rest, rfl, ⟨hmember, -, hlength, -⟩, hfits⟩ := h.exists_of_skip
  exact ⟨part, rest, rfl, ⟨List.length_pos_iff.1 hlength, hmember⟩, hfits⟩

end SkippedPieces

/-- Where the first pieces fit, the others decide on what these leave. -/
theorem Template.Fits.read_append
    {first : Template}
    {s middle : List Char}
    {parts : List (List Char)}
    (h : first.Fits s parts middle)
    (second : Template) :
    Template.read (first ++ second) s =
      (second.read middle).map fun item => (parts ++ item.1, item.2) := by
  induction h with
  | nil rest =>
      simp
  | skip htakes _ ih =>
      have hread := Shape.read_eq_some_iff.2 ⟨rfl, htakes⟩
      simp only [List.cons_append, Template.read, Shape.skip, hread, ih]
      cases second.read _ <;> rfl
  | keep htakes _ ih =>
      have hread := Shape.read_eq_some_iff.2 ⟨rfl, htakes⟩
      simp only [List.cons_append, Template.read, Shape.keep, hread, ih]
      cases second.read _ <;> rfl

end Text
end CaptureKit
