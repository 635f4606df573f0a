import CaptureKit.Text.Template

/-!
# Templates that stay on one line

A piece of a template *breaks at* a character if it takes no such character and one ends it
just as the end of the text would.  What a template of such pieces reads at the front of a
text is then decided by what stands in front of the first such character: the rest is only
carried along.  Line feeds are what most templates break at; some break at carriage returns
as well.

The main statements: scanning the text `s ++ cut :: t` gives the items of `s` and then those
of `t` (`Reader.scan_append_cut`), so that the items of a text are those of its lines
(`Reader.scan_intercalate`).
-/

namespace CaptureKit
namespace Text

/-- The shape takes no such character, and no run or stop looks past one. -/
def Shape.BreaksAt (cut : Char) : Shape → Prop
  | .literal text => cut ∉ text
  | .one member => member cut = false
  | .run member _ _ => member cut = false
  | .stop member => member cut = false

instance (cut : Char) : DecidablePred (Shape.BreaksAt cut)
  | .literal text => inferInstanceAs (Decidable (cut ∉ text))
  | .one member => inferInstanceAs (Decidable (member cut = false))
  | .run member _ _ => inferInstanceAs (Decidable (member cut = false))
  | .stop member => inferInstanceAs (Decidable (member cut = false))

/-- All pieces of the template break at the character. -/
def Template.BreaksAt
    (cut : Char)
    (template : Template) :
    Prop :=
  ∀ piece ∈ template, piece.shape.BreaksAt cut

instance (cut : Char) (template : Template) : Decidable (template.BreaksAt cut) :=
  inferInstanceAs (Decidable (∀ piece ∈ template, piece.shape.BreaksAt cut))

section Shapes

variable {cut : Char}

/-- A literal without the character is found in front of it or not at all. -/
theorem afterLiteral_append_cut
    {literal : List Char}
    (h : cut ∉ literal)
    (s t : List Char) :
    afterLiteral literal (s ++ cut :: t) =
      (afterLiteral literal s).map (· ++ cut :: t) := by
  induction literal generalizing s with
  | nil =>
      simp [afterLiteral]
  | cons c literal ih =>
      have hc : c ≠ cut := fun e => h (by simp [e])
      have hliteral : cut ∉ literal := fun hm => h (List.mem_cons_of_mem _ hm)
      cases s with
      | nil =>
          simp [afterLiteral, hc]
      | cons d s =>
          by_cases hcd : c = d
          · simp [afterLiteral, hcd, ih hliteral]
          · simp [afterLiteral, hcd]

/-- A run of a class without the character ends there. -/
theorem takeWhile_append_cut
    {member : Char → Bool}
    (h : member cut = false)
    (s t : List Char) :
    (s ++ cut :: t).takeWhile member = s.takeWhile member := by
  rw [List.takeWhile_append]
  split
  · next hall =>
      have hself : s.takeWhile member = s :=
        (List.takeWhile_prefix member).eq_of_length hall
      simp [h, hself]
  · rfl

/-- Behind the run stands what is left in front of the character. -/
theorem dropWhile_append_cut
    {member : Char → Bool}
    (h : member cut = false)
    (s t : List Char) :
    (s ++ cut :: t).dropWhile member = s.dropWhile member ++ cut :: t := by
  rw [List.dropWhile_append]
  split
  · next hall =>
      rw [List.isEmpty_iff] at hall
      simp [h, hall]
  · rfl

/-- What a shape takes does not depend on what stands behind a break. -/
theorem Shape.read_append_cut
    {shape : Shape}
    (h : shape.BreaksAt cut)
    (s t : List Char) :
    shape.read (s ++ cut :: t) =
      (shape.read s).map fun part => (part.1, part.2 ++ cut :: t) := by
  cases shape with
  | literal text =>
      simp only [Shape.read, afterLiteral_append_cut h, Option.map_map]
      rfl
  | one member =>
      cases s with
      | nil =>
          have hm : member cut = false := h
          simp [Shape.read, hm]
      | cons c s =>
          by_cases hc : member c = true <;> simp [Shape.read, hc]
  | run member least most =>
      simp only [Shape.read, takeWhile_append_cut h, dropWhile_append_cut h]
      split <;> rfl
  | stop member =>
      cases s with
      | nil =>
          have hm : member cut = false := h
          simp [Shape.read, hm]
      | cons c s =>
          by_cases hc : member c = true <;> simp [Shape.read, hc]

/-- What a template reads does not depend on what stands behind a break. -/
theorem Template.read_append_cut
    {template : Template}
    (h : template.BreaksAt cut)
    (s t : List Char) :
    template.read (s ++ cut :: t) =
      (template.read s).map fun part => (part.1, part.2 ++ cut :: t) := by
  induction template generalizing s with
  | nil =>
      rfl
  | cons piece template ih =>
      have hpiece : piece.shape.BreaksAt cut := h piece (by simp)
      have htemplate : Template.BreaksAt cut template :=
        fun p hp => h p (List.mem_cons_of_mem _ hp)
      simp only [Template.read, Shape.read_append_cut hpiece]
      cases piece.shape.read s with
      | none =>
          rfl
      | some part =>
          simp only [Option.map_some, ih htemplate part.2]
          cases Template.read template part.2 <;> rfl

end Shapes

namespace Reader

variable {α β : Type}

/-- The reader decides by what stands in front of the first such character. -/
def BreaksAt
    (cut : Char)
    (reader : Reader α) :
    Prop :=
  ∀ s t : List Char,
    reader.read (s ++ cut :: t) =
      (reader.read s).map fun item => (item.1, item.2 ++ cut :: t)

variable {cut : Char}

theorem breaksAt_ofTemplate
    {template : Template}
    {opens : template.Opens}
    (h : template.BreaksAt cut) :
    (ofTemplate template opens).BreaksAt cut :=
  Template.read_append_cut h

theorem BreaksAt.map
    {reader : Reader α}
    (h : reader.BreaksAt cut)
    (f : α → β) :
    (reader.map f).BreaksAt cut := by
  intro s t
  simp only [Reader.map, h s t, Option.map_map]
  rfl

theorem BreaksAt.orElse
    {first second : Reader α}
    (hfirst : first.BreaksAt cut)
    (hsecond : second.BreaksAt cut) :
    (first.orElse second).BreaksAt cut := by
  intro s t
  simp only [Reader.orElse, hfirst s t, hsecond s t]
  cases first.read s <;> rfl

/-- A text is scanned on both sides of a break. -/
theorem scan_append_cut
    {reader : Reader α}
    (h : reader.BreaksAt cut)
    (s t : List Char) :
    reader.scan (s ++ cut :: t) = reader.scan s ++ reader.scan t := by
  -- The scan recurses on what a match leaves, so the induction is on the length.
  induction hn : s.length using Nat.strongRecOn generalizing s with
  | ind n ih =>
      subst hn
      cases hread : reader.read s with
      | some item =>
          have hlong :
              reader.read (s ++ cut :: t) =
                some (item.1, item.2 ++ cut :: t) := by
            rw [h s t, hread, Option.map_some]
          have hrest := ih item.2.length (reader.shortens hread) item.2 rfl
          rw [reader.scan_of_read hread, reader.scan_of_read hlong, hrest]
          rfl
      | none =>
          have hlong : reader.read (s ++ cut :: t) = none := by
            rw [h s t, hread, Option.map_none]
          cases s with
          | nil =>
              rw [scan_nil]
              exact reader.scan_cons_of_read_none hlong
          | cons c s =>
              rw [reader.scan_cons_of_read_none hread]
              rw [List.cons_append] at hlong ⊢
              rw [reader.scan_cons_of_read_none hlong]
              exact ih s.length (by simp) s rfl

/-- The items of a text are those of its parts between breaks, one after the other. -/
theorem scan_intercalate
    {reader : Reader α}
    (h : reader.BreaksAt cut)
    (lines : List (List Char)) :
    reader.scan ([cut].intercalate lines) = lines.flatMap reader.scan := by
  induction lines with
  | nil =>
      exact reader.scan_nil
  | cons line lines ih =>
      cases lines with
      | nil =>
          simp
      | cons next lines =>
          have htext :
              [cut].intercalate (line :: next :: lines) =
                line ++ cut :: [cut].intercalate (next :: lines) := by
            simp [List.intercalate]
          rw [htext, scan_append_cut h, ih]
          rfl

/-- A reader that leaves an end of its text takes nothing behind a break. -/
theorem BreaksAt.exists_taken
    {reader : Reader α}
    (h : reader.BreaksAt cut)
    (hsuffix : ∀ {s item rest}, reader.read s = some (item, rest) → rest <:+ s)
    {s rest : List Char}
    {item : α}
    (hread : reader.read s = some (item, rest)) :
    ∃ taken, s = taken ++ rest ∧ cut ∉ taken := by
  by_cases hcut : cut ∈ s
  · obtain ⟨line, behind, rfl, hline⟩ := List.eq_append_cons_of_mem hcut
    rw [h line behind, Option.map_eq_some_iff] at hread
    obtain ⟨⟨found, left⟩, hfound, hrest⟩ := hread
    obtain ⟨-, rfl⟩ := Prod.mk.inj hrest
    obtain ⟨taken, rfl⟩ := hsuffix hfound
    refine ⟨taken, List.append_assoc taken left (cut :: behind), ?_⟩
    exact fun hmem => hline (List.mem_append_left left hmem)
  · obtain ⟨taken, rfl⟩ := hsuffix hread
    exact ⟨taken, rfl, fun hmem => hcut (List.mem_append_left rest hmem)⟩

end Reader

end Text
end CaptureKit
