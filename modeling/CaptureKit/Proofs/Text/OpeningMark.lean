import CaptureKit.Proofs.Text.Matching
import Mathlib.Data.List.Forall2
import Mathlib.Data.List.Infix

/-!
# Templates with an opening mark

A template *opens with* a mark if this is the first character that it takes, and it takes
the mark nowhere else.  A match of such a template has the mark at its front only, so no
other match starts inside of it.  Scanning goes on behind each match and never looks inside.
The main statement says that nothing is missed this way: the items of a scan are those that
are read at all the places of the text, in order (`Reader.scan_eq_filterMap_tails`).
-/

namespace CaptureKit
namespace Text

/-- The shape takes no such character. -/
def Shape.Avoids (mark : Char) : Shape → Prop
  | .literal text => mark ∉ text
  | .one member => member mark = false
  | .run member _ _ => member mark = false
  | .stop _ => True

instance (mark : Char) : DecidablePred (Shape.Avoids mark)
  | .literal text => inferInstanceAs (Decidable (mark ∉ text))
  | .one member => inferInstanceAs (Decidable (member mark = false))
  | .run member _ _ => inferInstanceAs (Decidable (member mark = false))
  | .stop _ => inferInstanceAs (Decidable True)

/-- No piece of the template takes the mark. -/
def Template.Avoids
    (mark : Char)
    (template : Template) :
    Prop :=
  ∀ piece ∈ template, piece.shape.Avoids mark

instance (mark : Char) (template : Template) : Decidable (template.Avoids mark) :=
  inferInstanceAs (Decidable (∀ piece ∈ template, piece.shape.Avoids mark))

/-- The template takes the mark first, and then never again. -/
def Template.OpensWith (mark : Char) : Template → Prop
  | ⟨.literal (c :: text), _⟩ :: template =>
      c = mark ∧ mark ∉ text ∧ Template.Avoids mark template
  | _ => False

/-- What a shape takes does not hold a mark that the shape avoids. -/
theorem Shape.Takes.not_mem
    {shape : Shape}
    {part rest : List Char}
    (htakes : shape.Takes part rest)
    {mark : Char}
    (h : shape.Avoids mark) :
    mark ∉ part := by
  intro hmem
  cases shape with
  | literal text =>
      have hpart : part = text := htakes
      exact h (hpart ▸ hmem)
  | one member =>
      obtain ⟨c, rfl, hc⟩ := htakes
      have hnot : member mark = false := h
      rw [← List.mem_singleton.1 hmem, hnot] at hc
      cases hc
  | run member least most =>
      have hnot : member mark = false := h
      have htaken := htakes.1 mark hmem
      rw [hnot] at htaken
      cases htaken
  | stop member =>
      rw [htakes.1] at hmem
      cases hmem

/-- A part without the mark in front of such a text. -/
theorem exists_taken_append
    {mark : Char}
    {part text taken rest : List Char}
    (hpart : mark ∉ part)
    (htext : text = taken ++ rest)
    (htaken : mark ∉ taken) :
    ∃ all, part ++ text = all ++ rest ∧ mark ∉ all := by
  refine ⟨part ++ taken, by rw [htext, List.append_assoc], ?_⟩
  intro hmem
  exact (List.mem_append.1 hmem).elim hpart htaken

/-- What fits a template that avoids the mark does not hold it in front of the rest. -/
theorem Template.Fits.exists_taken
    {template : Template}
    {s rest : List Char}
    {parts : List (List Char)}
    (h : template.Fits s parts rest)
    {mark : Char}
    (havoids : template.Avoids mark) :
    ∃ taken, s = taken ++ rest ∧ mark ∉ taken := by
  induction h with
  | nil rest =>
      exact ⟨[], rfl, List.not_mem_nil⟩
  | skip htakes _ ih =>
      obtain ⟨taken, htext, htaken⟩ := ih fun p hp => havoids p (List.mem_cons_of_mem _ hp)
      exact exists_taken_append (htakes.not_mem (havoids _ List.mem_cons_self)) htext htaken
  | keep htakes _ ih =>
      obtain ⟨taken, htext, htaken⟩ := ih fun p hp => havoids p (List.mem_cons_of_mem _ hp)
      exact exists_taken_append (htakes.not_mem (havoids _ List.mem_cons_self)) htext htaken

/-- A match of a template that opens with a mark has it at its front and nowhere else. -/
theorem Template.OpensWith.exists_taken
    {mark : Char}
    {template : Template}
    (h : template.OpensWith mark)
    {s rest : List Char}
    {parts : List (List Char)}
    (hread : template.read s = some (parts, rest)) :
    ∃ taken, s = mark :: (taken ++ rest) ∧ mark ∉ taken := by
  match template, h with
  | ⟨.literal (c :: text), kept⟩ :: template, ⟨hc, htext, havoids⟩ =>
      subst hc
      simp only [Template.read] at hread
      split at hread
      · cases hread
      · next part middle hpart =>
          obtain ⟨rfl, htakes⟩ := Shape.read_eq_some_iff.1 hpart
          have hliteral : part = c :: text := htakes
          split at hread
          · cases hread
          · next parts' after htail =>
              simp only [Option.some.injEq, Prod.mk.injEq] at hread
              obtain ⟨-, rfl⟩ := hread
              obtain ⟨taken, hmiddle, htaken⟩ :=
                (Template.read_eq_some_iff.1 htail).exists_taken havoids
              obtain ⟨all, hall, hmark⟩ := exists_taken_append htext hmiddle htaken
              exact ⟨all, by rw [hliteral, List.cons_append, hall], hmark⟩

namespace Reader

variable {α β : Type}

/-- What the reader takes has the mark at its front and nowhere else. -/
def OpensWith
    (reader : Reader α)
    (mark : Char) :
    Prop :=
  ∀ (s : List Char) (item : α) (rest : List Char),
    reader.read s = some (item, rest) →
      ∃ taken, s = mark :: (taken ++ rest) ∧ mark ∉ taken

theorem opensWith_ofTemplate
    {template : Template}
    {opens : template.Opens}
    {mark : Char}
    (h : template.OpensWith mark) :
    (ofTemplate template opens).OpensWith mark :=
  fun _ _ _ hread => h.exists_taken hread

theorem OpensWith.map
    {reader : Reader α}
    {mark : Char}
    (h : reader.OpensWith mark)
    (f : α → β) :
    (reader.map f).OpensWith mark := by
  intro s item rest hread
  simp only [Reader.map, Option.map_eq_some_iff, Prod.mk.injEq] at hread
  obtain ⟨found, hread, -, rfl⟩ := hread
  exact h s found.1 found.2 hread

theorem OpensWith.orElse
    {first second : Reader α}
    {mark : Char}
    (hfirst : first.OpensWith mark)
    (hsecond : second.OpensWith mark) :
    (first.orElse second).OpensWith mark := by
  intro s item rest hread
  simp only [Reader.orElse, Option.or_eq_some_iff] at hread
  rcases hread with hread | ⟨-, hread⟩
  · exact hfirst s item rest hread
  · exact hsecond s item rest hread

section Scanning

variable {reader : Reader α} {mark : Char}

/-- Nothing is read where another character than the mark stands. -/
theorem OpensWith.read_eq_none
    (h : reader.OpensWith mark)
    {c : Char}
    (hc : c ≠ mark)
    (s : List Char) :
    reader.read (c :: s) = none := by
  cases hread : reader.read (c :: s) with
  | none =>
      rfl
  | some item =>
      obtain ⟨taken, htext, -⟩ := h _ item.1 item.2 hread
      exact absurd (List.cons.inj htext).1 hc

/-- A text without the mark is passed over. -/
theorem OpensWith.scan_append
    (h : reader.OpensWith mark)
    {s : List Char}
    (hs : mark ∉ s)
    (t : List Char) :
    reader.scan (s ++ t) = reader.scan t := by
  induction s with
  | nil =>
      rfl
  | cons c s ih =>
      have hc : c ≠ mark := fun e => hs (by simp [e])
      rw [List.cons_append, reader.scan_cons_of_read_none (h.read_eq_none hc _)]
      exact ih fun hmem => hs (List.mem_cons_of_mem _ hmem)

/-- The item that is read at the front of a text. -/
def itemAt? (reader : Reader α) (s : List Char) : Option α :=
  (reader.read s).map Prod.fst

/-- No item starts inside of a text without the mark. -/
theorem OpensWith.filterMap_tails_append
    (h : reader.OpensWith mark)
    {s : List Char}
    (hs : mark ∉ s)
    (t : List Char) :
    (s ++ t).tails.filterMap reader.itemAt? = t.tails.filterMap reader.itemAt? := by
  induction s with
  | nil =>
      rfl
  | cons c s ih =>
      have hc : c ≠ mark := fun e => hs (by simp [e])
      have hnone : reader.itemAt? (c :: (s ++ t)) = none := by
        rw [itemAt?, h.read_eq_none hc, Option.map_none]
      rw [List.cons_append, List.tails_cons, List.filterMap_cons_none hnone]
      exact ih fun hmem => hs (List.mem_cons_of_mem _ hmem)

/-- Scanning finds the items at all the places of a text, in order, though it never looks
inside of a match. -/
theorem scan_eq_filterMap_tails
    (h : reader.OpensWith mark)
    (s : List Char) :
    reader.scan s = s.tails.filterMap reader.itemAt? := by
  -- The scan recurses on what a match leaves, so the induction is on the length.
  induction hn : s.length using Nat.strongRecOn generalizing s with
  | ind n ih =>
      subst hn
      cases s with
      | nil =>
          have hnone : reader.itemAt? [] = none := by
            cases hread : reader.read [] with
            | none =>
                rw [itemAt?, hread, Option.map_none]
            | some item =>
                exact absurd (reader.shortens hread) (Nat.not_lt_zero _)
          rw [scan_nil, List.tails, List.filterMap_cons_none hnone, List.filterMap_nil]
      | cons c s =>
          rw [List.tails_cons]
          cases hread : reader.read (c :: s) with
          | none =>
              have hnone : reader.itemAt? (c :: s) = none := by
                rw [itemAt?, hread, Option.map_none]
              rw [reader.scan_cons_of_read_none hread, List.filterMap_cons_none hnone]
              exact ih s.length (Nat.lt_succ_self _) s rfl
          | some item =>
              have hsome : reader.itemAt? (c :: s) = some item.1 := by
                rw [itemAt?, hread, Option.map_some]
              obtain ⟨taken, htext, htaken⟩ := h _ item.1 item.2 hread
              have hrest := ih item.2.length (reader.shortens hread) item.2 rfl
              rw [reader.scan_of_read hread, List.filterMap_cons_some hsome, hrest,
                (List.cons.inj htext).2, h.filterMap_tails_append htaken]

end Scanning

end Reader

section Positions

variable {α β : Type}

/-- What is found at the ends of a list is found at increasing positions: all those where
something is found. -/
theorem exists_positions
    (f : List α → Option β)
    (hnil : f [] = none)
    (s : List α) :
    ∃ positions : List Nat,
      positions.Pairwise (· < ·) ∧
      (∀ i, i ∈ positions ↔ ∃ b, f (s.drop i) = some b) ∧
      List.Forall₂ (fun i b => f (s.drop i) = some b) positions (s.tails.filterMap f) := by
  induction s with
  | nil =>
      refine ⟨[], .nil, ?_, ?_⟩
      · intro i
        simp [hnil]
      · rw [List.tails, List.filterMap_cons_none hnil]
        exact .nil
  | cons c s ih =>
      obtain ⟨positions, hincreasing, hmem, hfound⟩ := ih
      have hlater :
          List.Forall₂ (fun i b => f ((c :: s).drop i) = some b) (positions.map (· + 1))
            (s.tails.filterMap f) :=
        List.forall₂_map_left_iff.2 hfound
      have hsucc : (positions.map (· + 1)).Pairwise (· < ·) :=
        hincreasing.map _ fun _ _ h => Nat.succ_lt_succ h
      rw [List.tails_cons]
      cases hfront : f (c :: s) with
      | none =>
          refine ⟨positions.map (· + 1), hsucc, ?_, ?_⟩
          · intro i
            cases i with
            | zero => simp [hfront]
            | succ i => simpa using hmem i
          · rw [List.filterMap_cons_none hfront]
            exact hlater
      | some b =>
          refine ⟨0 :: positions.map (· + 1), List.pairwise_cons.2 ⟨by simp, hsucc⟩, ?_, ?_⟩
          · intro i
            cases i with
            | zero => simp [hfront]
            | succ i => simpa using hmem i
          · rw [List.filterMap_cons_some hfront]
            exact .cons hfront hlater

end Positions

end Text
end CaptureKit
