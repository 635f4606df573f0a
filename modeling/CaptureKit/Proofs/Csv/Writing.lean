import CaptureKit.Csv.Record
import CaptureKit.Proofs.Text.Matching

/-!
# Records that are written with bars

A field of any content can be written between bars, with each bar of its own written twice.
Fields are joined by commas, and each record has one of the three kinds of line ends, which
need not be the same for all of them.

Main statements: a field, a record and all records of a file are read back as they were written
(`field_barred`, `fields_recordText`, `Written.records_eq`).
-/

namespace CaptureKit
namespace Csv

open Text

/-- The content of a field with each bar written twice. -/
def doubled (content : List Char) : List Char :=
  content.flatMap fun c => if c = '|' then ['|', '|'] else [c]

/-- A field between bars. -/
def barred (content : List Char) : List Char :=
  '|' :: (doubled content ++ ['|'])

/-- The fields of a record joined by commas. -/
def recordText (record : List (List Char)) : List Char :=
  [','].intercalate (record.map barred)

/-- What may end the line of a record. -/
def lineEnds : List (List Char) := [['\n'], ['\r'], ['\r', '\n']]

/-- The records stand in the text one after the other, each with some line end. -/
inductive Written : List (List (List Char)) → List Char → Prop
  | nil :
      Written [] []
  | cons
      {record : List (List Char)} {records : List (List (List Char))} {ending text : List Char}
      (hending : ending ∈ lineEnds)
      (hrest : Written records text) :
      Written (record :: records) (recordText record ++ (ending ++ text))

section Fields

theorem doubled_cons_of_ne
    {c : Char}
    (hc : c ≠ '|')
    (content : List Char) :
    doubled (c :: content) = c :: doubled content := by
  simp [doubled, hc]

theorem doubled_cons_bar (content : List Char) :
    doubled ('|' :: content) = '|' :: '|' :: doubled content := by
  simp [doubled]

theorem plainField_of_stopsAt
    {rest : List Char}
    (h : StopsAt isInField rest) :
    plainField rest = ([], rest) := by
  have hnone := takeWhile_of_stopsAt (List.forall_mem_nil _) h
  exact Prod.ext hnone.1 hnone.2

/-- Behind its opening bar a field goes up to the bar that stands alone. -/
theorem barredField_doubled
    (content : List Char)
    {rest : List Char}
    (h : StopsAt isInField rest) :
    barredField (doubled content ++ '|' :: rest) = (content, rest) := by
  induction content with
  | nil =>
      have hsingle : ∀ s, rest ≠ '|' :: s := by
        rintro s rfl
        have hbar : isInField '|' = false := h
        revert hbar
        decide
      change barredField ('|' :: rest) = ([], rest)
      rw [barredField.eq_3 rest hsingle, plainField_of_stopsAt h]
  | cons c content ih =>
      by_cases hc : c = '|'
      · subst hc
        rw [doubled_cons_bar, List.cons_append, List.cons_append, barredField, ih]
      · rw [doubled_cons_of_ne hc, List.cons_append, barredField.eq_4 _ _ (by simp [hc]) hc, ih]

/-- A field between bars is read as its content. -/
theorem field_barred
    (content : List Char)
    {rest : List Char}
    (h : StopsAt isInField rest) :
    field (barred content ++ rest) = (content, rest) := by
  rw [barred, List.cons_append, List.append_assoc, List.singleton_append, field,
    barredField_doubled content h]

end Fields

section Records

theorem fields_of_comma
    {s rest : List Char}
    {first : List Char}
    (h : field s = (first, ',' :: rest)) :
    fields s = (first :: (fields rest).1, (fields rest).2) := by
  rw [fields]
  split
  · next rest' heq =>
      rw [h] at heq
      cases heq
      rw [h]
  · next hnone =>
      rw [h] at hnone
      exact absurd rfl (hnone rest)

theorem fields_of_no_comma
    {s rest : List Char}
    {last : List Char}
    (h : field s = (last, rest))
    (hrest : ∀ more, rest ≠ ',' :: more) :
    fields s = ([last], rest) := by
  rw [fields]
  split
  · next more heq =>
      rw [h] at heq
      exact absurd heq (hrest more)
  · rw [h]

/-- What ends a line ends a field. -/
theorem stopsAt_isInField
    {rest : List Char}
    (h : StopsAt (!isLineEnd ·) rest) :
    StopsAt isInField rest := by
  refine h.mono fun c hc => ?_
  rw [isInField, Bool.and_eq_true] at hc
  exact hc.2

/-- A record is read up to the end of its line. -/
theorem fields_recordText
    {record : List (List Char)}
    (hne : record ≠ [])
    {rest : List Char}
    (hrest : StopsAt (!isLineEnd ·) rest) :
    fields (recordText record ++ rest) = (record, rest) := by
  induction record with
  | nil =>
      exact absurd rfl hne
  | cons content record ih =>
      cases record with
      | nil =>
          have hfield := field_barred content (stopsAt_isInField hrest)
          have hnocomma : ∀ more, rest ≠ ',' :: more := by
            rintro more rfl
            have hcomma : (!isLineEnd ',') = false := hrest
            revert hcomma
            decide
          rw [recordText, List.map_singleton, List.intercalate_singleton]
          exact fields_of_no_comma hfield hnocomma
      | cons next record =>
          have hcomma : StopsAt isInField (',' :: (recordText (next :: record) ++ rest)) :=
            (by decide : isInField ',' = false)
          have hfield := field_barred content hcomma
          have htext : recordText (content :: next :: record) ++ rest =
              barred content ++ ',' :: (recordText (next :: record) ++ rest) := by
            rw [recordText, List.map_cons, List.map_cons, List.intercalate_cons_cons,
              List.append_assoc, List.append_assoc]
            rfl
          rw [htext, fields_of_comma hfield, ih (List.cons_ne_nil _ _)]

theorem exists_recordText_eq_bar
    {record : List (List Char)}
    (hne : record ≠ []) :
    ∃ s, recordText record = '|' :: s := by
  obtain ⟨content, record, rfl⟩ := List.exists_cons_of_ne_nil hne
  cases record with
  | nil =>
      exact ⟨_, by rw [recordText, List.map_singleton, List.intercalate_singleton, barred]⟩
  | cons next record =>
      refine ⟨doubled content ++ ['|'] ++ ([','] ++ recordText (next :: record)), ?_⟩
      rw [recordText, List.map_cons, List.map_cons, List.intercalate_cons_cons, barred]
      simp [recordText]

/-- The records of a text, with the line ends in front of it passed over. -/
theorem recordsOf_eq (s : List Char) :
    recordsOf s =
      match s.dropWhile isLineEnd with
      | [] => []
      | c :: rest =>
          match (fields (c :: rest)).2 with
          | [] => [(fields (c :: rest)).1]
          | _ :: after => (fields (c :: rest)).1 :: recordsOf after := by
  rw [recordsOf]
  split
  · next hstart =>
      rw [hstart]
  · next c rest hstart =>
      rw [hstart]
      dsimp only
      split
      · next hstop =>
          rw [hstop]
      · next hstop =>
          rw [hstop]

/-- A line end in front of a text holds no record. -/
theorem recordsOf_lineEnd_cons
    {c : Char}
    (hc : isLineEnd c = true)
    (s : List Char) :
    recordsOf (c :: s) = recordsOf s := by
  have hdrop : (c :: s).dropWhile isLineEnd = s.dropWhile isLineEnd :=
    List.dropWhile_cons_of_pos hc
  rw [recordsOf_eq, hdrop, ← recordsOf_eq]

/-- The record at the front of a text is read first. -/
theorem recordsOf_of_fields
    {s rest : List Char}
    {c d : Char}
    {record : List (List Char)}
    (hstart : isLineEnd c = false)
    (hfields : fields (c :: s) = (record, d :: rest)) :
    recordsOf (c :: s) = record :: recordsOf rest := by
  have hdrop : (c :: s).dropWhile isLineEnd = c :: s :=
    List.dropWhile_cons_of_neg (by simp [hstart])
  rw [recordsOf_eq, hdrop]
  dsimp only
  rw [hfields]

/-- Whatever its line end is, a written record is read first. -/
theorem recordsOf_recordText
    {record : List (List Char)}
    (hne : record ≠ [])
    {ending : List Char}
    (hending : ending ∈ lineEnds)
    (text : List Char) :
    recordsOf (recordText record ++ (ending ++ text)) = record :: recordsOf text := by
  obtain ⟨s, hs⟩ := exists_recordText_eq_bar hne
  have hbar : isLineEnd '|' = false := by decide
  have hone : ∀ d, isLineEnd d = true → ∀ rest,
      recordsOf (recordText record ++ d :: rest) = record :: recordsOf rest := by
    intro d hd rest
    have hstop : StopsAt (!isLineEnd ·) (d :: rest) := by simp [StopsAt, hd]
    have hfields := fields_recordText hne hstop
    rw [hs, List.cons_append] at hfields ⊢
    exact recordsOf_of_fields hbar hfields
  simp only [lineEnds, List.mem_cons, List.not_mem_nil, or_false] at hending
  rcases hending with rfl | rfl | rfl
  · exact hone '\n' (by decide) text
  · exact hone '\r' (by decide) text
  · -- The line feed behind a carriage return is one more line end, which holds no record.
    rw [← recordsOf_lineEnd_cons (c := '\n') (by decide) text]
    exact hone '\r' (by decide) ('\n' :: text)

/-- Written records are read back, each with its fields. -/
theorem Written.records_eq
    {all : List (List (List Char))}
    {text : List Char}
    (h : Written all text)
    (hne : ∀ record ∈ all, record ≠ []) :
    records text = all := by
  have hread : recordsOf text = all := by
    induction h with
    | nil =>
        rw [recordsOf]
        rfl
    | cons hending _ ih =>
        rw [recordsOf_recordText (hne _ List.mem_cons_self) hending,
          ih fun record hmem => hne record (List.mem_cons_of_mem _ hmem)]
  have hmark : dropMark text = text := by
    cases h with
    | nil =>
        rfl
    | cons hending hrest =>
        obtain ⟨s, hs⟩ := exists_recordText_eq_bar (hne _ List.mem_cons_self)
        rw [hs]
        rfl
  rw [records, hmark, hread]

theorem fields_ne_nil (s : List Char) : (fields s).1 ≠ [] := by
  rw [fields]
  split <;> exact List.cons_ne_nil _ _

/-- Whatever a text holds, each record that is read from it has a field. -/
theorem ne_nil_of_mem_records
    {record : List (List Char)}
    {text : List Char}
    (h : record ∈ records text) :
    record ≠ [] := by
  rw [records] at h
  generalize dropMark text = s at h
  fun_induction recordsOf s with
  | case1 s hstart =>
      cases h
  | case2 s c rest hstart hstop =>
      rw [List.mem_singleton.1 h]
      exact fields_ne_nil _
  | case3 s c rest hstart d after hstop ih =>
      rcases List.mem_cons.1 h with rfl | h
      · exact fields_ne_nil _
      · exact ih h

end Records

end Csv
end CaptureKit
