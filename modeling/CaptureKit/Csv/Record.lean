/-!
# Records of comma separated values

Fields are separated by commas, and records by line ends of any kind.  A field that
starts with a bar goes up to the next single bar, whatever it holds, and there a bar is
written twice.  What follows the closing bar up to the end of the field belongs to it as
it stands.  Empty lines hold no record, and nothing is ever malformed: an open field ends
with the text.
-/

namespace CaptureKit
namespace Csv

/-- A carriage return or a line feed. -/
def isLineEnd (c : Char) : Bool :=
  c == '\r' || c == '\n'

/-- A character that does not end a plain field. -/
def isInField (c : Char) : Bool :=
  c != ',' && !isLineEnd c

/-- A plain field and the rest of the text. -/
def plainField (s : List Char) : List Char × List Char :=
  (s.takeWhile isInField, s.dropWhile isInField)

/-- A field whose opening bar is read, and the rest of the text. -/
def barredField : List Char → List Char × List Char
  | [] => ([], [])
  | '|' :: '|' :: s => ('|' :: (barredField s).1, (barredField s).2)
  | '|' :: s => plainField s
  | c :: s => (c :: (barredField s).1, (barredField s).2)

/-- The field at the front and the rest of the text. -/
def field : List Char → List Char × List Char
  | '|' :: s => barredField s
  | s => plainField s

theorem plainField_rest_le (s : List Char) :
    (plainField s).2.length ≤ s.length :=
  (List.dropWhile_sublist _).length_le

theorem barredField_rest_le (s : List Char) :
    (barredField s).2.length ≤ s.length := by
  fun_induction barredField s with
  | case1 => simp
  | case2 s ih => simp only [List.length_cons]; omega
  | case3 s _ =>
      have := plainField_rest_le s
      simp only [List.length_cons]
      omega
  | case4 c s _ _ ih => simp only [List.length_cons]; omega

/-- A field takes nothing but characters from the front. -/
theorem field_rest_le (s : List Char) :
    (field s).2.length ≤ s.length := by
  unfold field
  split
  · next s =>
      have := barredField_rest_le s
      simp only [List.length_cons]
      omega
  · exact plainField_rest_le _

/-- The fields up to the end of the record, and the rest of the text. -/
def fields (s : List Char) : List (List Char) × List Char :=
  match _h : (field s).2 with
  | ',' :: rest => ((field s).1 :: (fields rest).1, (fields rest).2)
  | rest => ([(field s).1], rest)
termination_by s.length
decreasing_by
  all_goals
    have := field_rest_le s
    rw [_h, List.length_cons] at this
    omega

theorem fields_rest_le (s : List Char) :
    (fields s).2.length ≤ s.length := by
  fun_induction fields s with
  | case1 s rest h ih1 =>
      have := field_rest_le s
      rw [h] at this
      simp only [List.length_cons] at this
      exact Nat.le_trans ih1 (by omega)
  | case2 s h =>
      exact field_rest_le s

/-- The records of a text. -/
def recordsOf (s : List Char) : List (List (List Char)) :=
  match _start : s.dropWhile isLineEnd with
  | [] => []
  | c :: rest =>
      match _stop : (fields (c :: rest)).2 with
      | [] => [(fields (c :: rest)).1]
      | _ :: after => (fields (c :: rest)).1 :: recordsOf after
termination_by s.length
decreasing_by
  have h1 := (List.dropWhile_sublist (l := s) isLineEnd).length_le
  have h2 := fields_rest_le (c :: rest)
  rw [_start] at h1
  rw [_stop] at h2
  simp only [List.length_cons] at h1 h2
  omega

/-- A text without one byte order mark at its start. -/
def dropMark : List Char → List Char
  | '\uFEFF' :: s => s
  | s => s

/-- The records of a file. -/
def records (text : List Char) : List (List (List Char)) :=
  recordsOf (dropMark text)

end Csv
end CaptureKit
