import CaptureKit.Csv.Record
import CaptureKit.Report
import CaptureKit.Text.Blank

/-!
# Rows of a vertex table

The first record of a table gives the keys; each later record gives one row.  A row
keeps its keys in the order of the table.  Where a key stands twice, it keeps its first
place and takes the last value.
-/

namespace CaptureKit
namespace Mesh

open Text

/-- Values by key, in the order in which the keys came. -/
abbrev Row := List (String × String)

/-- Gives a key a value, in its old place if it has one and else at the end. -/
def Row.put : Row → String → String → Row
  | [], key, value => [(key, value)]
  | (k, v) :: row, key, value =>
      if k = key then (k, value) :: row else (k, v) :: Row.put row key value

/-- The row of pairs put in one after the other. -/
def Row.ofPairs (pairs : List (String × String)) : Row :=
  pairs.foldl (fun row pair => row.put pair.1 pair.2) []

/-- The value of a key. -/
def Row.value? (row : Row) (key : String) : Option String :=
  row.lookup key

/-- After putting, a key has the value that was put; the other keys keep theirs. -/
theorem Row.value?_put
    (row : Row)
    (key value other : String) :
    (row.put key value).value? other =
      if other = key then some value else row.value? other := by
  induction row with
  | nil =>
      by_cases h : other = key
      · simp [Row.put, Row.value?, h]
      · have h' : (other == key) = false := by simpa using h
        simp [Row.put, Row.value?, List.lookup_cons, h, h']
  | cons pair row ih =>
      obtain ⟨k, v⟩ := pair
      simp only [Row.value?] at ih
      by_cases hk : k = key
      · subst hk
        by_cases h : other = k
        · simp [Row.put, Row.value?, h]
        · have h' : (other == k) = false := by simpa using h
          simp [Row.put, Row.value?, List.lookup_cons, h, h']
      · by_cases h : other = k
        · subst h
          simp [Row.put, Row.value?, hk]
        · have h' : (other == k) = false := by simpa using h
          simp [Row.put, Row.value?, List.lookup_cons, hk, h', ih]

/-- Why a table has no rows. -/
inductive TableFault
  /-- There is no record to take the keys from. -/
  | noHeader
  deriving DecidableEq, Repr

/-- The wording of a fault. -/
def TableFault.message : TableFault → String
  | .noHeader => "expected a header row but the file is empty"

/-- A fault of a table has no cause of its own. -/
def TableFault.report (fault : TableFault) : Report :=
  .plain fault.message

/-- A record that holds nothing but one empty field. -/
def isBlankRecord (record : List (List Char)) : Bool :=
  record == [[]]

/-- The row of a record: keys and fields are paired as far as both go. -/
def rowOf
    (keys : List String)
    (record : List (List Char)) :
    Row :=
  Row.ofPairs (keys.zip (record.map String.ofList))

/-- The rows of a table. -/
def rows (table : List Char) : Except TableFault (List Row) :=
  match Csv.records table with
  | [] => .error .noHeader
  | header :: records =>
      let keys := header.map fun key => String.ofList (trim key)
      .ok ((records.filter (!isBlankRecord ·)).map (rowOf keys))

end Mesh
end CaptureKit
