import CaptureKit.Mesh.Row
import CaptureKit.Proofs.Csv.Writing
import Mathlib.Data.List.Induction
import Mathlib.Data.List.Nodup

/-!
# Tables that are written with bars

A table of keys and records is written with every key and every field between bars, so that
fields may hold anything.  Each record gives a row: the keys, without the white space at their
ends, with the fields in the same places.  A record that is too short leaves the last keys out,
and the fields of one that is too long are dropped.  A record that holds nothing but one empty
field gives no row, and is no record of a table here.

Main statement: reading the table gives a row for each record (`rows_of_written`).
-/

namespace CaptureKit
namespace Mesh

open Text

/-- A key without the white space at its ends. -/
def trimmed (key : String) : String :=
  String.ofList (trim key.toList)

section Rows

theorem Row.put_of_not_mem
    {row : Row}
    {key : String}
    (h : key ∉ row.map Prod.fst)
    (value : String) :
    row.put key value = row ++ [(key, value)] := by
  induction row with
  | nil =>
      rfl
  | cons pair row ih =>
      obtain ⟨k, v⟩ := pair
      rw [List.map_cons, List.mem_cons, not_or] at h
      obtain ⟨hfirst, hrest⟩ := h
      rw [Row.put, if_neg fun heq => hfirst heq.symm, ih hrest, List.cons_append]

/-- With distinct keys a row is made of the pairs as they are. -/
theorem Row.ofPairs_of_nodup
    {pairs : List (String × String)}
    (h : (pairs.map Prod.fst).Nodup) :
    Row.ofPairs pairs = pairs := by
  induction pairs using List.reverseRecOn with
  | nil =>
      rfl
  | append_singleton pairs pair ih =>
      rw [List.map_append, List.map_singleton, List.nodup_append] at h
      obtain ⟨hpairs, -, hlast⟩ := h
      have hnew : pair.1 ∉ pairs.map Prod.fst := by
        intro hmem
        exact hlast _ hmem _ (List.mem_singleton.2 rfl) rfl
      have hfront : pairs.foldl (fun row pair => Row.put row pair.1 pair.2) [] = pairs := ih hpairs
      rw [Row.ofPairs, List.foldl_append, hfront, List.foldl_cons, List.foldl_nil,
        Row.put_of_not_mem hnew]

theorem map_fst_zip_sublist
    (keys values : List String) :
    ((keys.zip values).map Prod.fst).Sublist keys := by
  induction keys generalizing values with
  | nil =>
      exact List.Sublist.refl _
  | cons key keys ih =>
      cases values with
      | nil =>
          exact List.nil_sublist _
      | cons value values =>
          exact (ih values).cons_cons key

/-- A key has the value in its place, if there is one. -/
theorem Row.value?_zip
    {keys : List String}
    (h : keys.Nodup)
    (values : List String)
    {i : Nat}
    (hi : i < keys.length) :
    Row.value? (keys.zip values) keys[i] = values[i]? := by
  induction keys generalizing values i with
  | nil =>
      exact absurd hi (Nat.not_lt_zero i)
  | cons key keys ih =>
      obtain ⟨hkey, hkeys⟩ := List.nodup_cons.1 h
      cases values with
      | nil =>
          rfl
      | cons value values =>
          cases i with
          | zero =>
              simp [Row.value?]
          | succ i =>
              have hi' : i < keys.length := Nat.lt_of_succ_lt_succ hi
              have hne : (keys[i] == key) = false := by
                rw [beq_eq_false_iff_ne]
                exact fun heq => hkey (heq ▸ List.getElem_mem hi')
              have hrest := ih hkeys values hi'
              rw [Row.value?] at hrest ⊢
              rw [List.zip_cons_cons, List.getElem_cons_succ, List.lookup_cons, hne,
                List.getElem?_cons_succ]
              exact hrest

end Rows

section Tables

variable {header : List String} {records : List (List String)} {text : List Char}

/-- A table whose keys and fields are written between bars is read as one row for each record:
in the order of the header each key has the field in its place, as it is, and a key without a
field in its place is missing. -/
theorem rows_of_written
    (hheader : header ≠ [])
    (hkeys : (header.map trimmed).Nodup)
    (hrecords : ∀ record ∈ records, record ≠ [] ∧ record ≠ [""])
    (htext : Csv.Written ((header :: records).map (·.map String.toList)) text) :
    rows text = .ok (records.map fun record => (header.map trimmed).zip record) ∧
    ∀ record ∈ records, ∀ (i : Nat) (hi : i < header.length),
      Row.value? ((header.map trimmed).zip record) (trimmed header[i]) = record[i]? := by
  have hread : Csv.records text = (header :: records).map (·.map String.toList) := by
    refine htext.records_eq fun record hmem => ?_
    obtain ⟨fields, hfields, rfl⟩ := List.mem_map.1 hmem
    rw [ne_eq, List.map_eq_nil_iff]
    rcases List.mem_cons.1 hfields with rfl | hfields
    · exact hheader
    · exact (hrecords fields hfields).1
  have hkept : (records.map (·.map String.toList)).filter (!isBlankRecord ·) =
      records.map (·.map String.toList) := by
    rw [List.filter_eq_self]
    intro record hmem
    obtain ⟨fields, hfields, rfl⟩ := List.mem_map.1 hmem
    rw [Bool.not_eq_true', isBlankRecord, beq_eq_false_iff_ne]
    intro hblank
    obtain ⟨field, hfield, hempty⟩ := List.map_eq_singleton_iff.1 hblank
    exact (hrecords fields hfields).2 (by rw [hfield, String.toList_eq_nil_iff.1 hempty])
  have hrow : ∀ record : List String,
      rowOf (header.map trimmed) (record.map String.toList) = (header.map trimmed).zip record := by
    intro record
    have hfields : (record.map String.toList).map String.ofList = record := by
      simp [List.map_map, Function.comp_def]
    rw [rowOf, hfields,
      Row.ofPairs_of_nodup (hkeys.sublist (map_fst_zip_sublist _ record))]
  constructor
  · rw [rows, hread, List.map_cons]
    dsimp only
    rw [hkept, List.map_map, List.map_map]
    exact congrArg Except.ok (List.map_congr_left fun record _ => hrow record)
  · intro record _ i hi
    have hi' : i < (header.map trimmed).length := by rwa [List.length_map]
    have hvalue := Row.value?_zip hkeys record hi'
    rwa [List.getElem_map] at hvalue

/-- A key with white space around it, and records with line ends of all three kinds: one with
the characters of the format inside its fields, one that is too short, and one that is too
long. -/
def sampleTable : String :=
  "| v0.x|,|v0.y|\r\n|1,||2\n|,||\r| |\n|a|,|b|,|c|"

/-- The three records give three rows. -/
theorem rows_of_sampleTable :
    [" v0.x", "v0.y"] ≠ [] ∧
    ([" v0.x", "v0.y"].map trimmed).Nodup ∧
    (∀ record ∈ [["1,|2\n", ""], [" "], ["a", "b", "c"]], record ≠ [] ∧ record ≠ [""]) ∧
    Csv.Written (([" v0.x", "v0.y"] :: [["1,|2\n", ""], [" "], ["a", "b", "c"]]).map
      (·.map String.toList)) (sampleTable ++ "\n").toList ∧
    rows (sampleTable ++ "\n").toList =
      .ok [[("v0.x", "1,|2\n"), ("v0.y", "")], [("v0.x", " ")], [("v0.x", "a"), ("v0.y", "b")]] := by
  have hkeys : ([" v0.x", "v0.y"].map trimmed).Nodup := by decide
  have hrecords : ∀ record ∈ [["1,|2\n", ""], [" "], ["a", "b", "c"]],
      record ≠ [] ∧ record ≠ [""] := by
    decide
  have htext : Csv.Written
      (([" v0.x", "v0.y"] :: [["1,|2\n", ""], [" "], ["a", "b", "c"]]).map (·.map String.toList))
      (sampleTable ++ "\n").toList :=
    .cons (show ['\r', '\n'] ∈ Csv.lineEnds by decide)
      (.cons (show ['\r'] ∈ Csv.lineEnds by decide)
        (.cons (show ['\n'] ∈ Csv.lineEnds by decide)
          (.cons (show ['\n'] ∈ Csv.lineEnds by decide) .nil)))
  have hrows := (rows_of_written (List.cons_ne_nil _ _) hkeys hrecords htext).1
  exact ⟨List.cons_ne_nil _ _, hkeys, hrecords, htext, hrows.trans (by rfl)⟩

end Tables

end Mesh
end CaptureKit
