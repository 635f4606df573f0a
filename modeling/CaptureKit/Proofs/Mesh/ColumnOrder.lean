import CaptureKit.Mesh.HostCall
import CaptureKit.Proofs.Mesh.RecordRows

/-!
# Tables made of columns

The calls for a vertex read its row by key.  So with distinct keys nothing depends on the order
in which the columns of a table stand, and a column that no register has a lane for can be put
in anywhere, whatever its key is: it need not be distinct from the others.

Main statement: two tables have the same calls if one has the columns of the other in any order
and columns without a register besides (`hostCalls_of_columns`).
-/

namespace CaptureKit
namespace Mesh

open Text

/-- A column has a field in each of the records. -/
structure Column (count : Nat) where
  key : String
  field : Fin count → String

/-- The key is that of a lane of one of the thirteen registers. -/
def IsLaneKey (key : String) : Prop :=
  ∃ n < 13, ∃ lane ∈ [".x", ".y", ".z", ".w"], key = s!"v{n}" ++ lane

section Columns

variable {count : Nat}

/-- The records that columns make up. -/
def recordsOfColumns (columns : List (Column count)) : List (List String) :=
  (List.finRange count).map fun i => columns.map (·.field i)

/-- The table has the columns: it is read as their keys and the records they make up. -/
def HasColumns
    (table : List Char)
    (columns : List (Column count)) :
    Prop :=
  Csv.records table =
    (columns.map (·.key) :: recordsOfColumns columns).map (·.map String.toList)

/-- What the columns have for a record, by key. -/
def pairsAt
    (columns : List (Column count))
    (i : Fin count) :
    List (String × String) :=
  columns.map fun column => (trimmed column.key, column.field i)

variable {columns others added : List (Column count)}

/-- Any columns make up a table, if there are some: all is written between bars. -/
theorem hasColumns_of_written
    {table : List Char}
    (hne : columns ≠ [])
    (h : Csv.Written
      ((columns.map (·.key) :: recordsOfColumns columns).map (·.map String.toList)) table) :
    HasColumns table columns := by
  refine h.records_eq fun record hmem => ?_
  obtain ⟨fields, hfields, rfl⟩ := List.mem_map.1 hmem
  rw [ne_eq, List.map_eq_nil_iff]
  rcases List.mem_cons.1 hfields with rfl | hfields
  · simpa using hne
  · obtain ⟨i, -, rfl⟩ := List.mem_map.1 hfields
    simpa using hne

/-- A table that is read has a column. -/
theorem HasColumns.ne_nil
    {table : List Char}
    (h : HasColumns table columns) :
    columns ≠ [] := by
  rintro rfl
  have hmem : [] ∈ Csv.records table := by
    rw [h]
    exact List.mem_cons_self
  exact Csv.ne_nil_of_mem_records hmem rfl

/-- Each record of columns has its row, unless it holds nothing but one empty field. -/
theorem rows_of_hasColumns
    {table : List Char}
    (h : HasColumns table columns)
    (hrecords : ∀ record ∈ recordsOfColumns columns, record ≠ [""]) :
    rows table =
      .ok ((List.finRange count).map fun i => Row.ofPairs (pairsAt columns i)) := by
  have hkept : (recordsOfColumns columns).filter (· ≠ [""]) = recordsOfColumns columns :=
    List.filter_eq_self.2 fun record hmem => decide_eq_true (hrecords record hmem)
  rw [rows_of_records h, hkept, recordsOfColumns, List.map_map, List.map_map]
  refine congrArg Except.ok (List.map_congr_left fun i _ => ?_)
  rw [Function.comp_apply, List.zip_map', pairsAt]
  rfl

/-- With more columns, or in another order, no record becomes blank. -/
theorem recordsOfColumns_ne_blank
    (hne : columns ≠ [])
    (hrecords : ∀ record ∈ recordsOfColumns columns, record ≠ [""])
    (hothers : others.Perm (columns ++ added)) :
    ∀ record ∈ recordsOfColumns others, record ≠ [""] := by
  intro record hmem hblank
  obtain ⟨i, hi, rfl⟩ := List.mem_map.1 hmem
  have hone : (others.map (·.field i)).Perm ((columns ++ added).map (·.field i)) :=
    hothers.map _
  rw [hblank, List.singleton_perm, List.map_append, eq_comm, List.append_eq_singleton_iff] at hone
  rcases hone with ⟨hnone, -⟩ | ⟨hcolumns, -⟩
  · exact hne (List.map_eq_nil_iff.1 hnone)
  · exact hrecords _ (List.mem_map.2 ⟨i, hi, rfl⟩) hcolumns

end Columns

section Values

variable {pairs : List (String × String)} {key value : String}

/-- Where a key has one value, this is the last. -/
theorem lastValue?_eq_some_iff_mem
    (honly : ∀ first second, (key, first) ∈ pairs → (key, second) ∈ pairs → first = second) :
    lastValue? pairs key = some value ↔ (key, value) ∈ pairs := by
  have hmem : ∀ last, lastValue? pairs key = some last → (key, last) ∈ pairs := by
    intro last hlast
    obtain ⟨front, behind, rfl, -⟩ := lastValue?_eq_some_iff.1 hlast
    simp
  refine ⟨hmem value, fun hvalue => ?_⟩
  cases hlast : lastValue? pairs key with
  | none =>
      rw [lastValue?, List.lookup_eq_none_iff] at hlast
      simpa using hlast _ (List.mem_reverse.2 hvalue)
  | some last =>
      rw [honly last value (hmem last hlast) hvalue]

end Values

section Calls

variable {count : Nat} {columns others added : List (Column count)} {text other : List Char}

/-- The keys that calls are made for are keys of lanes. -/
theorem isLaneKey_of_mem
    {register : String × String}
    (hregister : register ∈ registers)
    {lane : String}
    (hlane : lane ∈ lanes) :
    IsLaneKey (register.1 ++ lane) := by
  obtain ⟨n, hn, hname⟩ := exists_number_of_mem register hregister
  exact ⟨n, hn, lane, hlane, by rw [hname]⟩

/-- A block holds nothing but the values of lanes. -/
theorem rowBlock_congr
    {row row' : Row}
    (h : ∀ key, IsLaneKey key → row.value? key = row'.value? key) :
    rowBlock row = rowBlock row' := by
  have hvalues : ∀ register ∈ registers, laneValues row register.1 = laneValues row' register.1 :=
    fun register hregister => congrArg present
      (List.map_congr_left fun lane hlane => h _ (isLaneKey_of_mem hregister hlane))
  have hcalls : rowCalls row = rowCalls row' :=
    List.filterMap_congr fun register hregister => by
      rw [registerCall?, hvalues register hregister, registerCall?]
  rw [rowBlock, hcalls, rowBlock]

/-- A lane has its value from the one column with its key, wherever this column stands. -/
theorem value?_pairsAt
    (hkeys : (columns.map fun column => trimmed column.key).Nodup)
    (hadded : ∀ column ∈ added, ¬ IsLaneKey (trimmed column.key))
    (hothers : others.Perm (columns ++ added))
    (i : Fin count)
    {key : String}
    (hkey : IsLaneKey key) :
    (Row.ofPairs (pairsAt columns i)).value? key = (Row.ofPairs (pairsAt others i)).value? key := by
  have hsame : ∀ value, (key, value) ∈ pairsAt others i ↔ (key, value) ∈ pairsAt columns i := by
    intro value
    have hforeign : (key, value) ∉ pairsAt added i := by
      intro hmem
      obtain ⟨column, hcolumn, heq⟩ := List.mem_map.1 hmem
      obtain rfl := congrArg Prod.fst heq
      exact hadded column hcolumn hkey
    have hall : (pairsAt others i).Perm (pairsAt columns i ++ pairsAt added i) := by
      simpa [pairsAt] using hothers.map fun column => (trimmed column.key, column.field i)
    rw [hall.mem_iff, List.mem_append, or_iff_left hforeign]
  have honly : ∀ first second,
      (key, first) ∈ pairsAt columns i → (key, second) ∈ pairsAt columns i → first = second := by
    intro first second hfirst hsecond
    obtain ⟨column, hcolumn, heq⟩ := List.mem_map.1 hfirst
    obtain ⟨column', hcolumn', heq'⟩ := List.mem_map.1 hsecond
    obtain ⟨hkey, rfl⟩ := Prod.mk.inj heq
    obtain ⟨hkey', rfl⟩ := Prod.mk.inj heq'
    rw [List.inj_on_of_nodup_map hkeys hcolumn hcolumn' (hkey.trans hkey'.symm)]
  rw [Row.value?_ofPairs, Row.value?_ofPairs]
  refine Option.ext fun value => ?_
  rw [lastValue?_eq_some_iff_mem honly, lastValue?_eq_some_iff_mem, hsame]
  intro first second hfirst hsecond
  exact honly first second ((hsame first).1 hfirst) ((hsame second).1 hsecond)

/-- With distinct keys, the order of the columns makes no difference to the calls, and neither
does any column whose key is not that of a lane. -/
theorem hostCalls_of_columns
    (hkeys : (columns.map fun column => trimmed column.key).Nodup)
    (hrecords : ∀ record ∈ recordsOfColumns columns, record ≠ [""])
    (htext : HasColumns text columns)
    (hadded : ∀ column ∈ added, ¬ IsLaneKey (trimmed column.key))
    (hothers : others.Perm (columns ++ added))
    (hother : HasColumns other others) :
    ∃ calls, hostCalls text = .ok calls ∧ hostCalls other = .ok calls := by
  have hrows := rows_of_hasColumns htext hrecords
  have hrows' := rows_of_hasColumns hother
    (recordsOfColumns_ne_blank htext.ne_nil hrecords hothers)
  refine ⟨_, by rw [hostCalls, hrows]; rfl, ?_⟩
  rw [hostCalls, hrows']
  refine congrArg (Except.ok ∘ String.join) ?_
  rw [List.map_map, List.map_map]
  refine List.map_congr_left fun i _ => ?_
  exact (rowBlock_congr fun key hkey => value?_pairsAt hkeys hadded hothers i hkey).symm

/-- Columns for two records, with keys of which one starts like another. -/
def sampleColumns : List (Column 2) :=
  [⟨" v1.x ", ["1", "4"].get⟩, ⟨"v10.x", ["2", ""].get⟩, ⟨"v0.x", ["3", "5"].get⟩]

/-- A column whose key is not that of a lane, since there is no such register. -/
def sampleForeign : Column 2 :=
  ⟨"v13.x", ["6", "7"].get⟩

/-- The columns in another order, with the foreign one among them. -/
def sampleOthers : List (Column 2) :=
  [⟨"v10.x", ["2", ""].get⟩, sampleForeign, ⟨"v0.x", ["3", "5"].get⟩, ⟨" v1.x ", ["1", "4"].get⟩]

/-- The columns as a table. -/
def sampleText : List Char :=
  "| v1.x |,|v10.x|,|v0.x|\n|1|,|2|,|3|\n|4|,||,|5|\n".toList

/-- The other columns as a table. -/
def sampleOther : List Char :=
  "|v10.x|,|v13.x|,|v0.x|,| v1.x |\n|2|,|6|,|3|,|1|\n||,|7|,|5|,|4|\n".toList

/-- Both tables have the same calls. -/
theorem hostCalls_of_sampleColumns :
    (sampleColumns.map fun column => trimmed column.key).Nodup ∧
    (∀ record ∈ recordsOfColumns sampleColumns, record ≠ [""]) ∧
    HasColumns sampleText sampleColumns ∧
    (∀ column ∈ [sampleForeign], ¬ IsLaneKey (trimmed column.key)) ∧
    sampleOthers.Perm (sampleColumns ++ [sampleForeign]) ∧
    HasColumns sampleOther sampleOthers ∧
    ∃ calls, hostCalls sampleText = .ok calls ∧ hostCalls sampleOther = .ok calls := by
  have hkeys : (sampleColumns.map fun column => trimmed column.key).Nodup := by decide
  have hrecords : ∀ record ∈ recordsOfColumns sampleColumns, record ≠ [""] := by decide
  have hlineEnd : ['\n'] ∈ Csv.lineEnds := by decide
  have htext : HasColumns sampleText sampleColumns :=
    hasColumns_of_written (List.cons_ne_nil _ _)
      (.cons hlineEnd (.cons hlineEnd (.cons hlineEnd .nil)))
  have hother : HasColumns sampleOther sampleOthers :=
    hasColumns_of_written (List.cons_ne_nil _ _)
      (.cons hlineEnd (.cons hlineEnd (.cons hlineEnd .nil)))
  have hforeign : ∀ column ∈ [sampleForeign], ¬ IsLaneKey (trimmed column.key) := by
    have hnone : ∀ n < 13, ∀ lane ∈ [".x", ".y", ".z", ".w"],
        trimmed sampleForeign.key ≠ s!"v{n}" ++ lane := by
      decide +kernel
    intro column hcolumn
    obtain rfl := List.mem_singleton.1 hcolumn
    rintro ⟨n, hn, lane, hlane, hkey⟩
    exact hnone n hn lane hlane hkey
  have hothers : sampleOthers.Perm (sampleColumns ++ [sampleForeign]) :=
    (List.perm_append_singleton _ [_, sampleForeign, _]).trans
      (((List.Perm.swap _ _ []).cons _).cons _)
  exact ⟨hkeys, hrecords, htext, hforeign, hothers, hother,
    hostCalls_of_columns hkeys hrecords htext hforeign hothers hother⟩

end Calls

end Mesh
end CaptureKit
