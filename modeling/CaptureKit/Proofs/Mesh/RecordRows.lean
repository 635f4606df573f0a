import CaptureKit.Proofs.Csv.OctetReading
import CaptureKit.Proofs.Mesh.TableRoundTrip
import Mathlib.Data.List.TakeWhile

/-!
# The rows of any table

Every text is a table, whatever bars it has and wherever it breaks off; only without any record
there is no header, and this is the one way to fail.  Keys may stand in the header more than
once, and records may be shorter than the header.  A row has each key that its record reaches
once, in the order in which the keys come first, with the value that comes last.

Main statement: when a text has no rows, and what its rows are otherwise (`rows_exact`).
-/

namespace CaptureKit
namespace Mesh

open Text

/-- The last value of a key among pairs. -/
def lastValue?
    (pairs : List (String × String))
    (key : String) :
    Option String :=
  pairs.reverse.lookup key

/-- The table is empty but for line ends; one byte order mark may stand in front of them. -/
def HoldsNoRecord (table : List Char) : Prop :=
  ∃ ends, (∀ c ∈ ends, c = '\r' ∨ c = '\n') ∧ (table = ends ∨ table = '\uFEFF' :: ends)

/-- The row has the keys that the record reaches, each at its first place in the header and with
the value at its last. -/
structure IsRowOf
    (header record : List String)
    (row : Row) :
    Prop where
  keys : row.map Prod.fst = ((header.map trimmed).take record.length).eraseDups
  values : ∀ key value, (key, value) ∈ row → ∃ i,
    (header.map trimmed)[i]? = some key ∧ record[i]? = some value ∧
      ∀ j, i < j → (header.map trimmed)[j]? = some key → record.length ≤ j

section Pairs

theorem ofPairs_append_singleton
    (pairs : List (String × String))
    (pair : String × String) :
    Row.ofPairs (pairs ++ [pair]) = (Row.ofPairs pairs).put pair.1 pair.2 := by
  rw [Row.ofPairs, List.foldl_append]
  rfl

theorem lastValue?_append_singleton
    (pairs : List (String × String))
    (pair : String × String)
    (key : String) :
    lastValue? (pairs ++ [pair]) key =
      if key = pair.1 then some pair.2 else lastValue? pairs key := by
  rw [lastValue?, List.reverse_append, List.reverse_singleton, List.singleton_append,
    List.lookup_cons]
  by_cases h : key = pair.1
  · simp [h]
  · rw [if_neg h, beq_eq_false_iff_ne.2 h, lastValue?]

/-- A key that is put stays in its place, or comes at the end. -/
theorem Row.map_fst_put
    (row : Row)
    (key value : String) :
    (row.put key value).map Prod.fst =
      if key ∈ row.map Prod.fst then row.map Prod.fst else row.map Prod.fst ++ [key] := by
  induction row with
  | nil =>
      rfl
  | cons pair row ih =>
      obtain ⟨k, v⟩ := pair
      by_cases hk : k = key
      · simp [Row.put, hk]
      · have hk' : key ≠ k := fun h => hk h.symm
        rw [Row.put, if_neg hk, List.map_cons, ih]
        simp only [List.map_cons, List.mem_cons, hk', false_or]
        split <;> simp

/-- The keys of a row come in the order in which they stand first. -/
theorem Row.map_fst_ofPairs (pairs : List (String × String)) :
    (Row.ofPairs pairs).map Prod.fst = (pairs.map Prod.fst).eraseDups := by
  induction pairs using List.reverseRecOn with
  | nil =>
      rfl
  | append_singleton pairs pair ih =>
      rw [ofPairs_append_singleton, Row.map_fst_put, ih, List.map_append, List.map_singleton,
        List.eraseDups_append]
      split
      · next hmem =>
          simp [List.removeAll, List.mem_eraseDups.1 hmem]
      · next hmem =>
          rw [List.mem_eraseDups] at hmem
          simp [List.removeAll, hmem, List.eraseDups_cons]

/-- A key has the value that stands last. -/
theorem Row.value?_ofPairs
    (pairs : List (String × String))
    (key : String) :
    (Row.ofPairs pairs).value? key = lastValue? pairs key := by
  induction pairs using List.reverseRecOn with
  | nil =>
      rfl
  | append_singleton pairs pair ih =>
      rw [ofPairs_append_singleton, Row.value?_put, lastValue?_append_singleton, ih]

/-- A row has each key once. -/
theorem Row.nodup_ofPairs (pairs : List (String × String)) :
    ((Row.ofPairs pairs).map Prod.fst).Nodup := by
  induction pairs using List.reverseRecOn with
  | nil =>
      exact .nil
  | append_singleton pairs pair ih =>
      rw [ofPairs_append_singleton, Row.map_fst_put]
      split
      · exact ih
      · next hnew =>
          refine List.nodup_append.2 ⟨ih, by simp, ?_⟩
          rintro key hkey _ hlast rfl
          exact hnew (List.mem_singleton.1 hlast ▸ hkey)

/-- The values of a row are those that its keys have. -/
theorem Row.value?_eq_some_of_mem
    {row : Row}
    (hnodup : (row.map Prod.fst).Nodup)
    {key value : String}
    (hmem : (key, value) ∈ row) :
    row.value? key = some value := by
  induction row with
  | nil =>
      cases hmem
  | cons pair row ih =>
      rw [List.map_cons, List.nodup_cons] at hnodup
      obtain ⟨hnew, hrest⟩ := hnodup
      rw [Row.value?, List.lookup_cons]
      rcases List.mem_cons.1 hmem with rfl | hmem
      · simp
      · have hne : (key == pair.1) = false := by
          rw [beq_eq_false_iff_ne]
          rintro rfl
          exact hnew (List.mem_map.2 ⟨_, hmem, rfl⟩)
        rw [hne]
        exact ih hrest hmem

/-- The last value of a key stands in front of pairs with other keys. -/
theorem lastValue?_eq_some_iff
    {pairs : List (String × String)}
    {key value : String} :
    lastValue? pairs key = some value ↔
      ∃ front behind, pairs = front ++ (key, value) :: behind ∧ ∀ pair ∈ behind, pair.1 ≠ key := by
  rw [lastValue?, List.lookup_eq_some_iff]
  constructor
  · rintro ⟨behind, front, hpairs, hbehind⟩
    refine ⟨front.reverse, behind.reverse, ?_, fun pair hmem heq => ?_⟩
    · rw [← List.reverse_reverse pairs, hpairs]
      simp
    · simpa [heq] using hbehind pair (List.mem_reverse.1 hmem)
  · rintro ⟨front, behind, rfl, hbehind⟩
    refine ⟨behind.reverse, front.reverse, by simp, fun pair hmem => ?_⟩
    rw [bne_iff_ne]
    exact (hbehind pair (List.mem_reverse.1 hmem)).symm

/-- The last value of a key has its place, and further on the key stands only where there is no
value. -/
theorem exists_getElem?_of_lastValue?
    {keys values : List String}
    {key value : String}
    (h : lastValue? (keys.zip values) key = some value) :
    ∃ i, keys[i]? = some key ∧ values[i]? = some value ∧
      ∀ j, i < j → keys[j]? = some key → values.length ≤ j := by
  obtain ⟨front, behind, hpairs, hbehind⟩ := lastValue?_eq_some_iff.1 h
  have hplace : (keys.zip values)[front.length]? = some (key, value) := by
    rw [hpairs, List.getElem?_append_right (Nat.le_refl _), Nat.sub_self]
    rfl
  obtain ⟨hkey, hvalue⟩ := List.getElem?_zip_eq_some.1 hplace
  refine ⟨front.length, hkey, hvalue, fun j hj hagain => ?_⟩
  by_contra hless
  obtain ⟨later, hlater⟩ : ∃ later, values[j]? = some later :=
    ⟨_, List.getElem?_eq_getElem (Nat.lt_of_not_le hless)⟩
  have hmem : (key, later) ∈ behind := by
    have hpair : (keys.zip values)[j]? = some (key, later) :=
      List.getElem?_zip_eq_some.2 ⟨hagain, hlater⟩
    obtain ⟨k, rfl⟩ := Nat.exists_eq_add_of_lt hj
    rw [hpairs, List.getElem?_append_right (by omega), Nat.add_assoc, Nat.add_sub_cancel_left,
      List.getElem?_cons_succ] at hpair
    exact List.mem_of_getElem? hpair
  exact hbehind _ hmem rfl

end Pairs

section Rows

/-- Where the header is longer than the record, its last keys are not reached. -/
theorem map_fst_zip
    (keys values : List String) :
    (keys.zip values).map Prod.fst = keys.take values.length := by
  rw [List.zip_eq_zip_take_min, List.map_fst_zip, Nat.min_comm, ← List.take_take]
  all_goals simp

theorem isRowOf_ofPairs
    (header record : List String) :
    IsRowOf header record (Row.ofPairs ((header.map trimmed).zip record)) where
  keys := by
    rw [Row.map_fst_ofPairs, map_fst_zip]
  values := by
    intro key value hmem
    have hvalue := Row.value?_eq_some_of_mem (Row.nodup_ofPairs _) hmem
    rw [Row.value?_ofPairs] at hvalue
    exact exists_getElem?_of_lastValue? hvalue

/-- A record has one row only. -/
theorem IsRowOf.unique
    {header record : List String}
    {row row' : Row}
    (h : IsRowOf header record row)
    (h' : IsRowOf header record row') :
    row = row' := by
  have hkeys : row.map Prod.fst = row'.map Prod.fst := h.keys.trans h'.keys.symm
  refine List.ext_getElem (by simpa using congrArg List.length hkeys) fun k hk hk' => ?_
  have hkey : row[k].1 = row'[k].1 := by
    simpa [hk, hk'] using congrArg (·[k]?) hkeys
  obtain ⟨i, hi, hvalue, hlast⟩ := h.values _ _ (List.getElem_mem hk)
  obtain ⟨i', hi', hvalue', hlast'⟩ := h'.values _ _ (List.getElem_mem hk')
  have hreached := (List.getElem?_eq_some_iff.1 hvalue).1
  have hreached' := (List.getElem?_eq_some_iff.1 hvalue').1
  -- Either of two places at which the key is reached last would be behind the other.
  have hplace : i = i' := by
    rcases Nat.lt_trichotomy i i' with hless | heq | hless
    · exact absurd (hlast i' hless (hkey ▸ hi')) (Nat.not_le_of_lt hreached')
    · exact heq
    · exact absurd (hlast' i hless (hkey ▸ hi)) (Nat.not_le_of_lt hreached)
  subst hplace
  exact Prod.ext hkey (Option.some.inj (hvalue.symm.trans hvalue'))

end Rows

section Tables

variable {header : List String} {records : List (List String)} {table : List Char}

theorem recordsOf_eq_nil_iff (s : List Char) :
    Csv.recordsOf s = [] ↔ ∀ c ∈ s, c = '\r' ∨ c = '\n' := by
  have hends : s.dropWhile Csv.isLineEnd = [] ↔ ∀ c ∈ s, c = '\r' ∨ c = '\n' := by
    rw [List.dropWhile_eq_nil_iff]
    simp [Csv.isLineEnd]
  rw [← hends, Csv.recordsOf]
  split
  · next hstart => simp [hstart]
  · next hstart => split <;> simp [hstart]

/-- A table has no records exactly if there is nothing but line ends in it. -/
theorem records_eq_nil_iff (table : List Char) :
    Csv.records table = [] ↔ HoldsNoRecord table := by
  rw [Csv.records, recordsOf_eq_nil_iff]
  constructor
  · intro h
    refine ⟨_, h, ?_⟩
    rw [Csv.dropMark.eq_def]
    split
    · exact .inr rfl
    · exact .inl rfl
  · rintro ⟨ends, hends, rfl | rfl⟩
    · have hsame : Csv.dropMark table = table := by
        rw [Csv.dropMark]
        rintro rest rfl
        simpa using hends '\uFEFF' List.mem_cons_self
      rwa [hsame]
    · exact hends

theorem isBlankRecord_map (record : List String) :
    isBlankRecord (record.map String.toList) = decide (record = [""]) := by
  have hinjective : Function.Injective (List.map String.toList) :=
    List.map_injective_iff.2 fun _ _ => String.toList_inj.1
  rw [isBlankRecord, Bool.eq_iff_iff, beq_iff_eq, decide_eq_true_iff]
  exact hinjective.eq_iff (b := [""])

/-- The rows of a table whose records are known. -/
theorem rows_of_records (h : Csv.records table = (header :: records).map (·.map String.toList)) :
    rows table = .ok ((records.filter (· ≠ [""])).map fun record =>
      Row.ofPairs ((header.map trimmed).zip record)) := by
  have hrow : ∀ record : List String, rowOf (header.map trimmed) (record.map String.toList) =
      Row.ofPairs ((header.map trimmed).zip record) := by
    intro record
    simp [rowOf, List.map_map, Function.comp_def]
  have hkeys : (header.map String.toList).map (fun key => String.ofList (trim key)) =
      header.map trimmed := List.map_map
  rw [rows, h, List.map_cons]
  dsimp only
  rw [hkeys, List.filter_map, List.map_map]
  have hkept : records.filter ((!isBlankRecord ·) ∘ (·.map String.toList)) =
      records.filter (· ≠ [""]) :=
    List.filter_congr fun record _ => by
      rw [Function.comp_apply, isBlankRecord_map, decide_not]
  rw [hkept]
  exact congrArg Except.ok (List.map_congr_left fun record _ => hrow record)

/-- Every text is a table with some records, and its fields are texts even if they are cut out
of the bytes of the file.  It has no rows exactly if it holds no record, and otherwise its rows
are those of the records behind the first, without the blank ones. -/
theorem rows_exact (table : List Char) :
    (∀ fault, rows table = .error fault ↔ fault = .noHeader ∧ HoldsNoRecord table) ∧
    ∃ all, Csv.readOctets (encode (String.ofList table)) = .ok all ∧
      Csv.records table = all.map (·.map String.toList) ∧
      ∀ found, rows table = .ok found ↔ ∃ header records, all = header :: records ∧
        List.Forall₂ (IsRowOf header) (records.filter (· ≠ [""])) found := by
  have hall : Csv.records table =
      ((Csv.records table).map (·.map String.ofList)).map (·.map String.toList) := by
    simp [List.map_map, Function.comp_def]
  have hread := Csv.readOctets_encode table
  generalize (Csv.records table).map (·.map String.ofList) = all at hall hread
  cases all with
  | nil =>
      have hnone : rows table = .error .noHeader := by
        rw [rows, hall]
        rfl
      have hempty := (records_eq_nil_iff table).1 hall
      refine ⟨fun fault => ?_, [], hread, hall, fun found => ?_⟩
      · rw [hnone, Except.error.injEq, and_iff_left hempty, eq_comm]
      · simp [hnone]
  | cons header records =>
      have hrows := rows_of_records hall
      have hrecord : ¬ HoldsNoRecord table := by
        rw [← records_eq_nil_iff, hall]
        exact List.cons_ne_nil _ _
      refine ⟨fun fault => ?_, header :: records, hread, hall, fun found => ?_⟩
      · simp [hrows, hrecord]
      · rw [hrows]
        have hmade : List.Forall₂ (IsRowOf header) (records.filter (· ≠ [""]))
            ((records.filter (· ≠ [""])).map fun record =>
              Row.ofPairs ((header.map trimmed).zip record)) := by
          rw [List.forall₂_map_right_iff, List.forall₂_same]
          exact fun record _ => isRowOf_ofPairs header record
        constructor
        · intro hfound
          obtain rfl := Except.ok.inj hfound
          exact ⟨header, records, rfl, hmade⟩
        · rintro ⟨_, _, heq, hfound⟩
          obtain ⟨rfl, rfl⟩ := List.cons.inj heq
          have hunique : Relator.RightUnique (IsRowOf header) := fun _ _ _ => IsRowOf.unique
          exact congrArg Except.ok (List.right_unique_forall₂' hunique hmade hfound)

end Tables

end Mesh
end CaptureKit
