import CaptureKit.Mesh.HostCall
import CaptureKit.Proofs.Listing.Reading
import CaptureKit.Proofs.Mesh.RecordRows
import CaptureKit.Proofs.Text.Matching
import Mathlib.Data.List.Forall2

/-!
# Reading host calls back

The calls of a row stand one a line, and no line of them is empty, so an empty line tells where
the row ends, also if it has no calls.  In a line the setter goes up to the first parenthesis,
and commas part the values; what else a value may hold does no harm, not even white space in
front of it or nothing at all.

Main statement: the calls for two tables agree exactly if their rows have the same values for
all registers, and they are read off the lines (`hostCalls_eq_iff`).
-/

namespace CaptureKit
namespace Mesh

open Listing Text

/-- A call with what it is given. -/
structure SetterCall where
  setter : String
  values : List String

/-- The line of a call. -/
def SetterCall.line (c : SetterCall) : String :=
  call c.setter c.values

/-- Calls, one a line, and an empty line. -/
def blockText (block : List SetterCall) : String :=
  String.join (block.map fun c => c.line ++ "\n") ++ "\n"

/-- The values of a register are those of its lanes in order, up to the first that is missing. -/
def IsValuesOf
    (row : Row)
    (register : String)
    (values : List String) :
    Prop :=
  ∃ rest, [".x", ".y", ".z", ".w"].map (fun lane => row.value? (register ++ lane)) =
      values.map some ++ rest ∧
    (rest = [] ∨ rest.head? = some none)

/-- No value of the thirteen registers has a comma or a line feed. -/
def HasPlainValues (row : Row) : Prop :=
  ∀ n < 13, ∀ values, IsValuesOf row s!"v{n}" values →
    ∀ value ∈ values, ',' ∉ value.toList ∧ '\n' ∉ value.toList

/-- The rows have the same values for each of the thirteen registers. -/
def HaveSameValues (row row' : Row) : Prop :=
  ∀ n < 13, ∀ values, IsValuesOf row s!"v{n}" values ↔ IsValuesOf row' s!"v{n}" values

/-- The calls are those of a row. -/
structure IsBlockOf
    (row : Row)
    (block : List SetterCall) :
    Prop where
  /-- A call is in one line. -/
  oneLine : ∀ c ∈ block, '\n' ∉ c.line.toList
  /-- A call is that of a register, and it is given the values of this register. -/
  values : ∀ c ∈ block, ∃ register ∈ registers,
    c.setter = register.2 ∧ IsValuesOf row register.1 c.values
  /-- No setter is called twice. -/
  once : (block.map (·.setter)).Nodup
  /-- There is a call for a register exactly if its first lane has a value. -/
  present : ∀ register ∈ registers,
    register.2 ∈ block.map (·.setter) ↔ (row.value? (register.1 ++ ".x")).isSome
  /-- If there is a position, it is submitted by the last call. -/
  vertexLast : (row.value? "v0.x").isSome →
    ∃ values, block.getLast? = some ⟨"SetVertex", values⟩

section Reader

/-- The values between the parentheses of a call. -/
def readValues (arguments : List Char) : List String :=
  match arguments.splitOn ',' with
  | [] => []
  | first :: others => String.ofList first :: others.map fun other => String.ofList (other.drop 1)

/-- The call in a line. -/
def readCall (line : List Char) : SetterCall :=
  let body := line.drop "  host_.".length
  ⟨String.ofList (body.takeWhile (· ≠ '(')),
    readValues ((body.dropWhile (· ≠ '(')).drop 1).dropLast.dropLast⟩

/-- The calls in a text, row by row. -/
def readBlocks (text : String) : List (List SetterCall) :=
  (pieces [] (pieces '\n' text.toList)).map (·.map readCall)

/-- The call is that of a setter with values which can be told apart. -/
structure SetterCall.IsPlain (c : SetterCall) : Prop where
  setter : '(' ∉ c.setter.toList ∧ '\n' ∉ c.setter.toList
  ne_nil : c.values ≠ []
  values : ∀ value ∈ c.values, ',' ∉ value.toList ∧ '\n' ∉ value.toList

theorem toList_line (c : SetterCall) :
    c.line.toList = "  host_.".toList ++
      (c.setter.toList ++ '(' :: ((String.intercalate ", " c.values).toList ++ [')', ';'])) := by
  simp [SetterCall.line, call, toString]

/-- A blank behind a comma counts to what follows. -/
theorem intercalate_comma_blank
    (first : List Char)
    (others : List (List Char)) :
    [',', ' '].intercalate (first :: others) =
      [','].intercalate (first :: others.map (' ' :: ·)) := by
  induction others generalizing first with
  | nil =>
      rfl
  | cons other others ih =>
      have hblank : ∀ rest, [','].intercalate ((' ' :: other) :: rest) =
          ' ' :: [','].intercalate (other :: rest) := by
        intro rest
        cases rest <;> simp [List.intercalate_cons_cons]
      rw [List.intercalate_cons_cons, ih, List.map_cons, List.intercalate_cons_cons, hblank]
      simp

theorem readValues_intercalate
    {values : List String}
    (hne : values ≠ [])
    (h : ∀ value ∈ values, ',' ∉ value.toList) :
    readValues (String.intercalate ", " values).toList = values := by
  obtain ⟨first, others, rfl⟩ := List.exists_cons_of_ne_nil hne
  have hparts : ∀ part ∈ first.toList :: (others.map String.toList).map (' ' :: ·), ',' ∉ part := by
    simpa using h
  have hsplit := List.splitOn_intercalate ',' hparts (List.cons_ne_nil _ _)
  rw [← intercalate_comma_blank, ← List.map_cons] at hsplit
  rw [readValues, String.toList_intercalate, show ", ".toList = [',', ' '] from rfl, hsplit]
  simp [List.map_map, Function.comp_def]

theorem readCall_line
    {c : SetterCall}
    (h : c.IsPlain) :
    readCall c.line.toList = c := by
  have hsetter : ∀ d ∈ c.setter.toList, decide (d ≠ '(') = true := by
    intro d hd
    exact decide_eq_true (ne_of_mem_of_not_mem hd h.setter.1)
  have hstop : StopsAt (· ≠ '(')
      ('(' :: ((String.intercalate ", " c.values).toList ++ [')', ';'])) := by
    simp [StopsAt]
  obtain ⟨htake, hdrop⟩ := takeWhile_of_stopsAt hsetter hstop
  have hvalues := readValues_intercalate h.ne_nil fun value hvalue => (h.values value hvalue).1
  rw [readCall, toList_line, ← String.length_toList, List.drop_left]
  have hclose : ((String.intercalate ", " c.values).toList ++ [')', ';']).dropLast.dropLast =
      (String.intercalate ", " c.values).toList := by
    rw [List.dropLast_append_of_ne_nil (List.cons_ne_nil _ _), List.dropLast_cons_cons,
      List.dropLast_singleton, List.dropLast_concat]
  rw [htake, hdrop, List.drop_one, List.tail_cons, hclose, hvalues, String.ofList_toList]

theorem not_mem_intercalate
    {d : Char}
    {separator : List Char}
    {parts : List (List Char)}
    (hseparator : d ∉ separator)
    (hparts : ∀ part ∈ parts, d ∉ part) :
    d ∉ separator.intercalate parts := by
  induction parts with
  | nil =>
      exact List.not_mem_nil
  | cons first parts ih =>
      obtain ⟨hfirst, hrest⟩ := List.forall_mem_cons.1 hparts
      cases parts with
      | nil =>
          rwa [List.intercalate_singleton]
      | cons next parts =>
          rw [List.intercalate_cons_cons, List.mem_append, List.mem_append, not_or, not_or]
          exact ⟨⟨hfirst, hseparator⟩, ih hrest⟩

theorem newline_not_mem_line
    {c : SetterCall}
    (h : c.IsPlain) :
    '\n' ∉ c.line.toList := by
  have hgiven : '\n' ∉ (String.intercalate ", " c.values).toList := by
    rw [String.toList_intercalate]
    refine not_mem_intercalate (by decide) fun part hpart => ?_
    obtain ⟨value, hvalue, rfl⟩ := List.mem_map.1 hpart
    exact (h.values value hvalue).2
  rw [toList_line]
  simp only [List.mem_append, List.mem_cons, not_or]
  exact ⟨by decide, h.setter.2, by decide, hgiven, by decide⟩

/-- Blocks are read back, also if there are no calls in them. -/
theorem readBlocks_join
    {blocks : List (List SetterCall)}
    (h : ∀ block ∈ blocks, ∀ c ∈ block, c.IsPlain) :
    readBlocks (String.join (blocks.map blockText)) = blocks := by
  have htext : (String.join (blocks.map blockText)).toList =
      ((blocks.map fun block => block.map fun c => c.line.toList).flatMap (· ++ [[]])).flatMap
        (· ++ ['\n']) := by
    simp [blockText, String.toList_join, List.flatMap_map, List.flatMap_assoc]
  have hlines : ∀ lines ∈ blocks.map fun block => block.map fun c => c.line.toList,
      ∀ line ∈ lines, line ≠ [] ∧ '\n' ∉ line := by
    intro lines hmem line hline
    obtain ⟨block, hblock, rfl⟩ := List.mem_map.1 hmem
    obtain ⟨c, hc, rfl⟩ := List.mem_map.1 hline
    refine ⟨?_, newline_not_mem_line (h block hblock c hc)⟩
    -- The line of a call is never empty, whatever the call is given.
    rw [toList_line]
    exact List.cons_ne_nil _ _
  have hread : ∀ block ∈ blocks, (block.map fun c => c.line.toList).map readCall = block := by
    intro block hblock
    rw [List.map_map]
    exact (List.map_congr_left fun c hc => readCall_line (h block hblock c hc)).trans
      (List.map_id _)
  rw [readBlocks, htext, pieces_pieces_flatMap hlines, List.map_map]
  exact (List.map_congr_left hread).trans (List.map_id _)

end Reader

section Values

/-- What is present is the values up to the first that is missing. -/
theorem present_eq_iff
    {α : Type}
    {l : List (Option α)}
    {values : List α} :
    present l = values ↔
      ∃ rest, l = values.map some ++ rest ∧ (rest = [] ∨ rest.head? = some none) := by
  constructor
  · rintro rfl
    fun_induction present l with
    | case1 a rest ih =>
        obtain ⟨missing, hrest, hmissing⟩ := ih
        exact ⟨missing, by rw [List.map_cons, List.cons_append, ← hrest], hmissing⟩
    | case2 l h =>
        refine ⟨l, rfl, ?_⟩
        cases l with
        | nil => exact .inl rfl
        | cons a l =>
            cases a with
            | none => exact .inr rfl
            | some a => exact absurd rfl (h a l)
  · rintro ⟨rest, rfl, hrest⟩
    induction values with
    | nil =>
        rcases rest with - | ⟨- | a, rest⟩
        · rfl
        · rfl
        · simp at hrest
    | cons value values ih =>
        rw [List.map_cons, List.cons_append, present, ih]

theorem isValuesOf_iff
    {row : Row}
    {register : String}
    {values : List String} :
    IsValuesOf row register values ↔ laneValues row register = values :=
  present_eq_iff.symm

theorem haveSameValues_iff
    {row row' : Row} :
    HaveSameValues row row' ↔
      ∀ register ∈ registers, laneValues row register.1 = laneValues row' register.1 := by
  constructor
  · intro h register hregister
    obtain ⟨n, hn, hname⟩ := exists_number_of_mem register hregister
    rw [hname]
    exact (isValuesOf_iff.1 ((h n hn _).1 (isValuesOf_iff.2 rfl))).symm
  · intro h n hn values
    obtain ⟨register, hregister, hname⟩ := exists_register_of_lt n hn
    rw [← hname, isValuesOf_iff, isValuesOf_iff, h register hregister]

theorem hasPlainValues_iff
    {row : Row} :
    HasPlainValues row ↔ ∀ register ∈ registers, ∀ value ∈ laneValues row register.1,
      ',' ∉ value.toList ∧ '\n' ∉ value.toList := by
  constructor
  · intro h register hregister
    obtain ⟨n, hn, hname⟩ := exists_number_of_mem register hregister
    rw [hname]
    exact h n hn _ (isValuesOf_iff.2 rfl)
  · intro h n hn values hvalues
    obtain ⟨register, hregister, hname⟩ := exists_register_of_lt n hn
    rw [← hname, isValuesOf_iff] at hvalues
    exact hvalues ▸ h register hregister

/-- A register has values if its first lane has one. -/
theorem laneValues_ne_nil_iff
    (row : Row)
    (register : String) :
    laneValues row register ≠ [] ↔ (row.value? (register ++ ".x")).isSome := by
  rw [laneValues, lanes, List.map_cons]
  cases row.value? (register ++ ".x") <;> simp [present]

end Values

section Blocks

/-- The calls for the registers of a row that have values. -/
def callsOf (row : Row) : List SetterCall :=
  (registers.filter fun register => laneValues row register.1 ≠ []).map fun register =>
    ⟨register.2, laneValues row register.1⟩

theorem rowCalls_eq (row : Row) : rowCalls row = (callsOf row).map SetterCall.line := by
  have hcall : ∀ register, registerCall? row register =
      if laneValues row register.1 ≠ [] then
        some (call register.2 (laneValues row register.1))
      else none := by
    intro register
    rw [registerCall?]
    cases laneValues row register.1 <;> rfl
  rw [rowCalls, funext hcall, callsOf, List.map_map, ← List.filterMap_eq_map,
    List.filterMap_filter]
  simp only [decide_eq_true_eq]
  rfl

theorem rowBlock_eq (row : Row) : rowBlock row = blockText (callsOf row) := by
  rw [rowBlock, rowCalls_eq, List.map_map, blockText]
  rfl

theorem mem_callsOf
    {row : Row}
    {c : SetterCall} :
    c ∈ callsOf row ↔ ∃ register ∈ registers, c.setter = register.2 ∧
      c.values = laneValues row register.1 ∧ c.values ≠ [] := by
  simp only [callsOf, List.mem_map, List.mem_filter, decide_eq_true_eq]
  constructor
  · rintro ⟨register, ⟨hregister, hne⟩, rfl⟩
    exact ⟨register, hregister, rfl, rfl, hne⟩
  · obtain ⟨setter, values⟩ := c
    rintro ⟨register, hregister, rfl, rfl, hne⟩
    exact ⟨register, ⟨hregister, hne⟩, rfl⟩

/-- A row whose values are plain has plain calls. -/
theorem isPlain_of_mem_callsOf
    {row : Row}
    (h : HasPlainValues row) :
    ∀ c ∈ callsOf row, c.IsPlain := by
  have hsetters : ∀ register ∈ registers,
      '(' ∉ register.2.toList ∧ '\n' ∉ register.2.toList := by
    decide
  intro c hc
  obtain ⟨register, hregister, hsetter, hvalues, hne⟩ := mem_callsOf.1 hc
  exact ⟨hsetter ▸ hsetters register hregister, hne,
    hvalues ▸ hasPlainValues_iff.1 h register hregister⟩

/-- Each register has its own setter. -/
theorem eq_of_setter_eq :
    ∀ register ∈ registers, ∀ register' ∈ registers,
      register.2 = register'.2 → register = register' := by
  decide

theorem laneValues_eq_of_mem_callsOf
    {row row' : Row}
    (h : callsOf row = callsOf row')
    {register : String × String}
    (hregister : register ∈ registers)
    (hne : laneValues row register.1 ≠ []) :
    laneValues row register.1 = laneValues row' register.1 := by
  have hmem : ⟨register.2, laneValues row register.1⟩ ∈ callsOf row' :=
    h ▸ mem_callsOf.2 ⟨register, hregister, rfl, rfl, hne⟩
  obtain ⟨register', hregister', hsetter, hvalues, -⟩ := mem_callsOf.1 hmem
  rw [eq_of_setter_eq register hregister register' hregister' hsetter] at hvalues ⊢
  exact hvalues

/-- Rows have the same calls exactly if they have the same values for all registers. -/
theorem callsOf_eq_iff
    {row row' : Row} :
    callsOf row = callsOf row' ↔ HaveSameValues row row' := by
  rw [haveSameValues_iff]
  constructor
  · intro h register hregister
    by_cases hne : laneValues row register.1 = []
    · by_cases hne' : laneValues row' register.1 = []
      · rw [hne, hne']
      · exact (laneValues_eq_of_mem_callsOf h.symm hregister hne').symm
    · exact laneValues_eq_of_mem_callsOf h hregister hne
  · intro h
    have hkept : registers.filter (fun register => laneValues row register.1 ≠ []) =
        registers.filter (fun register => laneValues row' register.1 ≠ []) :=
      List.filter_congr fun register hregister => by rw [h register hregister]
    rw [callsOf, callsOf, hkept]
    exact List.map_congr_left fun register hmem => by rw [h register (List.mem_filter.1 hmem).1]

theorem isBlockOf_callsOf
    {row : Row}
    (h : HasPlainValues row) :
    IsBlockOf row (callsOf row) where
  oneLine c hc := newline_not_mem_line (isPlain_of_mem_callsOf h c hc)
  values c hc := by
    obtain ⟨register, hregister, hsetter, hvalues, -⟩ := mem_callsOf.1 hc
    exact ⟨register, hregister, hsetter, isValuesOf_iff.2 hvalues.symm⟩
  once := by
    have hall : (registers.map Prod.snd).Nodup := by decide
    have hsublist : ((callsOf row).map (·.setter)).Sublist (registers.map Prod.snd) := by
      rw [callsOf, List.map_map]
      exact List.filter_sublist.map Prod.snd
    exact hall.sublist hsublist
  present := by
    intro register hregister
    rw [← laneValues_ne_nil_iff, List.mem_map]
    constructor
    · rintro ⟨c, hc, hsetter⟩
      obtain ⟨register', hregister', hsetter', hvalues, hne⟩ := mem_callsOf.1 hc
      rw [eq_of_setter_eq register hregister register' hregister' (hsetter.symm.trans hsetter'),
        ← hvalues]
      exact hne
    · intro hne
      have hmem : ⟨register.2, laneValues row register.1⟩ ∈ callsOf row :=
        mem_callsOf.2 ⟨register, hregister, rfl, rfl, hne⟩
      exact ⟨_, hmem, rfl⟩
  vertexLast := by
    intro hvertex
    have hne := (laneValues_ne_nil_iff row "v0").2 hvertex
    refine ⟨laneValues row "v0", ?_⟩
    have hlast : registers = registers.dropLast ++ [("v0", "SetVertex")] := by rfl
    have hkept : [("v0", "SetVertex")].filter (fun register => laneValues row register.1 ≠ []) =
        [("v0", "SetVertex")] := by
      simp [hne]
    rw [callsOf, hlast, List.filter_append, hkept, List.map_append, List.map_singleton,
      List.getLast?_concat]

end Blocks

section Tables

variable {text other : List Char} {found others : List Row}

theorem readBlocks_callsOf (h : ∀ row ∈ found, HasPlainValues row) :
    readBlocks (String.join ((found.map callsOf).map blockText)) = found.map callsOf := by
  refine readBlocks_join fun block hblock => ?_
  obtain ⟨row, hrow, rfl⟩ := List.mem_map.1 hblock
  exact isPlain_of_mem_callsOf (h row hrow)

theorem hostCalls_of_rows (h : rows text = .ok found) :
    hostCalls text = .ok (String.join ((found.map callsOf).map blockText)) := by
  have hblock : rowBlock = blockText ∘ callsOf := funext rowBlock_eq
  rw [hostCalls, h, List.map_map, ← hblock]
  rfl

/-- Where no value of a register has a comma or a line feed, the calls for two tables agree
exactly if the tables have the same number of rows and, row by row, each register has the same
values in both.  The calls of a row are read off the lines up to the next empty one: one call for
each register whose first lane has a value, and the position last. -/
theorem hostCalls_eq_iff
    (hfound : rows text = .ok found)
    (hothers : rows other = .ok others)
    (hplain : ∀ row ∈ found, HasPlainValues row)
    (hplain' : ∀ row ∈ others, HasPlainValues row) :
    (hostCalls text = hostCalls other ↔ List.Forall₂ HaveSameValues found others) ∧
    ∃ calls, hostCalls text = .ok calls ∧
      calls = String.join ((readBlocks calls).map blockText) ∧
      List.Forall₂ IsBlockOf found (readBlocks calls) := by
  have hcalls := hostCalls_of_rows hfound
  have hcalls' := hostCalls_of_rows hothers
  have hread := readBlocks_callsOf hplain
  have hread' := readBlocks_callsOf hplain'
  refine ⟨?_, _, hcalls, by rw [hread], ?_⟩
  · have hsame : List.Forall₂ HaveSameValues found others ↔
        found.map callsOf = others.map callsOf := by
      rw [← List.forall₂_eq_eq_eq, List.forall₂_map_left_iff, List.forall₂_map_right_iff]
      simp only [callsOf_eq_iff]
    rw [hsame, hcalls, hcalls', Except.ok.injEq]
    constructor
    · intro h
      rw [← hread, h, hread']
    · intro h
      rw [h]
  · rw [hread, List.forall₂_map_right_iff, List.forall₂_same]
    exact fun row hrow => isBlockOf_callsOf (hplain row hrow)

/-- A table with a value that starts with a blank, an empty one, one that holds a parenthesis and
one behind a missing lane.  The last row has nothing for any register. -/
def roomyTable : List Char :=
  "|note|,|v1.x|,|v1.z|,|v0.x|\n|a|,| 2|,|9|,|(1|\n|b|,||\n|c|\n".toList

/-- The same calls are made for this table. -/
def closeTable : List Char :=
  "|extra|,|v1.x|,|v0.x|\n|x|,| 2|,|(1|\n|y|,||\n|z|\n".toList

/-- The rows of the first table. -/
def roomyRows : List Row :=
  [[("note", "a"), ("v1.x", " 2"), ("v1.z", "9"), ("v0.x", "(1")], [("note", "b"), ("v1.x", "")],
    [("note", "c")]]

/-- The rows of the second table. -/
def closeRows : List Row :=
  [[("extra", "x"), ("v1.x", " 2"), ("v0.x", "(1")], [("extra", "y"), ("v1.x", "")],
    [("extra", "z")]]

/-- The calls agree, and so do the values. -/
theorem hostCalls_eq_for_closeTable :
    rows roomyTable = .ok roomyRows ∧
    rows closeTable = .ok closeRows ∧
    (∀ row ∈ roomyRows, HasPlainValues row) ∧
    (∀ row ∈ closeRows, HasPlainValues row) ∧
    hostCalls roomyTable = hostCalls closeTable ∧
    List.Forall₂ HaveSameValues roomyRows closeRows ∧
    ∃ calls, hostCalls roomyTable = .ok calls ∧
      calls = String.join ((readBlocks calls).map blockText) ∧
      List.Forall₂ IsBlockOf roomyRows (readBlocks calls) := by
  have hlineEnd : ['\n'] ∈ Csv.lineEnds := by decide
  have hroomy : Csv.records roomyTable =
      ([["note", "v1.x", "v1.z", "v0.x"], ["a", " 2", "9", "(1"], ["b", ""], ["c"]]).map
        (·.map String.toList) :=
    Csv.Written.records_eq
      (.cons hlineEnd (.cons hlineEnd (.cons hlineEnd (.cons hlineEnd .nil)))) (by decide)
  have hclose : Csv.records closeTable =
      ([["extra", "v1.x", "v0.x"], ["x", " 2", "(1"], ["y", ""], ["z"]]).map
        (·.map String.toList) :=
    Csv.Written.records_eq
      (.cons hlineEnd (.cons hlineEnd (.cons hlineEnd (.cons hlineEnd .nil)))) (by decide)
  have hrows : rows roomyTable = .ok roomyRows := (rows_of_records hroomy).trans (by rfl)
  have hrows' : rows closeTable = .ok closeRows := (rows_of_records hclose).trans (by rfl)
  have hplain : ∀ row ∈ roomyRows, HasPlainValues row := by
    simp only [hasPlainValues_iff]
    decide +kernel
  have hplain' : ∀ row ∈ closeRows, HasPlainValues row := by
    simp only [hasPlainValues_iff]
    decide +kernel
  have hsame : hostCalls roomyTable = hostCalls closeTable := by
    rw [hostCalls, hostCalls, hrows, hrows']
    rfl
  obtain ⟨hvalues, hblocks⟩ := hostCalls_eq_iff hrows hrows' hplain hplain'
  exact ⟨hrows, hrows', hplain, hplain', hsame, hvalues.1 hsame, hblocks⟩

end Tables

end Mesh
end CaptureKit
