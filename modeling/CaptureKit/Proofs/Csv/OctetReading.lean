import CaptureKit.Proofs.Csv.Writing
import CaptureKit.Proofs.Text.Encoding
import Mathlib.Data.List.Induction

/-!
# Records cut out of bytes

The records of a file can be cut out of its bytes, one byte after the other, before anything is
known about its characters; each field is read as a text afterwards, and might turn out to be
none.  Here this is done by a reader with five modes.  The marks that it looks for are single
bytes which stand in no other character, so it never cuts a character in two, wherever a text
has its bars and however many of them are missing.

Main statement: from the bytes of a text the reader gets the records of the text, and no field
that is not a text (`readOctets_encode`).
-/

namespace CaptureKit
namespace Csv

open Text

/-- What a byte or a character is to the reader. -/
inductive Mark
  | comma
  | bar
  | lineEnd
  | other
  deriving DecidableEq

/-- The mark of a byte. -/
def octetMark (b : UInt8) : Mark :=
  if b = 44 then .comma
  else if b = 124 then .bar
  else if b = 13 ∨ b = 10 then .lineEnd
  else .other

/-- Where the reader is. -/
inductive Mode
  /-- Nothing of a record is read. -/
  | recordStart
  /-- Nothing of a field is read. -/
  | fieldStart
  /-- Inside a plain field. -/
  | plain
  /-- Behind the opening bar of a field. -/
  | barred
  /-- Behind a bar that closes a field or is the first of two. -/
  | barSeen
  deriving DecidableEq

/-- What is read so far. -/
structure Progress where
  /-- The records that are complete. -/
  records : List (List Bytes)
  /-- The complete fields of the open record. -/
  fields : List Bytes
  /-- The bytes of the open field. -/
  field : Bytes
  mode : Mode

namespace Progress

/-- Nothing is read. -/
def start : Progress := ⟨[], [], [], .recordStart⟩

/-- The open field has more bytes. -/
def take
    (progress : Progress)
    (bytes : Bytes)
    (mode : Mode) :
    Progress :=
  { progress with field := progress.field ++ bytes, mode := mode }

/-- The open field is complete. -/
def endField (progress : Progress) : Progress :=
  { progress with fields := progress.fields ++ [progress.field], field := [], mode := .fieldStart }

/-- The open record is complete. -/
def endRecord (progress : Progress) : Progress :=
  ⟨progress.records ++ [progress.fields ++ [progress.field]], [], [], .recordStart⟩

/-- The next mark, and the bytes that stand for it. -/
def step
    (progress : Progress)
    (mark : Mark)
    (bytes : Bytes) :
    Progress :=
  match progress.mode, mark with
  | .recordStart, .lineEnd => progress
  | .recordStart, .bar | .fieldStart, .bar => { progress with mode := .barred }
  | .barred, .bar => { progress with mode := .barSeen }
  | .barSeen, .bar | .barred, _ => progress.take bytes .barred
  | _, .comma => progress.endField
  | _, .lineEnd => progress.endRecord
  | _, _ => progress.take bytes .plain

/-- The next byte. -/
def octet
    (progress : Progress)
    (b : UInt8) :
    Progress :=
  progress.step (octetMark b) [b]

/-- The records when nothing more follows; an open one ends here. -/
def finish (progress : Progress) : List (List Bytes) :=
  match progress.mode with
  | .recordStart => progress.records
  | _ => progress.endRecord.records

end Progress

/-- Bytes without one byte order mark at their start. -/
def dropOctetMark : Bytes → Bytes
  | 0xEF :: 0xBB :: 0xBF :: rest => rest
  | bytes => bytes

/-- The fields of the records of a file, as bytes. -/
def octetRecords (bytes : Bytes) : List (List Bytes) :=
  ((dropOctetMark bytes).foldl Progress.octet .start).finish

/-- The records of a file, or why some field is no text. -/
def readOctets (bytes : Bytes) : Except Utf8Fault (List (List String)) :=
  (octetRecords bytes).mapM fun record => record.mapM decode

section Characters

/-- The mark of a character. -/
def charMark (c : Char) : Mark :=
  if c = ',' then .comma
  else if c = '|' then .bar
  else if isLineEnd c then .lineEnd
  else .other

/-- The bytes of characters. -/
def encoded (s : List Char) : Bytes :=
  s.flatMap String.utf8EncodeChar

theorem encoded_cons
    (c : Char)
    (s : List Char) :
    encoded (c :: s) = String.utf8EncodeChar c ++ encoded s :=
  List.flatMap_cons

/-- Bytes above ASCII and those of letters are no marks. -/
theorem octetMark_eq_other
    {n : Nat}
    (hn : n < 256)
    (hcomma : n ≠ 44)
    (hbar : n ≠ 124)
    (hreturn : n ≠ 13)
    (hfeed : n ≠ 10) :
    octetMark (UInt8.ofNat n) = .other := by
  have hbyte : ∀ m : UInt8, n ≠ m.toNat → UInt8.ofNat n ≠ m := by
    rintro m hne rfl
    exact hne (UInt8.toNat_ofNat_of_lt' hn).symm
  rw [octetMark, if_neg (hbyte 44 hcomma), if_neg (hbyte 124 hbar), if_neg]
  rintro (h | h)
  · exact hbyte 13 hreturn h
  · exact hbyte 10 hfeed h

/-- A character without a mark has no byte with a mark. -/
theorem octetMark_of_charMark_other
    {c : Char}
    (h : charMark c = .other) :
    ∀ b ∈ String.utf8EncodeChar c, octetMark b = .other := by
  have hne : ∀ d, charMark d ≠ .other → c.val.toNat ≠ d.val.toNat := by
    intro d hd heq
    have : c = d := Char.ext (UInt32.toNat_inj.1 heq)
    exact hd (this ▸ h)
  have hcomma : c.val.toNat ≠ 44 := hne ',' (by decide)
  have hbar : c.val.toNat ≠ 124 := hne '|' (by decide)
  have hreturn : c.val.toNat ≠ 13 := hne '\r' (by decide)
  have hfeed : c.val.toNat ≠ 10 := hne '\n' (by decide)
  intro b hb
  rw [String.utf8EncodeChar] at hb
  split_ifs at hb <;> simp only [List.mem_cons, List.not_mem_nil, or_false] at hb
  · subst hb
    exact octetMark_eq_other (by omega) hcomma hbar hreturn hfeed
  · rcases hb with rfl | rfl <;> apply octetMark_eq_other <;> omega
  · rcases hb with rfl | rfl | rfl <;> apply octetMark_eq_other <;> omega
  · rcases hb with rfl | rfl | rfl | rfl <;> apply octetMark_eq_other <;> omega

/-- Bytes without marks are taken all at once. -/
theorem foldl_octet_of_other
    {bytes : Bytes}
    (hne : bytes ≠ [])
    (h : ∀ b ∈ bytes, octetMark b = .other)
    (progress : Progress) :
    bytes.foldl Progress.octet progress = progress.step .other bytes := by
  induction bytes using List.reverseRecOn with
  | nil =>
      exact absurd rfl hne
  | append_singleton bytes b ih =>
      have hb := h b (by simp)
      rw [List.foldl_append, List.foldl_cons, List.foldl_nil, Progress.octet, hb]
      by_cases hfirst : bytes = []
      · rw [hfirst]
        rfl
      · rw [ih hfirst fun d hd => h d (List.mem_append_left _ hd)]
        obtain ⟨records, fields, field, mode⟩ := progress
        cases mode <;> simp [Progress.step, Progress.take]

/-- A character is one step, however many bytes it has. -/
theorem foldl_octet_utf8EncodeChar
    (c : Char)
    (progress : Progress) :
    (String.utf8EncodeChar c).foldl Progress.octet progress =
      progress.step (charMark c) (String.utf8EncodeChar c) := by
  by_cases hother : charMark c = .other
  · rw [hother]
    exact foldl_octet_of_other String.utf8EncodeChar_ne_nil (octetMark_of_charMark_other hother)
      progress
  · have hmarks : c = ',' ∨ c = '|' ∨ c = '\r' ∨ c = '\n' := by
      by_contra hnone
      simp only [not_or] at hnone
      exact hother (by simp [charMark, isLineEnd, hnone])
    rcases hmarks with rfl | rfl | rfl | rfl <;> rfl

end Characters

section Fields

/-- The progress behind the bytes of more characters. -/
def run
    (progress : Progress)
    (s : List Char) :
    Progress :=
  (encoded s).foldl Progress.octet progress

theorem run_nil (progress : Progress) : run progress [] = progress := rfl

theorem run_cons
    (progress : Progress)
    (c : Char)
    (s : List Char) :
    run progress (c :: s) = run (progress.step (charMark c) (String.utf8EncodeChar c)) s := by
  rw [run, encoded_cons, List.foldl_append, foldl_octet_utf8EncodeChar, run]

/-- A mode in which the field may end where this text follows: inside of bars it ends only with
the whole text. -/
def CanEnd
    (rest : List Char) :
    Mode → Prop
  | .recordStart => False
  | .barred => rest = []
  | _ => True

theorem charMark_eq_bar_iff {c : Char} : charMark c = .bar ↔ c = '|' := by
  constructor
  · intro h
    rw [charMark] at h
    split_ifs at h with hcomma hbar
    exact hbar
  · rintro rfl
    rfl

theorem charMark_of_isInField
    {c : Char}
    (h : isInField c = true) :
    charMark c = .bar ∨ charMark c = .other := by
  simp only [isInField, Bool.and_eq_true, bne_iff_ne, Bool.not_eq_true'] at h
  by_cases hbar : c = '|'
  · exact .inl (by simp [hbar, charMark])
  · exact .inr (by simp [charMark, h, hbar])

theorem take_nil (progress : Progress) : progress.take [] progress.mode = progress := by
  rw [Progress.take, List.append_nil]

theorem take_take
    (progress : Progress)
    (first second : Bytes)
    (mode mode' : Mode) :
    (progress.take first mode).take second mode' = progress.take (first ++ second) mode' := by
  simp [Progress.take]

theorem plainField_cons_of_isInField
    {c : Char}
    (h : isInField c = true)
    (s : List Char) :
    plainField (c :: s) = (c :: (plainField s).1, (plainField s).2) := by
  simp [plainField, h]

theorem plainField_cons_of_not_isInField
    {c : Char}
    (h : ¬ isInField c = true)
    (s : List Char) :
    plainField (c :: s) = ([], c :: s) := by
  simp [plainField, h]

/-- Inside a plain field everything up to its end is taken. -/
theorem run_plain
    (progress : Progress)
    (hmode : progress.mode = .plain)
    (s : List Char) :
    run progress s =
      run (progress.take (encoded (plainField s).1) .plain) (plainField s).2 := by
  induction s generalizing progress with
  | nil =>
      rw [← hmode]
      exact congrArg (run · []) (take_nil progress).symm
  | cons c s ih =>
      by_cases hc : isInField c = true
      · have hstep : progress.step (charMark c) (String.utf8EncodeChar c) =
            progress.take (String.utf8EncodeChar c) .plain := by
          rcases charMark_of_isInField hc with hmark | hmark <;>
            simp [Progress.step, hmode, hmark]
        rw [run_cons, hstep, ih _ (by rfl), take_take, ← encoded_cons,
          plainField_cons_of_isInField hc]
      · rw [plainField_cons_of_not_isInField hc, ← hmode]
        exact congrArg (run · (c :: s)) (take_nil progress).symm

/-- A plain field is read from the place where it starts, or from behind the bar that ends the
barred part of a field. -/
theorem exists_run_plainField
    (progress : Progress)
    (hmode : progress.mode = .fieldStart ∨ progress.mode = .barSeen)
    {s : List Char}
    (hbar : ∀ rest, s ≠ '|' :: rest) :
    ∃ mode, CanEnd (plainField s).2 mode ∧
      run progress s = run (progress.take (encoded (plainField s).1) mode) (plainField s).2 := by
  have hsame : ∃ mode, CanEnd s mode ∧ run progress s = run (progress.take [] mode) s := by
    refine ⟨progress.mode, ?_, by rw [take_nil]⟩
    rcases hmode with hmode | hmode <;> rw [hmode] <;> trivial
  cases s with
  | nil =>
      exact hsame
  | cons c s =>
      by_cases hc : isInField c = true
      · have hmark : charMark c = .other := by
          rcases charMark_of_isInField hc with hmark | hmark
          · exact absurd (congrArg (· :: s) (charMark_eq_bar_iff.1 hmark)) (hbar s)
          · exact hmark
        have hstep : progress.step (charMark c) (String.utf8EncodeChar c) =
            progress.take (String.utf8EncodeChar c) .plain := by
          rcases hmode with hmode | hmode <;> simp [Progress.step, hmode, hmark]
        refine ⟨.plain, trivial, ?_⟩
        rw [run_cons, hstep, run_plain _ (by rfl), take_take, ← encoded_cons,
          plainField_cons_of_isInField hc]
      · rw [plainField_cons_of_not_isInField hc]
        exact hsame

/-- A field is read from behind its opening bar; if no bar ends it, the text does. -/
theorem exists_run_barredField
    (progress : Progress)
    (hmode : progress.mode = .barred)
    (s : List Char) :
    ∃ mode, CanEnd (barredField s).2 mode ∧
      run progress s = run (progress.take (encoded (barredField s).1) mode) (barredField s).2 := by
  fun_induction barredField s generalizing progress with
  | case1 =>
      refine ⟨.barred, rfl, ?_⟩
      rw [← hmode]
      exact congrArg (run · []) (take_nil progress).symm
  | case2 s ih =>
      have hstep : (progress.step .bar (String.utf8EncodeChar '|')).step .bar
          (String.utf8EncodeChar '|') = progress.take (String.utf8EncodeChar '|') .barred := by
        simp [Progress.step, hmode, Progress.take]
      obtain ⟨mode, hend, hrun⟩ := ih (progress.take _ .barred) rfl
      refine ⟨mode, hend, ?_⟩
      rw [encoded_cons, ← take_take, ← hrun, ← hstep]
      rfl
  | case3 s hsingle =>
      obtain ⟨mode, hend, hrun⟩ :=
        exists_run_plainField { progress with mode := .barSeen } (.inr rfl) hsingle
      refine ⟨mode, hend, ?_⟩
      have hstep : progress.step .bar (String.utf8EncodeChar '|') =
          { progress with mode := .barSeen } := by
        simp [Progress.step, hmode]
      rw [run_cons]
      exact (congrArg (run · s) hstep).trans hrun
  | case4 c s _ hc ih =>
      have hmark : charMark c ≠ .bar := fun h => hc (charMark_eq_bar_iff.1 h)
      have hstep : progress.step (charMark c) (String.utf8EncodeChar c) =
          progress.take (String.utf8EncodeChar c) .barred := by
        cases hcase : charMark c with
        | bar => exact absurd hcase hmark
        | comma | lineEnd | other => simp [Progress.step, hmode]
      obtain ⟨mode, hend, hrun⟩ := ih (progress.take _ .barred) rfl
      refine ⟨mode, hend, ?_⟩
      rw [run_cons, hstep, encoded_cons, ← take_take, ← hrun]

/-- A field is read from the place where it starts. -/
theorem exists_run_field
    (progress : Progress)
    (hmode : progress.mode = .fieldStart)
    (s : List Char) :
    ∃ mode, CanEnd (field s).2 mode ∧
      run progress s = run (progress.take (encoded (field s).1) mode) (field s).2 := by
  rw [field.eq_def]
  split
  · next s =>
      have hstep : progress.step .bar (String.utf8EncodeChar '|') =
          { progress with mode := .barred } := by
        simp [Progress.step, hmode]
      obtain ⟨mode, hend, hrun⟩ :=
        exists_run_barredField { progress with mode := .barred } rfl s
      refine ⟨mode, hend, ?_⟩
      rw [run_cons]
      exact (congrArg (run · s) hstep).trans hrun
  · next hbar =>
      exact exists_run_plainField progress (.inl hmode) hbar

end Fields

section Records

/-- A field ends with the text, or a comma or a line end follows. -/
theorem stopsAt_field (s : List Char) : StopsAt isInField (field s).2 := by
  have hbarred : ∀ s, StopsAt isInField (barredField s).2 := by
    intro s
    fun_induction barredField s with
    | case1 => trivial
    | case2 s ih => exact ih
    | case3 s _ => exact stopsAt_dropWhile isInField s
    | case4 c s _ _ ih => exact ih
  rw [field.eq_def]
  split
  · exact hbarred _
  · exact stopsAt_dropWhile isInField _

/-- A record ends with the text, or a line end follows. -/
theorem stopsAt_fields (s : List Char) : StopsAt (!isLineEnd ·) (fields s).2 := by
  fun_induction fields s with
  | case1 s rest h ih => exact ih
  | case2 s h =>
      have hstop := stopsAt_field s
      cases hrest : (field s).2 with
      | nil => trivial
      | cons c rest =>
          rw [hrest] at hstop
          have hc : c ≠ ',' := by
            rintro rfl
            exact h rest hrest
          have hnot : isInField c = false := hstop
          have hend : isLineEnd c = true := by simpa [isInField, hc] using hnot
          simp [StopsAt, hend]

theorem step_comma
    {progress : Progress}
    {c : Char}
    {rest : List Char}
    (hend : CanEnd (c :: rest) progress.mode)
    (bytes : Bytes) :
    progress.step .comma bytes = progress.endField := by
  unfold Progress.step
  cases hmode : progress.mode <;> simp_all [CanEnd]

theorem step_lineEnd
    {progress : Progress}
    {c : Char}
    {rest : List Char}
    (hend : CanEnd (c :: rest) progress.mode)
    (bytes : Bytes) :
    progress.step .lineEnd bytes = progress.endRecord := by
  unfold Progress.step
  cases hmode : progress.mode <;> simp_all [CanEnd]

theorem finish_of_canEnd
    {progress : Progress}
    {rest : List Char}
    (hend : CanEnd rest progress.mode) :
    progress.finish = progress.endRecord.records := by
  unfold Progress.finish
  cases hmode : progress.mode <;> simp_all [CanEnd]

/-- Behind a record its fields are complete, but for the last one. -/
theorem exists_run_fields
    (s : List Char)
    (progress : Progress)
    (hmode : progress.mode = .fieldStart)
    (hfield : progress.field = []) :
    ∃ last, run progress s = run last (fields s).2 ∧ CanEnd (fields s).2 last.mode ∧
      last.records = progress.records ∧
      last.fields ++ [last.field] = progress.fields ++ (fields s).1.map encoded := by
  fun_induction fields s generalizing progress with
  | case1 s rest h ih =>
      obtain ⟨mode, hend, hrun⟩ := exists_run_field progress hmode s
      rw [h] at hend hrun
      obtain ⟨last, hlast, hcan, hrecords, hfields⟩ :=
        ih (progress.take (encoded (field s).1) mode).endField rfl rfl
      refine ⟨last, ?_, hcan, hrecords, ?_⟩
      · rw [hrun, run_cons, ← hlast]
        exact congrArg (run · rest) (step_comma hend _)
      · rw [hfields]
        simp [Progress.take, Progress.endField, hfield]
  | case2 s h =>
      obtain ⟨mode, hend, hrun⟩ := exists_run_field progress hmode s
      exact ⟨_, hrun, hend, rfl, by simp [Progress.take, hfield]⟩

theorem run_dropWhile_isLineEnd
    {progress : Progress}
    (hmode : progress.mode = .recordStart)
    (s : List Char) :
    run progress s = run progress (s.dropWhile isLineEnd) := by
  induction s with
  | nil =>
      rfl
  | cons c s ih =>
      by_cases hc : isLineEnd c = true
      · have hmark : charMark c = .lineEnd := by
          simp only [isLineEnd, Bool.or_eq_true, beq_iff_eq] at hc
          rcases hc with rfl | rfl <;> rfl
        have hstep : progress.step .lineEnd (String.utf8EncodeChar c) = progress := by
          simp [Progress.step, hmode]
        rw [List.dropWhile_cons_of_pos hc, run_cons, hmark, hstep, ih]
      · rw [List.dropWhile_cons_of_neg hc]

/-- Where a record starts, its first field starts. -/
theorem run_recordStart
    {progress : Progress}
    (hmode : progress.mode = .recordStart)
    {c : Char}
    (hc : isLineEnd c = false)
    (s : List Char) :
    run progress (c :: s) = run { progress with mode := .fieldStart } (c :: s) := by
  rw [run_cons, run_cons]
  congr 1
  have hmark : charMark c ≠ .lineEnd := by
    intro h
    rw [charMark] at h
    split_ifs at h with hcomma hbar hend
    exact absurd hc (by simp [hend])
  cases hcase : charMark c with
  | lineEnd => exact absurd hcase hmark
  | comma | bar | other => simp [Progress.step, hmode, Progress.endField, Progress.take]

/-- Behind a record the reader can end it, and it has the fields of the record. -/
theorem exists_run_record
    {progress : Progress}
    (hmode : progress.mode = .recordStart)
    (hfields : progress.fields = [])
    (hfield : progress.field = [])
    {s rest : List Char}
    {c : Char}
    (hstart : s.dropWhile isLineEnd = c :: rest) :
    ∃ last, run progress s = run last (fields (c :: rest)).2 ∧
      CanEnd (fields (c :: rest)).2 last.mode ∧
      last.endRecord =
        ⟨progress.records ++ [(fields (c :: rest)).1.map encoded], [], [], .recordStart⟩ := by
  have hc : isLineEnd c = false := by
    have hstop := stopsAt_dropWhile isLineEnd s
    rwa [hstart] at hstop
  obtain ⟨last, hrun, hend, hrecords, hlast⟩ :=
    exists_run_fields (c :: rest) { progress with mode := .fieldStart } rfl hfield
  refine ⟨last, ?_, hend, ?_⟩
  · rw [run_dropWhile_isLineEnd hmode, hstart, run_recordStart hmode hc, hrun]
  · rw [Progress.endRecord, hrecords, hlast, hfields, List.nil_append]

/-- Behind a text its records are complete. -/
theorem finish_run
    (s : List Char)
    (progress : Progress)
    (hmode : progress.mode = .recordStart)
    (hfields : progress.fields = [])
    (hfield : progress.field = []) :
    (run progress s).finish = progress.records ++ (recordsOf s).map (·.map encoded) := by
  fun_induction recordsOf s generalizing progress with
  | case1 s hstart =>
      rw [run_dropWhile_isLineEnd hmode, hstart]
      simp [run_nil, Progress.finish, hmode]
  | case2 s c rest hstart hstop =>
      obtain ⟨last, hrun, hend, hrecord⟩ := exists_run_record hmode hfields hfield hstart
      rw [hrun, hstop, run_nil, finish_of_canEnd hend, hrecord]
      rfl
  | case3 s c rest hstart d after hstop ih =>
      obtain ⟨last, hrun, hend, hrecord⟩ := exists_run_record hmode hfields hfield hstart
      rw [hstop] at hrun hend
      have hd : charMark d = .lineEnd := by
        have hline := stopsAt_fields (c :: rest)
        rw [hstop] at hline
        have hline : isLineEnd d = true := by simpa [StopsAt] using hline
        simp only [isLineEnd, Bool.or_eq_true, beq_iff_eq] at hline
        rcases hline with rfl | rfl <;> rfl
      rw [hrun, run_cons, hd, step_lineEnd hend, hrecord, ih _ rfl rfl rfl]
      simp

end Records

section Files

/-- The byte order mark is the same among bytes as among characters. -/
theorem dropOctetMark_encoded (text : List Char) :
    dropOctetMark (encoded text) = encoded (dropMark text) := by
  cases text with
  | nil =>
      rfl
  | cons c s =>
      by_cases hc : c = '\uFEFF'
      · subst hc
        rfl
      · have htext : dropMark (c :: s) = c :: s := by
          rw [dropMark]
          rintro rest ⟨rfl, -⟩
          exact hc rfl
        have hmark : ∀ rest, encoded (c :: s) ≠ 0xEF :: 0xBB :: 0xBF :: rest := by
          intro rest heq
          obtain ⟨b, bytes, hbytes, hlead⟩ := lead_utf8EncodeChar c (encoded s)
          rw [← encoded_cons, heq] at hbytes
          obtain ⟨rfl, rfl⟩ := List.cons.inj hbytes
          have hother : lead 0xEF (0xBB :: 0xBF :: rest) = .char '\uFEFF' rest := by rfl
          rw [hother] at hlead
          exact hc (Lead.char.inj hlead).1.symm
        rw [htext, dropOctetMark]
        exact hmark

/-- From the bytes of a text the same fields are cut as from its characters. -/
theorem octetRecords_encoded (text : List Char) :
    octetRecords (encoded text) = (records text).map (·.map encoded) := by
  have hrun := finish_run (dropMark text) .start rfl rfl rfl
  rw [octetRecords, dropOctetMark_encoded]
  exact hrun

/-- Each field that is cut from the bytes of a text is a text, and it is the field that is cut
from the characters. -/
theorem readOctets_encode (text : List Char) :
    readOctets (encode (String.ofList text)) = .ok ((records text).map (·.map String.ofList)) := by
  have hbytes : encode (String.ofList text) = encoded text := by
    rw [encode, String.toList_ofList, encoded]
  have hfield : decode ∘ encoded = fun s => pure (String.ofList s) := by
    funext s
    have hread := decode_encode (String.ofList s)
    rwa [encode, String.toList_ofList] at hread
  have hrecord : (List.mapM decode ∘ List.map encoded) =
      fun record : List (List Char) => pure (record.map String.ofList) := by
    funext record
    rw [Function.comp_apply, List.mapM_map, hfield, List.mapM_pure]
  rw [readOctets, hbytes, octetRecords_encoded, List.mapM_map, hrecord, List.mapM_pure]
  rfl

/-- A field with an open bar goes on to the end of the file, and its characters are kept whole. -/
example : readOctets (encode "\uFEFFa,|é\n,") = .ok [["a", "é\n,"]] := by
  cbv

end Files

end Csv
end CaptureKit
