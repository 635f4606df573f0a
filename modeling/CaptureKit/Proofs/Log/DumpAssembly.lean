import CaptureKit.Proofs.Log.Numbering
import CaptureKit.Proofs.Log.Running

/-!
# Assembling a shader dump

While a shader dump is read, the assembly holds the programs that are complete and the
instructions of the one that is being read: the words of these are pending, and the last
index is one less than their number.  All of its states have this form (`dumping`), whether
or not events were refused on the way.

Main statement: the assembly of a dump succeeds exactly if its instructions are numbered,
with one program for each block, and else reports the first index that breaks the numbering
(`assemble_shaderDump_exact`).
-/

namespace CaptureKit
namespace Log

open Microcode Text

namespace Assembly

/-- The state of reading a shader dump: complete programs, and the instructions of the
program that is being read. -/
def dumping
    (retention : Retention)
    (done : List Program)
    (current : List Slot) :
    Assembly where
  kind := .shaderDump
  pending := (current.flatMap Slot.words).toArray
  lastSlot := if current = [] then none else some (current.length - 1)
  description := none
  complete := (Collection.empty retention).addAll done

section Steps

variable (retention : Retention)
variable (done : List Program)
variable (current : List Slot)

/-- The next index is the number of instructions of the program that is being read. -/
theorem nextSlot_dumping :
    (dumping retention done current).nextSlot = current.length := by
  unfold nextSlot dumping
  cases current with
  | nil => rfl
  | cons code current => rfl

/-- Before the first event nothing is complete and no program is being read. -/
theorem start_eq_dumping :
    start .shaderDump retention = dumping retention [] [] :=
  rfl

/-- The program that is being read can always be completed. -/
theorem endProgram_dumping :
    (dumping retention done current).endProgram =
      ({ dumping retention (done ++ endedProgram current none) current with
        pending := #[] }, none) := by
  have hpending :
      (dumping retention done current).pending = (current.flatMap Slot.words).toArray :=
    rfl
  rw [endProgram_of_words hpending]
  simp [dumping]

/-- Index 0 completes the program that is being read. -/
theorem accept_dumping_zero (code : Slot) :
    (dumping retention done current).accept (.slot 0 code) =
      (dumping retention (done ++ endedProgram current none) [code], none) := by
  rw [accept_slot_zero rfl, endProgram_dumping]
  simp [dumping, append]

/-- Any other index goes on with the program or is refused. -/
theorem accept_dumping_pos
    {index : Nat}
    (hpos : index ≠ 0)
    (code : Slot) :
    (dumping retention done current).accept (.slot index code) =
      if index = current.length then (dumping retention done (current ++ [code]), none)
      else (dumping retention done current, some (.gap current.length index)) := by
  rw [accept_slot_pos rfl hpos, nextSlot_dumping]
  split
  · next hnext =>
      simp [dumping, append, hnext]
  · rfl

/-- Only instructions count. -/
theorem accept_of_instruction?_eq_none
    {A : Assembly}
    (h : A.kind = .shaderDump)
    {e : Event}
    (he : e.instruction? = none) :
    A.accept e = (A, none) := by
  cases e with
  | slot index code => cases he
  | load address => simp only [accept, h]
  | word value => simp only [accept, h]

/-- At the end the program that is being read is complete. -/
theorem conclude_dumping :
    (dumping retention done current).conclude =
      .ok ((Collection.empty retention).addAll (done ++ endedProgram current none)) := by
  rw [conclude, endProgram_dumping]
  rfl

end Steps

section Runs

variable (retention : Retention)

/-- A run over a dump sees only the instructions among the events. -/
theorem run_instructions
    {A : Assembly}
    (h : A.kind = .shaderDump)
    (events : List Event) :
    A.run events = A.run ((instructions events).map slotEvent) := by
  induction events generalizing A with
  | nil =>
      rfl
  | cons e events ih =>
      cases he : e.instruction? with
      | none =>
          have hskip : instructions (e :: events) = instructions events := by
            simp [instructions, he]
          rw [hskip, run, accept_of_instruction?_eq_none h he]
          exact ih h
      | some item =>
          have hevent : e = slotEvent item := by
            cases e <;> cases he
            rfl
          have htake : instructions (e :: events) = item :: instructions events := by
            simp [instructions, he]
          rw [htake, List.map_cons, ← hevent, run, run]
          have hkind := (accept_fields A e).1
          rcases hstep : A.accept e with ⟨next, _ | fault⟩
          · rw [hstep] at hkind
            exact ih (hkind.trans h)
          · rfl

/-- Instructions with the next indices go on with the program that is being read. -/
theorem run_dumping_numberedFrom
    (done : List Program)
    {current : List Slot}
    (hne : current ≠ [])
    (codes : List Slot)
    (events : List Event) :
    (dumping retention done current).run
        ((numberedFrom current.length codes).map slotEvent ++ events) =
      (dumping retention done (current ++ codes)).run events := by
  induction codes generalizing current with
  | nil =>
      rw [List.append_nil]
      rfl
  | cons code codes ih =>
      have hpos : current.length ≠ 0 := fun h => hne (List.eq_nil_of_length_eq_zero h)
      have hrest := ih (by simp : current ++ [code] ≠ [])
      rw [List.length_append, List.append_assoc] at hrest
      rw [numberedFrom, List.map_cons, List.cons_append, run, slotEvent,
        accept_dumping_pos retention done current hpos, if_pos rfl]
      exact hrest

/-- A numbered program completes the one before it. -/
theorem run_dumping_numbered
    (done : List Program)
    (current : List Slot)
    {codes : List Slot}
    (hne : codes ≠ [])
    (events : List Event) :
    (dumping retention done current).run ((numbered codes).map slotEvent ++ events) =
      (dumping retention (done ++ endedProgram current none) codes).run events := by
  cases codes with
  | nil =>
      exact absurd rfl hne
  | cons code codes =>
      rw [numbered, numberedFrom, List.map_cons, List.cons_append, run, slotEvent,
        accept_dumping_zero]
      exact run_dumping_numberedFrom retention _ (by simp : [code] ≠ []) codes events

/-- Reading numbered programs leads to a state where all of them but the last are complete,
and the last one is being read. -/
theorem run_dumping_blocks
    {blocks : List (List Slot)}
    (hblocks : ∀ block ∈ blocks, block ≠ [])
    (done : List Program)
    (current : List Slot)
    (events : List Event) :
    ∃ done' : List Program,
      done' ++ endedProgram (blocks.getLast?.getD current) none =
        done ++ endedProgram current none ++ blocks.map (⟨·, none⟩) ∧
      (dumping retention done current).run
          ((blocks.flatMap numbered).map slotEvent ++ events) =
        (dumping retention done' (blocks.getLast?.getD current)).run events := by
  induction blocks generalizing done current with
  | nil =>
      exact ⟨done, by simp, rfl⟩
  | cons block blocks ih =>
      have hne : block ≠ [] := hblocks block (by simp)
      obtain ⟨done', hprograms, hrun⟩ :=
        ih (fun b hb => hblocks b (by simp [hb])) (done ++ endedProgram current none) block
      refine ⟨done', ?_, ?_⟩
      · rw [List.getLast?_cons, Option.getD_some, hprograms]
        simp [endedProgram, hne]
      · rw [List.flatMap_cons, List.map_append, List.append_assoc,
          run_dumping_numbered retention done current hne, hrun, List.getLast?_cons,
          Option.getD_some]

end Runs

end Assembly

/-- A dump of numbered programs is assembled to these programs. -/
theorem assemble_of_numbered
    (retention : Retention)
    {events : List Event}
    {blocks : List (List Slot)}
    (hblocks : ∀ block ∈ blocks, block ≠ [])
    (hevents : instructions events = blocks.flatMap numbered) :
    assemble .shaderDump retention events =
      .ok ((Collection.empty retention).addAll (blocks.map (⟨·, none⟩))) := by
  obtain ⟨done, hprograms, hrun⟩ :=
    Assembly.run_dumping_blocks retention hblocks [] [] []
  rw [assemble, Assembly.run_instructions rfl, hevents, Assembly.start_eq_dumping]
  rw [List.append_nil] at hrun
  rw [hrun, Assembly.run, Assembly.conclude_dumping, hprograms]
  rfl

/-- The first index that breaks the numbering of a dump is refused. -/
theorem assemble_of_first_gap
    (retention : Retention)
    {events : List Event}
    {front rest : List (Nat × Slot)}
    {index : Nat}
    {code : Slot}
    (hevents : instructions events = front ++ (index, code) :: rest)
    (hfront : IsNumbered front)
    (hgap : ¬ IsNumbered (front ++ [(index, code)])) :
    assemble .shaderDump retention events = .error (.gap (nextIndex front) index) := by
  have hindex : index ≠ 0 ∧ index ≠ nextIndex front := by
    constructor
    · intro h
      exact hgap (isNumbered_snoc_iff.2 ⟨hfront, Or.inl h⟩)
    · intro h
      exact hgap (isNumbered_snoc_iff.2 ⟨hfront, Or.inr h⟩)
  obtain ⟨blocks, hblocks, rfl⟩ := hfront
  rw [nextIndex_blocks hblocks] at hindex ⊢
  obtain ⟨done, -, hrun⟩ :=
    Assembly.run_dumping_blocks retention hblocks [] []
      (slotEvent (index, code) :: rest.map slotEvent)
  rw [assemble, Assembly.run_instructions rfl, hevents, Assembly.start_eq_dumping,
    List.map_append, List.map_cons, hrun, Assembly.run, slotEvent,
    Assembly.accept_dumping_pos retention _ _ hindex.1, if_neg hindex.2]

/-- Instructions that are not numbered are refused at the first index to blame. -/
theorem assemble_of_not_isNumbered
    (retention : Retention)
    {events : List Event}
    (h : ¬ IsNumbered (instructions events)) :
    ∃ front index code rest,
      instructions events = front ++ (index, code) :: rest ∧
      (∀ initial, initial <+: front → IsNumbered initial) ∧
      ¬ IsNumbered (front ++ [(index, code)]) ∧
      assemble .shaderDump retention events = .error (.gap (nextIndex front) index) := by
  obtain ⟨front, index, code, rest, hevents, hfront, hgap⟩ := exists_first_gap h
  refine ⟨front, index, code, rest, hevents, ?_, hgap, ?_⟩
  · intro initial hinitial
    exact hfront.of_initial hinitial
  · exact assemble_of_first_gap retention hevents hfront hgap

section Indices

open Assembly

/-- One event keeps the form of the state of a dump, and adds one instruction at most. -/
theorem exists_accept_dumping
    (retention : Retention)
    (done : List Program)
    (current : List Slot)
    (e : Event) :
    ∃ done' current',
      ((dumping retention done current).accept e).1 = dumping retention done' current' ∧
      current'.length ≤ current.length + 1 := by
  cases e with
  | slot index code =>
      by_cases hzero : index = 0
      · subst hzero
        exact ⟨_, [code], by rw [accept_dumping_zero], by simp⟩
      · rw [accept_dumping_pos retention done current hzero]
        split
        · exact ⟨done, current ++ [code], rfl, by simp⟩
        · exact ⟨done, current, rfl, by simp⟩
  | load address =>
      exact ⟨done, current, rfl, by simp⟩
  | word value =>
      exact ⟨done, current, rfl, by simp⟩

/-- Events keep the form of the state of a dump, and add one instruction each at most. -/
theorem exists_pushAll_dumping
    (retention : Retention)
    (events : List Event)
    (done : List Program)
    (current : List Slot) :
    ∃ done' current',
      (dumping retention done current).pushAll events = dumping retention done' current' ∧
      current'.length ≤ current.length + events.length := by
  induction events generalizing done current with
  | nil =>
      exact ⟨done, current, rfl, by simp⟩
  | cons e events ih =>
      obtain ⟨done₁, current₁, hstep, hlength⟩ := exists_accept_dumping retention done current e
      obtain ⟨done₂, current₂, hrest, hbound⟩ := ih done₁ current₁
      refine ⟨done₂, current₂, ?_, ?_⟩
      · rw [pushAll, List.foldl_cons, hstep]
        exact hrest
      · rw [List.length_cons]
        omega

/-- The next index is never larger than the number of events so far. -/
theorem nextSlot_pushAll_le
    (retention : Retention)
    (events : List Event) :
    ((start .shaderDump retention).pushAll events).nextSlot ≤ events.length := by
  obtain ⟨done, current, hstate, hlength⟩ := exists_pushAll_dumping retention events [] []
  rw [start_eq_dumping, hstate, nextSlot_dumping]
  simpa using hlength

end Indices

/-- The exact outcome of assembling a shader dump. -/
theorem assemble_shaderDump_exact
    (events : List Event)
    (hlength : events.length < limit64) :
    ((∃ c, assemble .shaderDump .all events = .ok c) ↔ IsNumbered (instructions events)) ∧
    (∀ blocks : List (List Slot),
      (∀ block ∈ blocks, block ≠ []) →
      instructions events = blocks.flatMap numbered →
      (assemble .shaderDump .all events).map Collection.programs =
        .ok (blocks.map (⟨·, none⟩))) ∧
    (¬ IsNumbered (instructions events) →
      ∃ front index code rest,
        instructions events = front ++ (index, code) :: rest ∧
        (∀ initial, initial <+: front → IsNumbered initial) ∧
        ¬ IsNumbered (front ++ [(index, code)]) ∧
        assemble .shaderDump .all events = .error (.gap (nextIndex front) index)) ∧
    (∀ description wordCount,
      assemble .shaderDump .all events ≠ .error (.ragged description wordCount)) ∧
    (∀ front, front <+: events →
      ((Assembly.start .shaderDump .all).pushAll front).nextSlot < limit64) := by
  have hgap (h : ¬ IsNumbered (instructions events)) :=
    assemble_of_not_isNumbered .all h
  have hnumbered (h : IsNumbered (instructions events)) :
      ∃ c, assemble .shaderDump .all events = .ok c := by
    obtain ⟨blocks, hblocks, hevents⟩ := h
    exact ⟨_, assemble_of_numbered .all hblocks hevents⟩
  refine ⟨⟨?_, hnumbered⟩, ?_, hgap, ?_, ?_⟩
  · rintro ⟨c, hc⟩
    by_contra h
    obtain ⟨front, index, code, rest, -, -, -, herror⟩ := hgap h
    rw [hc] at herror
    cases herror
  · intro blocks hblocks hevents
    rw [assemble_of_numbered .all hblocks hevents, Except.map,
      Collection.programs_addAll_all rfl]
    rfl
  · intro description wordCount hragged
    by_cases h : IsNumbered (instructions events)
    · obtain ⟨c, hc⟩ := hnumbered h
      rw [hc] at hragged
      cases hragged
    · obtain ⟨front, index, code, rest, -, -, -, herror⟩ := hgap h
      rw [herror] at hragged
      cases hragged
  · intro front hfront
    exact Nat.lt_of_le_of_lt (nextSlot_pushAll_le .all front)
      (Nat.lt_of_le_of_lt hfront.length_le hlength)

/-- Two programs are found, whatever else is between their instructions. -/
theorem assemble_shaderDump_two_programs :
    ([.slot 0 ⟨1, 2, 3, 4⟩, .load 16, .slot 1 ⟨5, 6, 7, 8⟩, .word 9, .slot 0 ⟨1, 1, 1, 1⟩] :
      List Event).length < limit64 ∧
    (assemble .shaderDump .all
      [.slot 0 ⟨1, 2, 3, 4⟩, .load 16, .slot 1 ⟨5, 6, 7, 8⟩, .word 9,
        .slot 0 ⟨1, 1, 1, 1⟩]).map Collection.programs =
      .ok [⟨[⟨1, 2, 3, 4⟩, ⟨5, 6, 7, 8⟩], none⟩, ⟨[⟨1, 1, 1, 1⟩], none⟩] :=
  ⟨by decide,
    (assemble_shaderDump_exact _ (by decide)).2.1
      [[⟨1, 2, 3, 4⟩, ⟨5, 6, 7, 8⟩], [⟨1, 1, 1, 1⟩]] (by decide) rfl⟩

end Log
end CaptureKit
