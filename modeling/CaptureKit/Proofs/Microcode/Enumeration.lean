import CaptureKit.Microcode.Collection
import Mathlib.Data.List.Induction

/-!
# What a collection enumerates

Programs are added one after the other.  A collection that keeps everything enumerates
them all; one of distinct programs enumerates those whose instructions it has not seen
yet.  Main statements: the enumeration after many additions, for either retention
(`programs_addAll_all`, `programs_addAll_distinct`); from nothing on, the second is what is
left of the first without later occurrences (`programs_addAll_eq_firstOccurrences`).  And
adding to a collection which is itself added to another one can be done in either order
(`addAll_programs_add`).
-/

namespace CaptureKit
namespace Microcode
namespace Collection

/-- Collections are the same if they keep alike and enumerate the same programs. -/
theorem ext_programs
    {c d : Collection}
    (hretention : c.retention = d.retention)
    (hprograms : c.programs = d.programs) :
    c = d := by
  cases c
  cases d
  cases hretention
  cases hprograms
  rfl

@[simp] theorem addAll_nil (c : Collection) : c.addAll [] = c := rfl

@[simp] theorem addAll_cons
    (c : Collection)
    (p : Program)
    (ps : List Program) :
    c.addAll (p :: ps) = (c.add p).addAll ps :=
  rfl

@[simp] theorem addAll_append
    (c : Collection)
    (ps qs : List Program) :
    c.addAll (ps ++ qs) = (c.addAll ps).addAll qs := by
  simp [addAll]

@[simp] theorem retention_addAll
    (c : Collection)
    (ps : List Program) :
    (c.addAll ps).retention = c.retention := by
  induction ps generalizing c with
  | nil =>
      rfl
  | cons p ps ih =>
      rw [addAll_cons, ih, retention_add]

/-- A collection of everything admits every program. -/
theorem programs_add_all
    {c : Collection}
    (h : c.retention = .all)
    (p : Program) :
    (c.add p).programs = c.programs ++ [p] := by
  have hadmits : c.admits p = true := by
    simp [admits, h]
  simp [programs_add, hadmits]

/-- A collection of distinct programs takes exactly new instructions. -/
theorem programs_add_distinct
    {c : Collection}
    (h : c.retention = .distinct)
    (p : Program) :
    (c.add p).programs =
      if p.slots ∈ c.programs.map Program.slots then c.programs else c.programs ++ [p] := by
  rw [programs_add]
  by_cases hp : p.slots ∈ c.programs.map Program.slots
  · have hadmits : ¬ c.admits p = true := fun ha => (admits_distinct_iff h p).1 ha hp
    rw [if_neg hadmits, if_pos hp]
  · have hadmits : c.admits p = true := (admits_distinct_iff h p).2 hp
    rw [if_pos hadmits, if_neg hp]

/-- Added to a collection of everything, programs are enumerated in order at its end. -/
theorem programs_addAll_all
    {c : Collection}
    (h : c.retention = .all)
    (ps : List Program) :
    (c.addAll ps).programs = c.programs ++ ps := by
  induction ps generalizing c with
  | nil =>
      simp
  | cons p ps ih =>
      have hc : (c.add p).retention = .all := by
        rw [retention_add, h]
      rw [addAll_cons, ih hc, programs_add_all h, List.append_assoc, List.singleton_append]

/-- Added to a collection of distinct programs, those with new instructions are enumerated
at its end, each where it occurs first. -/
theorem programs_addAll_distinct
    {c : Collection}
    (h : c.retention = .distinct)
    (ps : List Program) :
    (c.addAll ps).programs =
      c.programs ++
        (ps.filter fun p => p.slots ∉ c.programs.map Program.slots).eraseDupsBy
          Program.sameCode := by
  induction ps generalizing c with
  | nil =>
      simp
  | cons p ps ih =>
      have hc : (c.add p).retention = .distinct := by
        rw [retention_add, h]
      rw [addAll_cons, ih hc, programs_add_distinct h]
      by_cases hp : p.slots ∈ c.programs.map Program.slots
      · rw [if_pos hp, List.filter_cons_of_neg (by simpa using hp)]
      · rw [if_neg hp, List.filter_cons_of_pos (by simpa using hp), List.eraseDupsBy_cons,
          List.filter_filter, List.append_assoc, List.singleton_append]
        congr 3
        apply List.filter_congr
        intro q _
        simp only [List.map_append, List.map_singleton, List.mem_append, List.mem_singleton,
          Program.sameCode, beq_eq_false_iff_ne]
        simp [Bool.and_comm]

/-- From the empty collection on, the first program with each list of instructions stays. -/
theorem programs_addAll_empty_distinct
    (ps : List Program) :
    ((empty .distinct).addAll ps).programs = ps.eraseDupsBy Program.sameCode := by
  have hnew :
      (ps.filter fun p => p.slots ∉ (empty .distinct).programs.map Program.slots) = ps :=
    List.filter_eq_self.2 (by simp [empty])
  rw [programs_addAll_distinct rfl, hnew]
  rfl

/-- No program is erased where all instructions are distinct. -/
theorem eraseDupsBy_of_nodup
    {ps : List Program}
    (h : (ps.map Program.slots).Nodup) :
    ps.eraseDupsBy Program.sameCode = ps := by
  induction ps with
  | nil =>
      simp
  | cons p ps ih =>
      rw [List.map_cons, List.nodup_cons] at h
      have hfilter : (ps.filter fun q => Program.sameCode q p = false) = ps := by
        rw [List.filter_eq_self]
        intro q hq
        have hne : q.slots ≠ p.slots :=
          fun e => h.1 (e ▸ List.mem_map_of_mem hq)
        simpa [Program.sameCode] using hne
      rw [List.eraseDupsBy_cons, hfilter, ih h.2]

/-- Programs with distinct instructions are all kept, unless they were there before. -/
theorem programs_addAll_of_nodup
    {c : Collection}
    (h : c.retention = .distinct)
    {ps : List Program}
    (hnodup : (ps.map Program.slots).Nodup) :
    (c.addAll ps).programs =
      c.programs ++ ps.filter fun p => p.slots ∉ c.programs.map Program.slots := by
  rw [programs_addAll_distinct h, eraseDupsBy_of_nodup]
  exact hnodup.sublist (List.filter_sublist.map _)

/-- The instructions in a collection after one more program is added. -/
theorem mem_slots_add_iff
    (c : Collection)
    (p : Program)
    (slots : List Slot) :
    slots ∈ (c.add p).programs.map Program.slots ↔
      slots ∈ c.programs.map Program.slots ∨ slots = p.slots := by
  cases h : c.retention with
  | all =>
      simp [programs_add_all h]
  | distinct =>
      rw [programs_add_distinct h]
      split
      · next hp =>
          constructor
          · exact Or.inl
          · rintro (hs | rfl)
            · exact hs
            · exact hp
      · simp

/-- What was added is there, whatever is kept of it. -/
theorem mem_slots_addAll_iff
    (c : Collection)
    (ps : List Program)
    (slots : List Slot) :
    slots ∈ (c.addAll ps).programs.map Program.slots ↔
      slots ∈ c.programs.map Program.slots ∨ slots ∈ ps.map Program.slots := by
  induction ps generalizing c with
  | nil =>
      simp
  | cons p ps ih =>
      rw [addAll_cons, ih, mem_slots_add_iff, List.map_cons, List.mem_cons, or_assoc]

/-- No program in front of the given place has the same instructions. -/
def IsFirst
    (programs : List Program)
    (item : Program × Nat) :
    Prop :=
  ∀ earlier ∈ programs.take item.2, earlier.slots ≠ item.1.slots

instance (programs : List Program) : DecidablePred (IsFirst programs) :=
  fun item => inferInstanceAs
    (Decidable (∀ earlier ∈ programs.take item.2, earlier.slots ≠ item.1.slots))

/-- The programs without those whose instructions occurred earlier. -/
def firstOccurrences (programs : List Program) : List Program :=
  (programs.zipIdx.filter fun item => IsFirst programs item).map Prod.fst

/-- Whether a program of a list is the first does not depend on what stands behind it. -/
theorem isFirst_append_iff
    {ps : List Program}
    {item : Program × Nat}
    (h : item ∈ ps.zipIdx)
    (qs : List Program) :
    IsFirst (ps ++ qs) item ↔ IsFirst ps item := by
  have hindex : item.2 ≤ ps.length := by
    have := List.snd_lt_of_mem_zipIdx h
    omega
  rw [IsFirst, IsFirst, List.take_append_of_le_length hindex]

/-- One more program occurs first at the end, or occurred earlier. -/
theorem firstOccurrences_snoc
    (ps : List Program)
    (p : Program) :
    firstOccurrences (ps ++ [p]) =
      if p.slots ∈ ps.map Program.slots then firstOccurrences ps
      else firstOccurrences ps ++ [p] := by
  have hfront :
      (ps.zipIdx.filter fun item => IsFirst (ps ++ [p]) item) =
        ps.zipIdx.filter fun item => IsFirst ps item := by
    apply List.filter_congr
    intro item hitem
    exact decide_eq_decide.2 (isFirst_append_iff hitem [p])
  have hlast : IsFirst (ps ++ [p]) (p, ps.length) ↔ p.slots ∉ ps.map Program.slots := by
    simp [IsFirst]
  rw [firstOccurrences, List.zipIdx_append, List.filter_append, List.map_append, hfront,
    ← firstOccurrences]
  by_cases hp : p.slots ∈ ps.map Program.slots
  · have hnot : ¬ IsFirst (ps ++ [p]) (p, ps.length) := fun h => hlast.1 h hp
    rw [if_pos hp]
    simp [hnot]
  · have hnew : IsFirst (ps ++ [p]) (p, ps.length) := hlast.2 hp
    rw [if_neg hp]
    simp [hnew]

/-- A collection of distinct programs enumerates the first occurrences of what is added. -/
theorem programs_addAll_eq_firstOccurrences (ps : List Program) :
    ((empty .distinct).addAll ps).programs = firstOccurrences ps := by
  induction ps using List.reverseRecOn with
  | nil =>
      rfl
  | append_singleton ps p ih =>
      have hdistinct : ((empty .distinct).addAll ps).retention = .distinct := by
        rw [retention_addAll]
        rfl
      have hmem :
          p.slots ∈ ((empty .distinct).addAll ps).programs.map Program.slots ↔
            p.slots ∈ ps.map Program.slots := by
        rw [mem_slots_addAll_iff]
        simp [empty]
      rw [addAll_append, addAll_cons, addAll_nil, programs_add_distinct hdistinct,
        firstOccurrences_snoc, ih, if_congr (ih ▸ hmem) rfl rfl]

/-- A collection of distinct programs does not change when it has the instructions. -/
theorem add_of_mem_slots
    {c : Collection}
    (h : c.retention = .distinct)
    {p : Program}
    (hp : p.slots ∈ c.programs.map Program.slots) :
    c.add p = c :=
  ext_programs (retention_add c p) (by rw [programs_add_distinct h, if_pos hp])

/-- Whether a program is added before or after its collection is added to another one
makes no difference. -/
theorem addAll_programs_add
    {base c : Collection}
    (h : c.retention = .distinct → base.retention = .distinct)
    (p : Program) :
    base.addAll (c.add p).programs = (base.addAll c.programs).add p := by
  cases hc : c.retention with
  | all =>
      rw [programs_add_all hc, addAll_append]
      rfl
  | distinct =>
      rw [programs_add_distinct hc]
      split
      · next hp =>
          have hbase : (base.addAll c.programs).retention = .distinct := by
            rw [retention_addAll, h hc]
          have hmem : p.slots ∈ (base.addAll c.programs).programs.map Program.slots :=
            (mem_slots_addAll_iff base c.programs p.slots).2 (Or.inr hp)
          rw [add_of_mem_slots hbase hmem]
      · rw [addAll_append]
        rfl

end Collection
end Microcode
end CaptureKit
