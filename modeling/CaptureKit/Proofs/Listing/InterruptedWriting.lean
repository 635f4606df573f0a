import CaptureKit.Listing.Writing

/-!
# Writing that is interrupted

A listing is not finished if a program cannot be disassembled or if the sink has no more
room.  Both may be in store at once, at any place of the listing.  What is written is judged
by the *replies* of the disassembler, that is, by what it would answer if it were asked for
every program in turn: the blocks in front of the first program without an answer are the
text that is to be written.

Main statement: the bytes that are kept, the result, and the calls that the disassembler gets,
for every sink and every disassembler (`write_interrupted`).
-/

namespace CaptureKit
namespace Listing

open Microcode Storage Text

variable {σ : Type}

/-- A call of a disassembler. -/
structure Call where
  slots : List Slot
  explain : Bool
  deriving DecidableEq, Repr

/-- The disassembler with a record of its calls behind its own state. -/
def recorded (disassemble : Disassembler σ) : Disassembler (σ × List Call) :=
  fun slots explain => do
    let (state, calls) ← get
    let (answer, next) := (disassemble slots explain).run state
    set (next, calls ++ [⟨slots, explain⟩])
    pure answer

/-- What a disassembler answers for a program under its title. -/
structure Reply where
  title : String
  answer : Except DisassemblyFault (List String)

/-- The replies for programs in turn, the first of which has the given position. -/
def replies
    (disassemble : Disassembler σ)
    (source : String) :
    (position : Nat) → List Program → σ → List Reply
  | _, [], _ => []
  | position, program :: programs, state =>
      let (answer, next) := (disassemble program.slots false).run state
      ⟨header source position program, answer⟩ ::
        replies disassemble source (position + 1) programs next

/-- The lines in front of the first program without an answer: for each program its header,
its listing, and an empty line. -/
def completeLines : List Reply → List String
  | [] => []
  | ⟨_, .error _⟩ :: _ => []
  | ⟨title, .ok lines⟩ :: replies => ("; " ++ title) :: lines ++ "" :: completeLines replies

/-- What is to be written: the complete lines, each with its end. -/
def completeText (replies : List Reply) : Bytes :=
  encode (String.join ((completeLines replies).map (· ++ "\n")))

/-- The fault of the first program without an answer. -/
def firstFault? (replies : List Reply) : Option ListingFault :=
  replies.findSome? fun reply =>
    match reply.answer with
    | .error fault => some (.disassembly reply.title fault)
    | .ok _ => none

section Replies

@[simp] theorem completeText_nil : completeText [] = [] := rfl

@[simp] theorem completeText_error
    (title : String)
    (fault : DisassemblyFault)
    (replies : List Reply) :
    completeText (⟨title, .error fault⟩ :: replies) = [] :=
  rfl

/-- A program with an answer has its block in the text. -/
@[simp] theorem completeText_ok
    (title : String)
    (lines : List String)
    (replies : List Reply) :
    completeText (⟨title, .ok lines⟩ :: replies) =
      encode (block title lines) ++ completeText replies := by
  simp only [completeText, ← encode_append]
  congr 1
  simp [completeLines, block, String.join_cons, String.append_assoc]

@[simp] theorem firstFault?_error
    (title : String)
    (fault : DisassemblyFault)
    (replies : List Reply) :
    firstFault? (⟨title, .error fault⟩ :: replies) = some (.disassembly title fault) :=
  rfl

@[simp] theorem firstFault?_ok
    (title : String)
    (lines : List String)
    (replies : List Reply) :
    firstFault? (⟨title, .ok lines⟩ :: replies) = firstFault? replies :=
  rfl

variable {disassemble : Disassembler σ} {source : String}

/-- The first reply is the answer of the first call. -/
theorem replies_cons
    {program : Program}
    {state next : σ}
    {answer : Except DisassemblyFault (List String)}
    (hanswer : (disassemble program.slots false).run state = (answer, next))
    (position : Nat)
    (programs : List Program) :
    replies disassemble source position (program :: programs) state =
      ⟨header source position program, answer⟩ ::
        replies disassemble source (position + 1) programs next := by
  rw [replies, hanswer]

/-- A call is recorded, and answered as without the record. -/
theorem run_recorded
    {slots : List Slot}
    {explain : Bool}
    {state next : σ}
    {answer : Except DisassemblyFault (List String)}
    (hanswer : (disassemble slots explain).run state = (answer, next))
    (calls : List Call) :
    (recorded disassemble slots explain).run (state, calls) =
      (answer, next, calls ++ [⟨slots, explain⟩]) := by
  simp only [recorded, StateT.run_bind, StateT.run_get, StateT.run_set, StateT.run_pure,
    pure_bind, hanswer]
  rfl

/-- Recording calls does not change the replies. -/
theorem replies_recorded
    (position : Nat)
    (programs : List Program)
    (state : σ)
    (calls : List Call) :
    replies (recorded disassemble) source position programs (state, calls) =
      replies disassemble source position programs state := by
  induction programs generalizing position state calls with
  | nil =>
      rfl
  | cons program programs ih =>
      rcases hanswer : (disassemble program.slots false).run state with ⟨answer, next⟩
      rw [replies_cons hanswer, replies_cons (run_recorded hanswer calls), ih]

end Replies

section Runs

/-- How writing goes on from a position: the programs that are left, the sink and the state
of the disassembler, and the sink, the fault and the state in the end. -/
inductive Writes
    (disassemble : Disassembler σ)
    (source : String) :
    Nat → List Program → Sink → σ → Sink → Option ListingFault → σ → Prop
  | done
      (position : Nat) (sink : Sink) (state : σ) :
      Writes disassemble source position [] sink state sink none state
  | refused
      {position : Nat} {program : Program} {programs : List Program}
      {sink : Sink} {state next : σ} {fault : DisassemblyFault}
      (hanswer : (disassemble program.slots false).run state = (.error fault, next)) :
      Writes disassemble source position (program :: programs) sink state
        sink (some (.disassembly (header source position program) fault)) next
  | full
      {position : Nat} {program : Program} {programs : List Program}
      {sink : Sink} {state next : σ} {lines : List String}
      (hanswer : (disassemble program.slots false).run state = (.ok lines, next))
      (hroom : ¬ sink.HasRoom (encode (block (header source position program) lines))) :
      Writes disassemble source position (program :: programs) sink state
        (sink.put (encode (block (header source position program) lines))).1
        (some (.output sink.whenFull)) next
  | fits
      {position : Nat} {program : Program} {programs : List Program}
      {sink written : Sink} {state next last : σ} {lines : List String}
      {fault? : Option ListingFault}
      (hanswer : (disassemble program.slots false).run state = (.ok lines, next))
      (hroom : sink.HasRoom (encode (block (header source position program) lines)))
      (rest : Writes disassemble source (position + 1) programs
        (sink.put (encode (block (header source position program) lines))).1 next
        written fault? last) :
      Writes disassemble source position (program :: programs) sink state written fault? last

variable {disassemble : Disassembler σ} {source : String}

/-- A program is written by asking for its lines and putting its block into the sink. -/
theorem run_writeFrom_cons
    (position : Nat)
    (program : Program)
    (programs : List Program)
    (sink : Sink)
    (state : σ) :
    (writeFrom disassemble source position (program :: programs) sink).run state =
      match (disassemble program.slots false).run state with
      | (.error fault, next) =>
          ((sink, some (.disassembly (header source position program) fault)), next)
      | (.ok lines, next) =>
          match sink.put (encode (block (header source position program) lines)) with
          | (written, none) =>
              (writeFrom disassemble source (position + 1) programs written).run next
          | (written, some cause) => ((written, some (.output cause)), next) := by
  rw [writeFrom, StateT.run_bind]
  rcases (disassemble program.slots false).run state with ⟨fault | lines, next⟩
  · rfl
  · change
      StateT.run
        (match sink.put (encode (block (header source position program) lines)) with
        | (written, none) => writeFrom disassemble source (position + 1) programs written
        | (written, some cause) => pure (written, some (ListingFault.output cause))) next =
      match sink.put (encode (block (header source position program) lines)) with
      | (written, none) =>
          (writeFrom disassemble source (position + 1) programs written).run next
      | (written, some cause) => ((written, some (ListingFault.output cause)), next)
    rcases sink.put (encode (block (header source position program) lines)) with
      ⟨written, _ | cause⟩ <;> rfl

/-- Writing goes on as the relation says. -/
theorem writes_writeFrom
    (disassemble : Disassembler σ)
    (source : String)
    (position : Nat)
    (programs : List Program)
    (sink : Sink)
    (state : σ) :
    Writes disassemble source position programs sink state
      ((writeFrom disassemble source position programs sink).run state).1.1
      ((writeFrom disassemble source position programs sink).run state).1.2
      ((writeFrom disassemble source position programs sink).run state).2 := by
  induction programs generalizing position sink state with
  | nil =>
      exact .done position sink state
  | cons program programs ih =>
      rw [run_writeFrom_cons]
      rcases hanswer : (disassemble program.slots false).run state with ⟨fault | lines, next⟩
      · exact .refused hanswer
      · dsimp only
        generalize hblock : encode (block (header source position program) lines) = bytes
        by_cases hroom : sink.HasRoom bytes
        · have hput : sink.put bytes = ((sink.put bytes).1, none) :=
            Prod.ext rfl (by rw [sink.put_snd, if_pos hroom])
          rw [hput]
          subst hblock
          exact .fits hanswer hroom (ih (position + 1) _ next)
        · have hput : sink.put bytes = ((sink.put bytes).1, some sink.whenFull) :=
            Prod.ext rfl (by rw [sink.put_snd, if_neg hroom])
          rw [hput]
          subst hblock
          exact .full hanswer hroom

/-- Recording calls changes neither what is written nor the state of the disassembler. -/
theorem run_writeFrom_recorded
    (disassemble : Disassembler σ)
    (source : String)
    (position : Nat)
    (programs : List Program)
    (sink : Sink)
    (state : σ)
    (calls : List Call) :
    ((writeFrom (recorded disassemble) source position programs sink).run (state, calls)).1 =
        ((writeFrom disassemble source position programs sink).run state).1 ∧
      ((writeFrom (recorded disassemble) source position programs sink).run (state, calls)).2.1 =
        ((writeFrom disassemble source position programs sink).run state).2 := by
  induction programs generalizing position sink state calls with
  | nil =>
      exact ⟨rfl, rfl⟩
  | cons program programs ih =>
      rw [run_writeFrom_cons, run_writeFrom_cons]
      rcases hanswer : (disassemble program.slots false).run state with ⟨fault | lines, next⟩
      · rw [run_recorded hanswer]
        exact ⟨rfl, rfl⟩
      · rw [run_recorded hanswer]
        dsimp only
        rcases sink.put (encode (block (header source position program) lines)) with
          ⟨written, _ | cause⟩
        · exact ih (position + 1) written next _
        · exact ⟨rfl, rfl⟩

/-- Writing neither flushes the sink nor changes what a flush of it gives. -/
theorem Writes.flush_fields
    {position : Nat}
    {programs : List Program}
    {sink written : Sink}
    {state last : σ}
    {fault? : Option ListingFault}
    (h : Writes disassemble source position programs sink state written fault? last) :
    written.flushes = sink.flushes ∧ written.whenFlushed = sink.whenFlushed := by
  induction h with
  | done position sink state =>
      exact ⟨rfl, rfl⟩
  | refused hanswer =>
      exact ⟨rfl, rfl⟩
  | full hanswer hroom =>
      exact ⟨rfl, rfl⟩
  | fits hanswer hroom rest ih =>
      exact ih

/-- The complete blocks are kept as far as the sink has room for them. -/
theorem Writes.kept_eq
    {position : Nat}
    {programs : List Program}
    {sink written : Sink}
    {state last : σ}
    {fault? : Option ListingFault}
    (h : Writes disassemble source position programs sink state written fault? last) :
    written.kept =
      sink.kept ++
        sink.fitting (completeText (replies disassemble source position programs state)) := by
  induction h with
  | done position sink state =>
      rw [replies, completeText_nil, Sink.fitting_of_hasRoom sink.hasRoom_nil, List.append_nil]
  | @refused _ _ _ sink _ _ _ hanswer =>
      rw [replies_cons hanswer, completeText_error, Sink.fitting_of_hasRoom sink.hasRoom_nil,
        List.append_nil]
  | full hanswer hroom =>
      rw [replies_cons hanswer, completeText_ok, Sink.fitting_append_of_not_hasRoom hroom,
        Sink.kept_put]
  | fits hanswer hroom rest ih =>
      rw [ih, replies_cons hanswer, completeText_ok, Sink.fitting_append hroom, Sink.kept_put,
        Sink.fitting_of_hasRoom hroom, List.append_assoc]

/-- The sink refuses if the complete blocks do not fit; else the first program without an
answer decides. -/
theorem Writes.fault_eq
    {position : Nat}
    {programs : List Program}
    {sink written : Sink}
    {state last : σ}
    {fault? : Option ListingFault}
    (h : Writes disassemble source position programs sink state written fault? last) :
    fault? =
      if sink.HasRoom (completeText (replies disassemble source position programs state)) then
        firstFault? (replies disassemble source position programs state)
      else some (.output sink.whenFull) := by
  induction h with
  | done position sink state =>
      rw [replies, completeText_nil, if_pos sink.hasRoom_nil]
      rfl
  | @refused _ _ _ sink _ _ _ hanswer =>
      rw [replies_cons hanswer, completeText_error, if_pos sink.hasRoom_nil, firstFault?_error]
  | full hanswer hroom =>
      simp only [replies_cons hanswer, completeText_ok, Sink.hasRoom_append_iff, hroom,
        false_and, ↓reduceIte]
  | fits hanswer hroom rest ih =>
      simp only [ih, replies_cons hanswer, completeText_ok, Sink.hasRoom_append_iff, hroom,
        true_and, firstFault?_ok]
      rfl

end Runs

end Listing
end CaptureKit
