import CaptureKit.Storage.IoFault
import CaptureKit.Text.Utf8

/-!
# Sinks

A sink takes the bytes of an output.  It may have room for some number of bytes only:
then it keeps the bytes that still fit and refuses the rest.

Main statements: what is in a sink only ever grows (`Sink.kept_put`), and putting two
pieces of output one after the other is putting them together (`Sink.put_append`).  A sink
has room for both exactly if it has room for the first, and then for the second
(`Sink.hasRoom_append_iff`).
-/

namespace CaptureKit
namespace Storage

open Text

/-- Where output goes. -/
structure Sink where
  /-- The bytes that have arrived. -/
  kept : Bytes
  /-- How many more bytes fit, if there is a bound. -/
  room : Option Nat
  /-- What a full sink answers. -/
  whenFull : IoFault
  /-- What the final flush answers, if it fails. -/
  whenFlushed : Option IoFault
  /-- How often the sink was flushed. -/
  flushes : Nat

namespace Sink

/-- A sink without bound. -/
def unbounded : Sink := ⟨[], none, .other "no room", none, 0⟩

/-- The part of an output that a sink has room for. -/
def fitting
    (sink : Sink)
    (bytes : Bytes) :
    Bytes :=
  match sink.room with
  | none => bytes
  | some room => bytes.take room

/-- Puts bytes into the sink; it refuses if not all of them fit. -/
def put
    (sink : Sink)
    (bytes : Bytes) :
    Sink × Option IoFault :=
  ({ sink with
      kept := sink.kept ++ sink.fitting bytes
      room := sink.room.map (· - bytes.length) },
    if sink.room.any (· < bytes.length) then some sink.whenFull else none)

/-- Flushes the sink. -/
def flush (sink : Sink) : Sink × Option IoFault :=
  ({ sink with flushes := sink.flushes + 1 }, sink.whenFlushed)

/-- What was kept stays, and the part that fits comes behind it. -/
@[simp] theorem kept_put
    (sink : Sink)
    (bytes : Bytes) :
    (sink.put bytes).1.kept = sink.kept ++ sink.fitting bytes :=
  rfl

/-- Two puts in a row leave the sink as one put of both does. -/
theorem put_append
    (sink : Sink)
    (first second : Bytes) :
    ((sink.put first).1.put second).1 = (sink.put (first ++ second)).1 := by
  cases hroom : sink.room with
  | none => simp [put, fitting, hroom]
  | some room => simp [put, fitting, hroom, List.take_append, Nat.sub_sub]

/-- All of the bytes fit into the sink. -/
def HasRoom
    (sink : Sink)
    (bytes : Bytes) :
    Prop :=
  ∀ room ∈ sink.room, bytes.length ≤ room

instance (sink : Sink) (bytes : Bytes) : Decidable (sink.HasRoom bytes) :=
  inferInstanceAs (Decidable (∀ room ∈ sink.room, bytes.length ≤ room))

/-- Nothing always fits. -/
@[simp] theorem hasRoom_nil (sink : Sink) : sink.HasRoom [] :=
  fun room _ => Nat.zero_le room

/-- A put is accepted exactly if all of it fits. -/
theorem put_snd
    (sink : Sink)
    (bytes : Bytes) :
    (sink.put bytes).2 = if sink.HasRoom bytes then none else some sink.whenFull := by
  cases hroom : sink.room with
  | none => simp [put, HasRoom, hroom]
  | some room =>
      by_cases h : bytes.length ≤ room
      · simp [put, HasRoom, hroom, h, Nat.not_lt.2 h]
      · simp [put, HasRoom, hroom, h, Nat.not_le.1 h]

/-- What fits is kept as a whole. -/
theorem fitting_of_hasRoom
    {sink : Sink}
    {bytes : Bytes}
    (h : sink.HasRoom bytes) :
    sink.fitting bytes = bytes := by
  cases hroom : sink.room with
  | none => simp [fitting, hroom]
  | some room => simpa [fitting, hroom] using List.take_of_length_le (h room hroom)

/-- What fits behind a first piece is judged by the room that this piece leaves. -/
theorem fitting_append
    {sink : Sink}
    {first : Bytes}
    (h : sink.HasRoom first)
    (second : Bytes) :
    sink.fitting (first ++ second) = first ++ (sink.put first).1.fitting second := by
  cases hroom : sink.room with
  | none => simp [put, fitting, hroom]
  | some room =>
      have hfirst : first.take room = first := List.take_of_length_le (h room hroom)
      simp [put, fitting, hroom, List.take_append, hfirst]

/-- Of two pieces of which the first does not fit, nothing of the second is kept. -/
theorem fitting_append_of_not_hasRoom
    {sink : Sink}
    {first : Bytes}
    (h : ¬ sink.HasRoom first)
    (second : Bytes) :
    sink.fitting (first ++ second) = sink.fitting first := by
  cases hroom : sink.room with
  | none => exact absurd (by simp [HasRoom, hroom]) h
  | some room =>
      have hless : room < first.length := by
        simpa [HasRoom, hroom] using h
      simp [fitting, hroom, List.take_append, Nat.sub_eq_zero_of_le (Nat.le_of_lt hless)]

/-- There is room for two pieces exactly if there is room for the second behind the first. -/
theorem hasRoom_append_iff
    (sink : Sink)
    (first second : Bytes) :
    sink.HasRoom (first ++ second) ↔
      sink.HasRoom first ∧ (sink.put first).1.HasRoom second := by
  cases hroom : sink.room with
  | none => simp [HasRoom, put, hroom]
  | some room =>
      simp only [HasRoom, put, hroom, Option.map_some, Option.mem_def, Option.some.injEq,
        forall_eq', List.length_append]
      omega

end Sink

end Storage
end CaptureKit
