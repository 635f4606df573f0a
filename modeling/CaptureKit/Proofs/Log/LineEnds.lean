import CaptureKit.Proofs.Log.EventLine
import CaptureKit.Text.Line

/-!
# Logs line by line

A log is read line by line, though no part of the reader cuts it into lines: no event goes
past a line feed, and none looks behind one.  The same holds of carriage returns, so it makes
no difference whether lines end in a line feed alone or in both characters.

The main statement collects this (`events_line_by_line`): two texts with a line feed between
them have the events of the first and then those of the second, the events of a log are those
of its lines, each stands on one line, and carriage returns at the ends of lines change
nothing.
-/

namespace CaptureKit
namespace Log

open Microcode Text

/-- The text with a carriage return in front of each line feed. -/
def withReturns (s : List Char) : List Char :=
  s.flatMap fun c => if c = '\n' then ['\r', '\n'] else [c]

/-- From the place on the event is written in the log, and there is no line feed in it. -/
def OnOneLine
    (kind : LogKind)
    (log : List Char)
    (place : Nat)
    (event : Event) :
    Prop :=
  ∃ written rest, log.drop place = written ++ rest ∧ '\n' ∉ written ∧
    Occurs kind event (written ++ rest) rest

section OneLine

/-- What is read in a log has no character of a line end in it. -/
theorem exists_taken_of_read
    {kind : LogKind}
    {cut : Char}
    (hcut : cut ∈ lineEndChars)
    {s rest : List Char}
    {found : Option Event}
    (hread : kind.reader.read s = some (found, rest)) :
    ∃ taken, s = taken ++ rest ∧ cut ∉ taken := by
  refine (breaksAt_reader kind hcut).exists_taken ?_ hread
  intro s item rest h
  obtain ⟨taken, rfl, -⟩ := opensWith_reader kind s item rest h
  exact ⟨kind.mark :: taken, rfl⟩

/-- No event stands at the end of a log. -/
theorem eventAt?_nil (kind : LogKind) : kind.eventAt? [] = none := by
  cases kind <;> rfl

/-- Each event of a log is found at a place of its own, on one line. -/
theorem exists_places_onOneLine
    (kind : LogKind)
    (log : List Char) :
    ∃ places : List Nat,
      places.Pairwise (· < ·) ∧
      List.Forall₂ (OnOneLine kind log) places (kind.events log) := by
  obtain ⟨places, hincreasing, -, hfound⟩ :=
    exists_positions kind.eventAt? (eventAt?_nil kind) log
  refine ⟨places, hincreasing, ?_⟩
  rw [events_eq_filterMap_tails]
  refine hfound.imp fun place event hevent => ?_
  obtain ⟨rest, hoccurs⟩ := eventAt?_eq_some_iff.1 hevent
  have hnewline : '\n' ∈ lineEndChars := by decide
  obtain ⟨written, htext, hline⟩ := exists_taken_of_read hnewline hoccurs.read
  exact ⟨written, rest, htext, hline, htext ▸ hoccurs⟩

end OneLine

section Returns

/-- Nothing has no events. -/
theorem events_nil (kind : LogKind) : kind.events [] = [] := by
  rw [LogKind.events, Reader.scan_nil, List.filterMap_nil]

/-- An empty line at the front of a log makes no difference. -/
theorem events_newline_cons
    (kind : LogKind)
    (log : List Char) :
    kind.events ('\n' :: log) = kind.events log := by
  have hcut := events_append_newline kind [] log
  rwa [events_nil, List.nil_append, List.nil_append] at hcut

/-- The carriage return of a line end makes no difference to a line. -/
theorem events_dropReturn
    (kind : LogKind)
    (line : List Char) :
    kind.events (dropReturn line) = kind.events line := by
  rw [dropReturn]
  split
  · next hlast =>
      obtain ⟨front, rfl⟩ := List.getLast?_eq_some_iff.1 hlast
      rw [List.dropLast_concat, events_append_cut kind (by decide), events_nil, List.append_nil]
  · rfl

/-- The events of a log are those of its lines, without their ends. -/
theorem events_lines
    (kind : LogKind)
    (log : List Char) :
    kind.events log = (lines log).flatMap kind.events := by
  fun_induction lines log with
  | case1 =>
      exact events_nil kind
  | case2 log hne hdrop =>
      have hline : log.takeWhile (· != '\n') = log := by
        have hjoin := List.takeWhile_append_dropWhile (p := (· != '\n')) (l := log)
        rwa [hdrop, List.append_nil] at hjoin
      rw [hline, List.flatMap_singleton]
  | case3 log hne c rest hdrop ih =>
      have hc := List.head?_dropWhile_not (· != '\n') log
      have hjoin := List.takeWhile_append_dropWhile (p := (· != '\n')) (l := log)
      simp only [hdrop, List.head?_cons, bne_eq_false_iff_eq] at hc
      rw [hdrop, hc] at hjoin
      rw [List.flatMap_cons, events_dropReturn, ← ih, ← events_append_newline, hjoin]

/-- A carriage return in front of each line feed makes no difference, whatever stands before. -/
theorem events_append_withReturns
    (kind : LogKind)
    (s log : List Char) :
    kind.events (s ++ withReturns log) = kind.events (s ++ log) := by
  -- The characters of a line are moved to the text before, up to the line feed that cuts.
  induction log generalizing s with
  | nil =>
      rfl
  | cons c log ih =>
      by_cases hc : c = '\n'
      · subst hc
        have hlog : kind.events (withReturns log) = kind.events log := ih []
        calc
          kind.events (s ++ withReturns ('\n' :: log))
              = kind.events (s ++ '\r' :: '\n' :: withReturns log) := rfl
          _ = kind.events s ++ kind.events (withReturns log) := by
              rw [events_append_cut kind (by decide), events_newline_cons]
          _ = kind.events (s ++ '\n' :: log) := by
              rw [hlog, events_append_newline]
      · have hreturns : withReturns (c :: log) = c :: withReturns log := by
          simp [withReturns, hc]
        rw [hreturns, List.append_cons, ih, ← List.append_cons]

end Returns

/-- A log is read line by line.  A line feed cuts its events in two, so that they are those of
its lines, in order; no event goes past a line feed; and it makes no difference whether lines
end in a line feed alone or with a carriage return in front of it. -/
theorem events_line_by_line (kind : LogKind) :
    (∀ s t, kind.events (s ++ '\n' :: t) = kind.events s ++ kind.events t) ∧
    (∀ log, kind.events log = (log.splitOn '\n').flatMap kind.events) ∧
    (∀ log, kind.events log = (lines log).flatMap kind.events) ∧
    (∀ log, ∃ places : List Nat,
      places.Pairwise (· < ·) ∧
      List.Forall₂ (OnOneLine kind log) places (kind.events log)) ∧
    (∀ log, kind.events (withReturns log) = kind.events log) := by
  refine ⟨events_append_newline kind, ?_, events_lines kind, exists_places_onOneLine kind,
    events_append_withReturns kind []⟩
  intro log
  rw [← events_intercalate, List.intercalate_splitOn]

end Log
end CaptureKit
