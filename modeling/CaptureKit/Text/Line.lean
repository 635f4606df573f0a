/-!
# Lines

A text is cut at line feeds.  One carriage return before a line feed belongs to the
line end, and a last line needs no line end.
-/

namespace CaptureKit
namespace Text

/-- A line without the carriage return of its line end. -/
def dropReturn (line : List Char) : List Char :=
  if line.getLast? = some '\r' then line.dropLast else line

/-- The lines of a text. -/
def lines (s : List Char) : List (List Char) :=
  if s = [] then []
  else
    match _h : s.dropWhile (· != '\n') with
    | [] => [s.takeWhile (· != '\n')]
    | _ :: rest => dropReturn (s.takeWhile (· != '\n')) :: lines rest
termination_by s.length
decreasing_by
  have := (List.dropWhile_sublist (l := s) (· != '\n')).length_le
  rw [_h, List.length_cons] at this
  omega

/-- Nothing has no lines. -/
theorem lines_nil : lines [] = [] := by
  rw [lines]
  simp

/-- A finished line comes first, without its line end. -/
theorem lines_cons
    {line : List Char}
    (rest : List Char)
    (h : '\n' ∉ line) :
    lines (line ++ '\n' :: rest) = dropReturn line :: lines rest := by
  have all : ∀ c ∈ line, (c != '\n') = true := by
    intro c hc
    simp only [bne_iff_ne, ne_eq]
    rintro rfl
    exact h hc
  have htake : (line ++ '\n' :: rest).takeWhile (· != '\n') = line := by
    rw [List.takeWhile_append_of_pos all]
    simp
  have hdrop : (line ++ '\n' :: rest).dropWhile (· != '\n') = '\n' :: rest := by
    rw [List.dropWhile_append_of_pos all]
    simp
  rw [lines]
  simp only [List.append_eq_nil_iff, reduceCtorEq, and_false, ↓reduceIte]
  split
  · next h0 => rw [hdrop] at h0; cases h0
  · next h0 => rw [hdrop] at h0; cases h0; rw [htake]

end Text
end CaptureKit
