/-!
# Reports of failures

A failure is reported by one line of its own and the lines of its causes, the nearest
cause first.
-/

namespace CaptureKit

/-- The wording of a failure and of the causes behind it. -/
structure Report where
  message : String
  causes : List String
  deriving DecidableEq, Repr

namespace Report

/-- A failure with no cause behind it. -/
def plain (message : String) : Report := ⟨message, []⟩

/-- A failure that another one caused. -/
def dueTo
    (message : String)
    (cause : Report) :
    Report :=
  ⟨message, cause.message :: cause.causes⟩

/-- All lines of the report, its own first. -/
def lines (report : Report) : List String :=
  report.message :: report.causes

@[simp] theorem lines_dueTo
    (message : String)
    (cause : Report) :
    (dueTo message cause).lines = message :: cause.lines :=
  rfl

end Report

end CaptureKit
