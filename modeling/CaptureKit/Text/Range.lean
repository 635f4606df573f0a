/-!
# Tables of code point ranges

Character classes beyond ASCII are given as tables of ranges.  A table is a plain
list, so membership is decided by going through it, and a class is the union of an
ASCII rule and one table that starts above ASCII.
-/

namespace CaptureKit
namespace Text

/-- Ranges of code points, both ends included. -/
abbrev RangeTable := List (Nat × Nat)

/-- Some range of the table holds the code point. -/
def RangeTable.covers
    (table : RangeTable)
    (code : Nat) :
    Bool :=
  table.any fun range => range.1 ≤ code && code ≤ range.2

/-- The union of a rule for ASCII and a table for everything above it. -/
def classOf
    (ascii : Char → Bool)
    (table : RangeTable)
    (c : Char) :
    Bool :=
  if c.toNat < 128 then ascii c else table.covers c.toNat

/-- Below 128 only the ASCII rule counts. -/
theorem classOf_ascii
    (ascii : Char → Bool)
    (table : RangeTable)
    {c : Char}
    (h : c.toNat < 128) :
    classOf ascii table c = ascii c := by
  simp [classOf, h]

end Text
end CaptureKit
