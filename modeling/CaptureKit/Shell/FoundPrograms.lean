import CaptureKit.Text.Octet

/-!
# Programs that were found

A shell remembers where it has found programs by their names, until the folders in which it
looks for them are others.  The list of what it remembers is in the order of a table with a
fixed number of rows, in which the row of a name follows from its letters.
-/

namespace CaptureKit
namespace Shell

open Text

/-- A program that was found by its name. -/
structure FoundProgram where
  name : Octets
  path : Octets
  /-- The shell has changed its folder since. -/
  isOld : Bool

/-- The programs that a shell remembers, the first one first. -/
abbrev FoundPrograms := List FoundProgram

namespace FoundPrograms

/-- How many rows the table has. -/
def rowCount : Nat := 31

/-- The row of a name. -/
def rowOf (name : Octets) : Nat :=
  let front := 16 * (name.headD '\x00').toNat
  name.foldl (fun sum c => sum + c.toNat) front % 32768 % rowCount

/-- The path at which a program was found. -/
def path?
    (found : FoundPrograms)
    (name : Octets) :
    Option Octets :=
  (found.find? (·.name == name)).map (·.path)

/-- The programs but for one. -/
def without
    (found : FoundPrograms)
    (name : Octets) :
    FoundPrograms :=
  found.filter (·.name != name)

/-- The programs with one more, which keeps its place if it was there already. -/
def adding
    (found : FoundPrograms)
    (name path : Octets) :
    FoundPrograms :=
  if found.any (·.name == name) then
    found.map fun program => if program.name == name then ⟨name, path, false⟩ else program
  else found ++ [⟨name, path, false⟩]

/-- The programs after the folder was changed. -/
def aged (found : FoundPrograms) : FoundPrograms :=
  found.map fun program => { program with isOld := true }

/-- The lines that list the programs, row by row. -/
def listing (found : FoundPrograms) : Octets :=
  (found.mergeSort fun a b => rowOf a.name ≤ rowOf b.name).flatMap fun program =>
    program.path ++ (if program.isOld then ['*', '\n'] else ['\n'])

end FoundPrograms

end Shell
end CaptureKit
