import CaptureKit.Shell.Background
import CaptureKit.Shell.Expansion
import CaptureKit.Tools.Condition

/-!
# Commands of the shell itself

A command of the shell changes the shell that runs it and sets a status.  One that gives up
complains first.  Here is what these commands share: options, numbers, and text that reads
as itself.
-/

namespace CaptureKit
namespace Shell

open Storage Text Tools

/-- A command of the shell, given its arguments. -/
abbrev Builtin := List Octets → Act Unit

/-- Gives up on a letter that is no option. -/
def illegalOption {α : Type} (letter : Char) : Act α :=
  abort 2 ("Illegal option -".toList ++ [letter])

/-- The arguments behind the options, of which there may be these letters only, and the
letters that were given. -/
def readOptions
    (letters : List Char) :
    List Octets → Act (List Char × List Octets)
  | ['-', '-'] :: rest => return ([], rest)
  | ('-' :: c :: more) :: rest => do
      match (c :: more).find? (!letters.contains ·) with
      | some letter => illegalOption letter
      | none => do
          let (given, rest) ← readOptions letters rest
          return (c :: more ++ given, rest)
  | rest => return ([], rest)

/-- The largest number that an argument can be. -/
def largestNumber : Nat := 2147483647

/-- The number that an argument has to be. -/
def needNumber (argument : Octets) : Act Nat := do
  match (signedNumber? argument).filter fun number : Int => 0 ≤ number && number ≤ largestNumber with
  | some number => return number.toNat
  | none => abort 2 ("Illegal number: ".toList ++ argument)

/-- Text between single quotes, single quotes between double ones. -/
def shellQuoted : (fuel : Nat) → Octets → Octets
  | 0, _ => []
  | fuel + 1, s =>
      let plain := s.takeWhile (· != apostrophe)
      let quotes := (s.drop plain.length).takeWhile (· == apostrophe)
      let rest := s.drop (plain.length + quotes.length)
      apostrophe :: (plain ++ [apostrophe]) ++
        (if quotes.isEmpty then [] else '"' :: (quotes ++ ['"'])) ++
        (if rest.isEmpty then [] else shellQuoted fuel rest)

/-- Text that reads as itself. -/
def readable (s : Octets) : Octets :=
  shellQuoted (s.length + 1) s

/-- Items in the order of their names. -/
def byName {α : Type} (items : List (Octets × α)) : List (Octets × α) :=
  items.mergeSort fun a b => String.ofList a.1 ≤ String.ofList b.1

/-- Ends with success and does nothing. -/
def succeed : Builtin := fun _ => setStatus 0

/-- Ends with failure and does nothing. -/
def failSilently : Builtin := fun _ => setStatus 1

end Shell
end CaptureKit
