import CaptureKit.Tools.Basic

/-!
# What is started

Starting an entry starts a program.  A file can be started if its rights allow it and its
first line names, behind `#!`, what reads it; that is started instead, with the path of
the file as an argument.
-/

namespace CaptureKit
namespace Tools

open Storage Text

/-- The program that is started, the name under which it runs, and its arguments. -/
structure Start where
  program : String
  name : Octets
  arguments : List Octets

/-- How many octets an argument or a variable may have, with the one that ends it. -/
def argumentLimit : Nat := 131072

/-- How many octets all arguments and variables may have, with those that say where each
of them is. -/
def startLimit : Nat := 2097152

/-- The arguments of a program and the variables that it gets to see are not too long. -/
def Start.hasRoom
    (start : Start)
    (environment : List (Octets × Octets)) :
    Bool :=
  let sizes := (start.name :: start.arguments).map (·.length + 1) ++
    environment.map fun item => item.1.length + item.2.length + 2
  sizes.all (· ≤ argumentLimit) && sizes.foldl (fun sum size => sum + size + 8) 0 ≤ startLimit

/-- A blank on the first line of a file that is started. -/
def isLineBlank (c : Char) : Bool :=
  c == ' ' || c == '\t'

/-- How many octets at the front of a file are looked at. -/
def frontSize : Nat := 256

/-- The path behind `#!` on the first line of a file, and the one argument that may follow
it. -/
def reader? : Octets → Option (Octets × List Octets)
  | '#' :: '!' :: rest =>
      let line := ((rest.take (frontSize - 2)).takeWhile (· != '\n')).dropWhile isLineBlank
      let path := line.takeWhile fun c => !isLineBlank c && c.toNat != 0
      let argument := (line.drop path.length).dropWhile isLineBlank
      let argument := (argument.reverse.dropWhile isLineBlank).reverse
      if path.isEmpty then none
      else some (path, if argument.isEmpty then [] else [argument])
  | _ => none

/-- How many files may each name the next one as what reads it. -/
def readerLimit : Nat := 5

/-- What is started for a path, where `pathOf` says what a path means to the root. -/
def startOf
    (tree : FileTree)
    (pathOf : Octets → String) :
    (limit : Nat) → (path name : Octets) → (arguments : List Octets) → Except IoFault Start
  | 0, _, _, _ => .error (.os .tooManyLinks)
  | limit + 1, path, name, arguments =>
      match tree.entryAt (pathOf path) with
      | .error fault => .error fault
      | .ok (location, .program program _) =>
          if tree.isStartable location then .ok ⟨program, name, arguments⟩
          else .error (.os .accessDenied)
      | .ok (location, .file content) =>
          if !tree.isStartable location then .error (.os .accessDenied)
          else
            match reader? ((octetsOf (content.take frontSize))) with
            | none => .error (.os .notStartable)
            | some (reader, argument) =>
                startOf tree pathOf limit reader reader (argument ++ path :: arguments)
      | .ok _ => .error (.os .accessDenied)

end Tools
end CaptureKit
