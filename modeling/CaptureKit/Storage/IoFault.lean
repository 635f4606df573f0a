import CaptureKit.Report

/-!
# Failures of input and output

What the operating system or the text reader can refuse, with the wording under which
a report names it.
-/

namespace CaptureKit
namespace Storage

/-- Refusals of the operating system. -/
inductive OsError
  | notPermitted
  | noEntry
  | inputOutput
  | noDevice
  | tooMuch
  | notStartable
  | badDescriptor
  | accessDenied
  | alreadyThere
  | notFolder
  | isFolder
  | invalidArgument
  | noSpace
  | brokenPipe
  | nameTooLong
  | notEmpty
  | tooManyLinks
  deriving DecidableEq, Repr

/-- The number of a refusal. -/
def OsError.number : OsError → Nat
  | .notPermitted => 1
  | .noEntry => 2
  | .inputOutput => 5
  | .noDevice => 6
  | .tooMuch => 7
  | .notStartable => 8
  | .badDescriptor => 9
  | .accessDenied => 13
  | .alreadyThere => 17
  | .notFolder => 20
  | .isFolder => 21
  | .invalidArgument => 22
  | .noSpace => 28
  | .brokenPipe => 32
  | .nameTooLong => 36
  | .notEmpty => 39
  | .tooManyLinks => 40

/-- The words of a refusal. -/
def OsError.words : OsError → String
  | .notPermitted => "Operation not permitted"
  | .noEntry => "No such file or directory"
  | .inputOutput => "Input/output error"
  | .noDevice => "No such device or address"
  | .tooMuch => "Argument list too long"
  | .notStartable => "Exec format error"
  | .badDescriptor => "Bad file descriptor"
  | .accessDenied => "Permission denied"
  | .alreadyThere => "File exists"
  | .notFolder => "Not a directory"
  | .isFolder => "Is a directory"
  | .invalidArgument => "Invalid argument"
  | .noSpace => "No space left on device"
  | .brokenPipe => "Broken pipe"
  | .nameTooLong => "File name too long"
  | .notEmpty => "Directory not empty"
  | .tooManyLinks => "Too many levels of symbolic links"

/-- Why reading, writing or starting a program failed. -/
inductive IoFault
  /-- The operating system refused. -/
  | os (error : OsError)
  /-- The bytes that were read are no text. -/
  | notText
  /-- A file name holds a NUL character. -/
  | nulInName
  /-- A program name or argument holds a NUL character. -/
  | nulInArgument
  /-- There is no memory left for what is read. -/
  | outOfMemory
  /-- Any other failure, in its own words. -/
  | other (message : String)
  deriving DecidableEq, Repr

/-- Something could be opened, but not read. -/
def IoFault.isOfReading : IoFault → Bool
  | .os .isFolder | .os .inputOutput | .os .badDescriptor | .outOfMemory => true
  | _ => false

/-- The wording of a failure. -/
def IoFault.message : IoFault → String
  | .os error => s!"{error.words} (os error {error.number})"
  | .notText => "stream did not contain valid UTF-8"
  | .nulInName => "file name contained an unexpected NUL byte"
  | .nulInArgument => "nul byte found in provided data"
  | .outOfMemory => "out of memory"
  | .other message => message

/-- A failure of input or output has no cause of its own. -/
def IoFault.report (fault : IoFault) : Report :=
  .plain fault.message

end Storage
end CaptureKit
