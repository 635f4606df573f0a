import CaptureKit.Text.Octet

/-!
# Names in complaints

A tool that complains about a file puts its name between quotes, so that the name could
be typed again: between double quotes if it holds a single quote and nothing that double
quotes change, and between single quotes otherwise.  What cannot be typed is spelled by
its number.  Some tools leave the quotes out where nothing in a name asks for them.
-/

namespace CaptureKit
namespace Tools

open Text

/-- The single quote. -/
def apostrophe : Char := Char.ofNat 39

/-- The mark that encloses a script whose output is wanted. -/
def backTick : Char := Char.ofNat 96

/-- An octet that shows as itself. -/
def isShown (c : Char) : Bool :=
  32 ≤ c.toNat && c.toNat ≤ 126

/-- The letter that stands for a control octet behind a backslash. -/
def controlLetter? (c : Char) : Option Char :=
  match c.toNat with
  | 7 => some 'a'
  | 8 => some 'b'
  | 9 => some 't'
  | 10 => some 'n'
  | 11 => some 'v'
  | 12 => some 'f'
  | 13 => some 'r'
  | _ => none

/-- The last three octal digits of an octet. -/
def threeOctal (c : Char) : Octets :=
  [c.toNat / 64 % 8, c.toNat / 8 % 8, c.toNat % 8].map Nat.digitChar

/-- An octet behind a backslash. -/
def backslashed (c : Char) : Octets :=
  match controlLetter? c with
  | some letter => ['\\', letter]
  | none => '\\' :: threeOctal c

/-- Octets that mean something to a shell wherever they stand, apart from quotes. -/
def shellMarks : List Char :=
  [' ', '!', '"', '$', '&', '(', ')', '*', ':', ';', '<', '=', '>', '?', '[', '\\', '^', backTick,
    '|', apostrophe]

/-- A name that has to be quoted. -/
def needsQuotes (name : Octets) : Bool :=
  name.isEmpty || name.any (fun c => !isShown c || shellMarks.contains c) ||
    name.head?.any (fun c => c == '#' || c == '~') || name == ['\x7b'] || name == ['\x7d']

/-- An octet that double quotes leave alone and that is no mark of its own. -/
def isPlainInDouble (c : Char) : Bool :=
  c.isAlphanum || [' ', '#', '~', '%', '+', ',', '-', '.', '/', ':', ']', '_', '@',
    apostrophe].contains c

/-- A name between single quotes from some place on; `spelling` says whether octets are
just spelled by number. -/
def singleQuotedFrom
    (spelling : Bool) :
    Octets → Octets
  | [] => [apostrophe]
  | c :: name =>
      if c = apostrophe then
        [apostrophe, '\\', apostrophe, apostrophe] ++ singleQuotedFrom false name
      else if isShown c then
        (if spelling then [apostrophe, apostrophe] else []) ++ c :: singleQuotedFrom false name
      else
        (if spelling then [] else [apostrophe, '$', apostrophe]) ++ backslashed c ++
          singleQuotedFrom true name

/-- A name between quotes. -/
def quotedName (name : Octets) : Octets :=
  if name.contains apostrophe && name.all isPlainInDouble then '"' :: (name ++ ['"'])
  else apostrophe :: singleQuotedFrom false name

/-- A name, between quotes only if it has to be. -/
def nameIfPlain (name : Octets) : Octets :=
  if needsQuotes name then quotedName name else name

/-- An argument that is no name, between single quotes. -/
def quotedArgument (argument : Octets) : Octets :=
  apostrophe :: (argument.flatMap fun c =>
    if c = apostrophe then ['\\', apostrophe]
    else if c = '\\' then ['\\', '\\']
    else if isShown c then [c] else backslashed c) ++ [apostrophe]

end Tools
end CaptureKit
