import CaptureKit.Shell.Command

/-!
# Reading a script

A script is read from its front, character by character.  The reader knows its line, may
look one token ahead, and keeps the texts that were announced by `<<` and begin on the
next line.  A backslash before the end of a line joins it with the next one.  The text of
an alias is put in front of what is left, and is open until it is read.
-/

namespace CaptureKit
namespace Shell

open Text

/-- What a script is made of. -/
inductive Token
  | word (word : Word)
  | keyword (name : String)
  | operator (symbol : String)
  /-- A redirection by its symbol, with the stream in front of it. -/
  | redirection (stream : Option Nat) (symbol : String)
  | lineEnd
  | scriptEnd

/-- Why a script cannot be read. -/
inductive SyntaxFault
  | openQuote
  | openBrace
  | openArithmetic
  | openTick
  | badLoopName
  | badFunctionName
  | unexpected (found : String) (expected : Option String)

/-- The wording of a fault. -/
def SyntaxFault.words : SyntaxFault → String
  | .openQuote => "Syntax error: Unterminated quoted string"
  | .openBrace => "Syntax error: Missing '\x7d'"
  | .openArithmetic => "Syntax error: Missing '))'"
  | .openTick => "Syntax error: EOF in backquote substitution"
  | .badLoopName => "Syntax error: Bad for loop variable"
  | .badFunctionName => "Syntax error: Bad function name"
  | .unexpected found none => "Syntax error: " ++ found ++ " unexpected"
  | .unexpected found (some expected) =>
      "Syntax error: " ++ found ++ " unexpected (expecting " ++ expected ++ ")"

/-- How a fault names a token. -/
def Token.shown : Token → String
  | .word _ => "word"
  | .keyword name => "\"" ++ name ++ "\""
  | .operator symbol => "\"" ++ symbol ++ "\""
  | .redirection .. => "redirection"
  | .lineEnd => "newline"
  | .scriptEnd => "end of file"

/-- A text that was announced and not yet begun. -/
structure Announced where
  index : Nat
  /-- The line that ends it. -/
  delimiter : Octets
  /-- Whether parameters in it are replaced. -/
  expanded : Bool
  /-- Whether tabs at the front of its lines are dropped. -/
  unindented : Bool

/-- Texts that stand for the first word of a command, by that word. -/
abbrev Aliases := List (Octets × Octets)

/-- An alias whose text is being read. -/
structure OpenAlias where
  name : Octets
  /-- How much is left behind its text. -/
  behind : Nat
  /-- Its text ends in a blank, so the word behind it may be an alias as well. -/
  goesOn : Bool

/-- A reader on its way through a script. -/
structure Place where
  rest : Octets
  line : Nat
  /-- A token that was read and put back. -/
  ahead : Option Token
  announced : List Announced
  /-- The texts that were read, the last one first. -/
  documents : List Word
  /-- The number of texts read or announced so far. -/
  documentCount : Nat
  aliases : Aliases
  openAliases : List OpenAlias

namespace Place

/-- The text of an alias that is not open. -/
def alias?
    (place : Place)
    (name : Octets) :
    Option Octets :=
  if place.openAliases.any fun item => item.name == name && item.behind ≤ place.rest.length then
    none
  else place.aliases.lookup name

/-- An alias that goes on was left behind since so much was left. -/
def goesOn
    (place : Place)
    (before : Nat) :
    Bool :=
  place.openAliases.any fun item =>
    item.goesOn && item.behind ≤ before && place.rest.length < item.behind

/-- The place at the front of the text of an alias. -/
def inAlias
    (place : Place)
    (name text : Octets) :
    Place :=
  let length := place.rest.length
  let goesOn := text.getLast?.any fun c => c == ' ' || c == '\t'
  { place with
    rest := text ++ place.rest
    openAliases := ⟨name, length, goesOn⟩ :: place.openAliases.filter (·.behind ≤ length) }

end Place

/-- Reads from a place; a fault tells its line. -/
abbrev Reader := StateT Place (Except (SyntaxFault × Nat))

namespace Reader

/-- Ends with a fault on the current line. -/
def fail {α : Type} (fault : SyntaxFault) : Reader α := fun place =>
  .error (fault, place.line)

/-- Passes over ends of lines behind a backslash. -/
def passJoins : Octets → Nat → Octets × Nat
  | '\\' :: '\n' :: rest, line => passJoins rest (line + 1)
  | rest, line => (rest, line)

/-- The next character, lines joined, which is not taken. -/
def peek : Reader (Option Char) := fun place =>
  let (rest, line) := passJoins place.rest place.line
  .ok (rest.head?, { place with rest := rest, line := line })

/-- The next character as it is, which is not taken. -/
def peekPlain : Reader (Option Char) := fun place =>
  .ok (place.rest.head?, place)

/-- Takes one character. -/
def skip : Reader Unit := fun place =>
  match place.rest with
  | c :: rest =>
      .ok ((), { place with
        rest := rest
        line := if c = '\n' then place.line + 1 else place.line })
  | [] => .ok ((), place)

/-- Takes the next character, lines joined. -/
def next : Reader (Option Char) := do
  let c ← peek
  skip
  return c

/-- Takes the next character if it is the given one, and says whether it was. -/
def passes (c : Char) : Reader Bool := do
  if (← peek) = some c then
    skip
    return true
  else return false

/-- Takes characters while they are in a class; `fuel` bounds their number. -/
def takeWhile
    (inClass : Char → Bool) :
    (fuel : Nat) → Reader Octets
  | 0 => return []
  | fuel + 1 => do
      match ← peek with
      | some c =>
          if inClass c then
            skip
            return c :: (← takeWhile inClass fuel)
          else return []
      | none => return []

/-- Takes everything up to a character, which must come; lines are not joined. -/
def takeUntil
    (fault : SyntaxFault)
    (c : Char) :
    Reader Octets := fun place =>
  let taken := place.rest.takeWhile (· != c)
  let line := place.line + taken.count '\n'
  match place.rest.drop taken.length with
  | _ :: rest => .ok (taken, { place with rest := rest, line := line })
  | [] => .error (fault, line)

/-- How many characters are left. -/
def left : Reader Nat := fun place =>
  .ok (place.rest.length, place)

/-- Runs a reader on another text and comes back. -/
def within
    {α : Type}
    (text : Octets)
    (reader : Reader α) :
    Reader α := fun place => do
  let (result, after) ← reader { place with
    rest := text
    ahead := none
    announced := []
    openAliases := [] }
  return (result, { after with
    rest := place.rest
    line := place.line
    ahead := place.ahead
    announced := place.announced
    openAliases := place.openAliases })

/-- The line of the reader. -/
def currentLine : Reader Nat := fun place =>
  .ok (place.line, place)

/-- Runs a reader on the same text that sees none of the announced texts. -/
def nested
    {α : Type}
    (reader : Reader α) :
    Reader α := fun place => do
  let (result, after) ← reader { place with ahead := none, announced := [] }
  return (result, { after with ahead := place.ahead, announced := place.announced })

/-- Puts a token back. -/
def putBack (token : Token) : Reader Unit := fun place =>
  .ok ((), { place with ahead := some token })

/-- Fails on a token that should not be where it is. -/
def surprised
    {α : Type}
    (found : Token)
    (expected : Option Token) :
    Reader α :=
  fail (.unexpected found.shown (expected.map Token.shown))

end Reader

end Shell
end CaptureKit
