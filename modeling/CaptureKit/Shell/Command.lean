import CaptureKit.Text.Octet

/-!
# Commands of a shell script

A script is made of commands, and a command of words.  A word is a row of pieces: text,
parameters, outputs of commands and arithmetic, each either quoted or not, since only what
stands outside quotes is cut at blanks later.
-/

namespace CaptureKit
namespace Shell

open Text

/-- What happens to the value of a parameter before it is used. -/
inductive Change
  /-- It takes the place of an unset parameter. -/
  | default
  /-- It becomes the value of an unset parameter. -/
  | assign
  /-- It takes the place of a set parameter. -/
  | alternative
  /-- It is the complaint about an unset parameter. -/
  | require
  /-- It is a pattern to cut off at the front, or at the end. -/
  | cut (front longest : Bool)
  deriving DecidableEq

/-- What a redirection connects a stream with. -/
inductive Connection
  /-- A file to read. -/
  | source
  /-- A file that is emptied first; if it is `forced`, even if it must not be. -/
  | target (forced : Bool)
  /-- The end of a file. -/
  | ending
  /-- A file to read and write. -/
  | both
  /-- Another stream. -/
  | stream
  /-- A text in the script itself, by its number. -/
  | document (index : Nat)
  deriving DecidableEq

mutual

/-- A piece of a word. -/
inductive Piece
  /-- Text, or with no letters the place where quotes began. -/
  | text (quoted : Bool) (s : Octets)
  | parameter (quoted : Bool) (name : Octets)
  /-- The number of octets in a value. -/
  | size (quoted : Bool) (name : Octets)
  /-- A value with a change; if it is `full`, an empty value counts as unset. -/
  | changed (quoted : Bool) (name : Octets) (full : Bool) (change : Change)
      (argument : List Piece)
  /-- A parameter that makes no sense. -/
  | senseless
  | output (quoted : Bool) (body : Command)
  | arithmetic (quoted : Bool) (expression : List Piece)

/-- A stream of a command and what it is connected with. -/
inductive Redirection
  | mk (stream : Nat) (connection : Connection) (operand : List Piece)

/-- A part of a case: patterns and what to do if one of them fits. -/
inductive Branch
  | mk (patterns : List (List Piece)) (body : Command)

/-- A command. -/
inductive Command
  | nothing
  | simple (line : Nat) (assignments words : List (List Piece))
      (redirections : List Redirection)
  | redirected (line : Nat) (body : Command) (redirections : List Redirection)
  | pipeline (commands : List Command)
  | negated (body : Command)
  /-- Goes on to the second command if the first has this success. -/
  | chain (success : Bool) (first second : Command)
  | sequence (first second : Command)
  /-- Runs on its own while the script goes on. -/
  | background (body : Command) (redirections : List Redirection)
  /-- Keeps its changes to itself. -/
  | isolated (line : Nat) (body : Command) (redirections : List Redirection)
  | choice (condition yes no : Command)
  /-- Repeats its body while the condition has this success. -/
  | loop (success : Bool) (condition body : Command)
  /-- Repeats its body for each of the words. -/
  | each (line : Nat) (name : Octets) (words : List (List Piece)) (body : Command)
  | select (line : Nat) (subject : List Piece) (branches : List Branch)
  | function (name : Octets) (body : Command)

end

/-- A word before it is expanded. -/
abbrev Word := List Piece

/-- The stream that a redirection is about. -/
def Redirection.stream : Redirection → Nat
  | .mk stream _ _ => stream

/-- Nothing to run. -/
def Command.isNothing : Command → Bool
  | .nothing => true
  | _ => false

/-- How many processes run a command in the background. -/
def Command.processes : Command → Nat
  | .pipeline commands => commands.length
  | _ => 1

/-- The text of a word that is unquoted text throughout. -/
def plainText? : Word → Option Octets
  | [] => some []
  | .text false s :: rest => (plainText? rest).map (s ++ ·)
  | _ => none

/-- The text of a word with its quotes left out; pieces that are no text are dropped. -/
def bareText (word : Word) : Octets :=
  word.flatMap fun
    | .text _ s => s
    | _ => []

/-- All parameters of the script, each a word of its own. -/
def allParameters : Word := [.text true [], .parameter true ['@']]

/-- A letter or an underscore. -/
def isNameStart (c : Char) : Bool :=
  c.isAlpha || c == '_'

/-- A character in a name. -/
def isNameChar (c : Char) : Bool :=
  c.isAlphanum || c == '_'

/-- A name of a variable or a function. -/
def isName : Octets → Bool
  | c :: name => isNameStart c && name.all isNameChar
  | [] => false

/-- A parameter whose name is one special character. -/
def isSpecial (c : Char) : Bool :=
  c.isDigit || ['#', '*', '@', '?', '$', '!', '-'].contains c

end Shell
end CaptureKit
