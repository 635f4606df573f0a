import CaptureKit.Shell.Reading
import CaptureKit.Tools.Naming

/-!
# Words of a script

Words are read piece by piece.  What a character means depends on where it stands: in
plain text, between double quotes, in the braces of a parameter, in arithmetic, or in a
text that `<<` announced.  An output of commands holds a whole script, so the readers
here are given one for scripts.
-/

namespace CaptureKit
namespace Shell

open Text

/-- Where in a word the reader is. -/
inductive Setting
  | plain
  /-- In the braces of a parameter outside quotes. -/
  | braces
  | double
  /-- In the braces of a parameter in quotes, perhaps in quotes of their own. -/
  | doubleBraces (inner : Bool)
  | document
  /-- In arithmetic, so many parentheses open. -/
  | arithmetic (depth : Nat)
  deriving DecidableEq

namespace Setting

/-- Text in this setting is quoted. -/
def quotes : Setting → Bool
  | .plain | .braces => false
  | _ => true

/-- A backslash before the character makes it plain. -/
def escapes (setting : Setting) (c : Char) : Bool :=
  !setting.quotes || c == '\\' || c == Tools.backTick || c == '$' ||
    (c == '"' && setting != .document) ||
    (c == '\x7d' && match setting with
      | .doubleBraces _ => true
      | _ => false)

/-- The setting of a word in the braces of a parameter. -/
def inBraces (setting : Setting) : Setting :=
  if setting.quotes then .doubleBraces false else .braces

/-- What is missing if the script ends here. -/
def missing : Setting → Option SyntaxFault
  | .plain | .document => none
  | .braces => some .openBrace
  | .double | .doubleBraces _ => some .openQuote
  | .arithmetic _ => some .openArithmetic

end Setting

/-- A character that is an operator, or starts one. -/
def isOperator (c : Char) : Bool :=
  ['&', '|', ';', '(', ')', '<', '>'].contains c

/-- A character that ends a plain word. -/
def endsWord (c : Char) : Bool :=
  c == ' ' || c == '\t' || c == '\n' || isOperator c

/-- Joins neighbouring texts of the same kind. -/
def joinTexts : List Piece → List Piece
  | .text a s :: pieces =>
      match joinTexts pieces with
      | .text b t :: rest =>
          if a = b ∧ s ≠ [] ∧ t ≠ [] then .text a (s ++ t) :: rest
          else .text a s :: .text b t :: rest
      | rest => .text a s :: rest
  | piece :: pieces => piece :: joinTexts pieces
  | [] => []

/-- A script between ticks with its backslashes taken away. -/
def untick (quoted : Bool) : Octets → Octets
  | '\\' :: c :: rest =>
      if c = '\\' ∨ c = Tools.backTick ∨ c = '$' ∨ (quoted ∧ c = '"') then c :: untick quoted rest
      else '\\' :: c :: untick quoted rest
  | c :: rest => c :: untick quoted rest
  | [] => []

/-- Takes the script between ticks; a backslash keeps a tick in it. -/
def readTicked : (fuel : Nat) → Reader Octets
  | 0 => .fail .openTick
  | fuel + 1 => do
      match ← Reader.peek with
      | none => .fail .openTick
      | some c =>
          Reader.skip
          if c = Tools.backTick then return []
          else if c = '\\' then
            match ← Reader.peekPlain with
            | none => .fail .openTick
            | some d =>
                Reader.skip
                return c :: d :: (← readTicked fuel)
          else return c :: (← readTicked fuel)

/-- The name of a parameter in braces. -/
inductive Braced
  | named (name : Octets)
  | size (name : Octets)
  | senseless

/-- Reads a name or a number in braces. -/
def readOrdinaryName (c : Char) : Reader (Option Octets) := do
  let inName := if isNameStart c then isNameChar else Char.isDigit
  if isNameStart c || c.isDigit then
    return some (← Reader.takeWhile inName (← Reader.left))
  else return none

/-- Reads the name behind the opening brace of a parameter. -/
def readBracedName : Reader Braced := do
  match ← Reader.peek with
  | none | some '\x7d' => return .senseless
  | some c =>
      match ← readOrdinaryName c with
      | some name => return .named name
      | none =>
          Reader.skip
          if c = '#' then
            match ← Reader.peek with
            | none => return .named ['#']
            | some d =>
                match ← readOrdinaryName d with
                | some name => return .size name
                | none =>
                    let before ← get
                    Reader.skip
                    if d ≠ '\x7d' ∧ (← Reader.peek) = some '\x7d' then
                      return if isSpecial d then .size [d] else .senseless
                    else
                      set before
                      return .named ['#']
          else if isSpecial c then return .named [c]
          else return .senseless

/-- Reads the change behind the name of a parameter, and whether an empty value counts as
unset.  Without a change the parameter must end. -/
def readChange : Reader (Option (Bool × Option Change)) := do
  let full ← Reader.passes ':'
  match ← Reader.next with
  | some '\x7d' => return some (full, none)
  | some '-' => return some (full, some .default)
  | some '=' => return some (full, some .assign)
  | some '+' => return some (full, some .alternative)
  | some '?' => return some (full, some .require)
  | some '#' => if full then return none else return some (false, some (.cut true (← Reader.passes '#')))
  | some '%' => if full then return none else return some (false, some (.cut false (← Reader.passes '%')))
  | _ => return none

/-- Quotes around all parameters and nothing else make no field of their own. -/
def isAllParameters : List Piece → Bool
  | [.parameter _ name] => name == ['@']
  | _ => false

mutual

/-- Reads pieces up to the end of their setting, after those read before, which are kept
backwards; `script` reads the commands of an output up to its parenthesis, or up to the
end of a text. -/
def readPieces
    (script : (closed : Bool) → Reader Command) :
    (fuel : Nat) → Setting → (before : List Piece) → Reader (List Piece)
  | 0, _, _ => .fail .openQuote
  | fuel + 1, setting, before => do
      let quoted := setting.quotes
      let go := fun (setting : Setting) (piece : Piece) =>
        readPieces script fuel setting (piece :: before)
      match ← Reader.peek with
      | none =>
          match setting.missing with
          | none => return before.reverse
          | some fault => .fail fault
      | some '\\' => do
          Reader.skip
          match ← Reader.peekPlain with
          | none => go setting (.text true ['\\'])
          | some c => do
              Reader.skip
              if setting.escapes c then go setting (.text true [c])
              else go setting (.text true ['\\', c])
      | some '$' => do
          Reader.skip
          let piece ← readDollar script fuel setting
          go setting piece
      | some c =>
          if c = Tools.backTick then
            Reader.skip
            let text ← readTicked (← Reader.left)
            let body ← Reader.within (untick quoted text) do
              modify fun place => { place with line := 1 }
              script false
            go setting (.output quoted body)
          else
            match setting with
            | .plain =>
                if endsWord c then return before.reverse
                else readQuoted script fuel setting c before
            | .braces =>
                if c = '\x7d' then
                  Reader.skip
                  return before.reverse
                else readQuoted script fuel setting c before
            | .double => do
                Reader.skip
                if c = '"' then return before.reverse
                else go setting (.text true [c])
            | .doubleBraces inner => do
                Reader.skip
                if c = '\x7d' ∧ inner = false then return before.reverse
                else if c = '"' then readPieces script fuel (.doubleBraces (!inner)) before
                else go setting (.text true [c])
            | .document => do
                Reader.skip
                go setting (.text true [c])
            | .arithmetic depth => do
                Reader.skip
                if c = '(' then go (.arithmetic (depth + 1)) (.text true [c])
                else if c = ')' then
                  match depth with
                  | depth + 1 => go (.arithmetic depth) (.text true [c])
                  | 0 =>
                      if ← Reader.passes ')' then return before.reverse
                      else go setting (.text true [c])
                else go setting (.text true [c])

/-- Reads on at a character outside double quotes, which may begin quotes. -/
def readQuoted
    (script : (closed : Bool) → Reader Command) :
    (fuel : Nat) → Setting → Char → (before : List Piece) → Reader (List Piece)
  | 0, _, _, _ => .fail .openQuote
  | fuel + 1, setting, c, before => do
      Reader.skip
      if c = Tools.apostrophe then
        let text ← Reader.takeUntil .openQuote c
        readPieces script fuel setting (.text true text :: .text true [] :: before)
      else if c = '"' then
        let inside ← readPieces script fuel .double []
        let mark := if isAllParameters inside then [] else [Piece.text true []]
        readPieces script fuel setting (inside.reverse ++ mark ++ before)
      else readPieces script fuel setting (.text false [c] :: before)

/-- Reads the piece behind a dollar sign. -/
def readDollar
    (script : (closed : Bool) → Reader Command) :
    (fuel : Nat) → Setting → Reader Piece
  | 0, _ => .fail .openQuote
  | fuel + 1, setting => do
      let quoted := setting.quotes
      match ← Reader.peek with
      | some '(' => do
          Reader.skip
          if ← Reader.passes '(' then
            let inside ← readPieces script fuel (.arithmetic 0) []
            return .arithmetic quoted (joinTexts inside)
          else return .output quoted (← script true)
      | some '\x7b' => do
          Reader.skip
          readBraced script fuel setting
      | some c =>
          if isNameStart c then
            return .parameter quoted (← Reader.takeWhile isNameChar (← Reader.left))
          else if isSpecial c then
            Reader.skip
            return .parameter quoted [c]
          else return .text quoted ['$']
      | none => return .text quoted ['$']

/-- Reads the parameter behind an opening brace. -/
def readBraced
    (script : (closed : Bool) → Reader Command) :
    (fuel : Nat) → Setting → Reader Piece
  | 0, _ => .fail .openBrace
  | fuel + 1, setting => do
      let quoted := setting.quotes
      let nonsense := do
        let _ ← readPieces script fuel setting.inBraces []
        return Piece.senseless
      match ← readBracedName with
      | .senseless => nonsense
      | .size name =>
          if ← Reader.passes '\x7d' then return .size quoted name else nonsense
      | .named name =>
          let line ← Reader.currentLine
          match ← readChange with
          | none => do
              modify fun place => { place with line := line }
              nonsense
          | some (_, none) => return .parameter quoted name
          | some (full, some change) => do
              let inside := match change with
                | .cut .. => .braces
                | _ => setting.inBraces
              let argument ← readPieces script fuel inside []
              return .changed quoted name full change (joinTexts argument)

end

/-- Reads a plain word. -/
def readWord (script : (closed : Bool) → Reader Command) : Reader Word := do
  return joinTexts (← readPieces script (4 * (← Reader.left) + 4) .plain [])

/-- Reads a text in which parameters are replaced. -/
def readDocument
    (script : (closed : Bool) → Reader Command)
    (text : Octets) :
    Reader Word :=
  Reader.within text do
    return joinTexts (← readPieces script (4 * text.length + 4) .document [])

end Shell
end CaptureKit
