import CaptureKit.Shell.Word

/-!
# Reading the commands of a script

A script is read line by line: the commands of a line are run before the next line is
read, so a fault on a later line does not keep the earlier ones from running.  Commands
are joined by pipes, by `&&` and `||`, and by semicolons; keywords and brackets make one
command of many.  A keyword counts only where a command may start.
-/

namespace CaptureKit
namespace Shell

open Text

/-- The words that are no plain words where a command may start. -/
def keywords : List String :=
  ["!", "case", "do", "done", "elif", "else", "esac", "fi", "for", "if", "in", "then", "until",
    "while", "\x7b", "\x7d"]

/-- Commands that a function cannot take the name of. -/
def specialNames : List String :=
  [".", ":", "break", "continue", "eval", "exec", "exit", "export", "readonly", "return", "set",
    "shift", "times", "trap", "unset"]

/-- No command starts with the token. -/
def Token.endsList : Token → Bool
  | .keyword name =>
      ["do", "done", "elif", "else", "esac", "fi", "then", "\x7d"].contains name
  | .operator symbol => symbol == ")" || symbol == ";;"
  | .scriptEnd => true
  | _ => false

/-- The token is this keyword. -/
def Token.isKeyword
    (token : Token)
    (name : String) :
    Bool :=
  match token with
  | .keyword found => found == name
  | _ => false

/-- The token is this operator. -/
def Token.isOperator
    (token : Token)
    (symbol : String) :
    Bool :=
  match token with
  | .operator found => found == symbol
  | _ => false

/-- A token as a keyword, if it is one. -/
def Token.classified : Token → Token
  | .word pieces =>
      match plainText? pieces with
      | some text =>
          if keywords.contains (String.ofList text) then .keyword (String.ofList text)
          else .word pieces
      | none => .word pieces
  | token => token

/-- The assignment that a word is: a name, and the value behind the equals sign. -/
def assignment? : Word → Option (Octets × Word)
  | .text false s :: rest =>
      let name := s.takeWhile isNameChar
      match s.drop name.length with
      | '=' :: value =>
          if isName name then
            some (name, (if value.isEmpty then [] else [.text false value]) ++ rest)
          else none
      | _ => none
  | _ => none

/-- How a list of commands is read. -/
inductive Extent
  /-- Up to the end of the line. -/
  | line
  /-- Up to a word that ends it, with one command at least. -/
  | body
  /-- Up to a word that ends it, perhaps empty. -/
  | inner
  deriving DecidableEq

/-- Tells the text of an announced document from what follows it; `fuel` bounds the number
of lines. -/
def cutDocument
    (document : Announced) :
    (fuel : Nat) → Octets → Octets × Octets
  | 0, text => ([], text)
  | fuel + 1, text =>
      if text.isEmpty then ([], [])
      else
        let whole := text.takeWhile (· != '\n')
        let rest := text.drop (whole.length + 1)
        let line := if document.unindented then whole.dropWhile (· == '\t') else whole
        if line == document.delimiter then ([], rest)
        else
          let (more, rest) := cutDocument document fuel rest
          (line ++ (if whole.length < text.length then ['\n'] else []) ++ more, rest)

/-- Reads the documents that were announced. -/
def readDocuments
    (script : (closed : Bool) → Reader Command) :
    Reader Unit := do
  for document in (← get).announced do
    let place ← get
    let (text, rest) := cutDocument document place.rest.length.succ place.rest
    let taken := place.rest.length - rest.length
    set { place with rest := rest }
    let word ← if document.expanded then readDocument script text
      else pure [.text true text]
    modify fun after => { after with
      line := place.line + (place.rest.take taken).count '\n'
      documents := word :: after.documents }
  modify fun place => { place with announced := [] }

/-- Passes over blanks and a comment. -/
def passBlanks : Reader Unit := do
  let _ ← Reader.takeWhile (fun c => c == ' ' || c == '\t') (← Reader.left)
  if (← Reader.peek) = some '#' then
    modify fun place => { place with rest := place.rest.dropWhile (· != '\n') }

/-- Reads the operator that starts with a character. -/
def readOperator (c : Char) : Reader Token := do
  Reader.skip
  if (c = '&' ∨ c = '|' ∨ c = ';') then
    if ← Reader.passes c then return .operator (String.ofList [c, c])
  return .operator (String.singleton c)

/-- Reads the symbol of a redirection. -/
def readArrow
    (stream : Option Nat)
    (c : Char) :
    Reader Token := do
  Reader.skip
  let found := fun symbol => .redirection stream symbol
  if c = '>' then
    if ← Reader.passes '>' then return found ">>"
    else if ← Reader.passes '|' then return found ">|"
    else if ← Reader.passes '&' then return found ">&"
    else return found ">"
  else if ← Reader.passes '<' then
    if ← Reader.passes '-' then return found "<<-"
    else return found "<<"
  else if ← Reader.passes '&' then return found "<&"
  else if ← Reader.passes '>' then return found "<>"
  else return found "<"

/-- Reads the next token as it is. -/
def readPlainToken (script : (closed : Bool) → Reader Command) : Reader Token := do
  passBlanks
  match ← Reader.peek with
  | none => return .scriptEnd
  | some '\n' => do
      Reader.skip
      readDocuments script
      return .lineEnd
  | some c =>
      if c = '<' ∨ c = '>' then readArrow none c
      else if isOperator c then readOperator c
      else do
        let word ← readWord script
        match plainText? word, ← Reader.peek with
        | some [digit], some arrow =>
            if digit.isDigit ∧ (arrow = '<' ∨ arrow = '>') then
              readArrow (some (digit.toNat - '0'.toNat)) arrow
            else return .word word
        | _, _ => return .word word

/-- The token that was put back, or else the next one. -/
def takeToken (script : (closed : Bool) → Reader Command) : Reader Token := do
  match (← get).ahead with
  | some token => do
      modify fun place => { place with ahead := none }
      return token
  | none => readPlainToken script

/-- Passes over ends of lines behind a token; `fuel` bounds their number. -/
def passLineEnds
    (script : (closed : Bool) → Reader Command) :
    (fuel : Nat) → Token → Reader Token
  | fuel + 1, .lineEnd => do passLineEnds script fuel (← readPlainToken script)
  | _, token => return token

/-- Reads a token where aliases do not count. -/
def readBareToken
    (script : (closed : Bool) → Reader Command)
    (lineEnds asKeyword : Bool) :
    Reader Token := do
  let token ← takeToken script
  let token ← if lineEnds then passLineEnds script ((← Reader.left) + 1) token else pure token
  return if asKeyword then token.classified else token

/-- Reads a token with the texts of aliases in the places of their names; `fuel` bounds
their number. -/
def readAliased
    (script : (closed : Bool) → Reader Command)
    (lineEnds asKeyword asAlias : Bool) :
    (fuel : Nat) → Reader Token
  | 0 => readBareToken script lineEnds asKeyword
  | fuel + 1 => do
      let before ← Reader.left
      let token ← readBareToken script lineEnds asKeyword
      let place ← get
      let name? := match token with
        | .word word => if asAlias || place.goesOn before then plainText? word else none
        | _ => none
      match name?, name?.bind place.alias? with
      | some name, some text => do
          set (place.inAlias name text)
          readAliased script lineEnds asKeyword true fuel
      | _, _ => return token

/-- Reads a token, perhaps on a later line, perhaps a keyword, and perhaps an alias. -/
def readTokenAs
    (script : (closed : Bool) → Reader Command)
    (lineEnds asKeyword asAlias : Bool) :
    Reader Token := do
  let place ← get
  if place.aliases.isEmpty then readBareToken script lineEnds asKeyword
  else
    readAliased script lineEnds asKeyword asAlias (place.rest.length + place.aliases.length + 1)

/-- Reads a token, perhaps on a later line, and perhaps a keyword or an alias. -/
def readToken
    (script : (closed : Bool) → Reader Command)
    (lineEnds asKeyword : Bool) :
    Reader Token :=
  readTokenAs script lineEnds asKeyword asKeyword

/-- Reads a keyword that has to be there. -/
def expectKeyword
    (script : (closed : Bool) → Reader Command)
    (lineEnds : Bool)
    (name : String) :
    Reader Unit := do
  let token ← readToken script lineEnds true
  if token.isKeyword name then return ()
  else Reader.surprised token (some (.keyword name))

/-- Reads an operator that has to be there. -/
def expectOperator
    (script : (closed : Bool) → Reader Command)
    (asKeyword : Bool)
    (symbol : String) :
    Reader Unit := do
  let token ← readToken script false asKeyword
  if token.isOperator symbol then return ()
  else Reader.surprised token (some (.operator symbol))

/-- Announces a document and gives its number. -/
def announce
    (delimiter : Word)
    (unindented : Bool) :
    Reader Nat := do
  let place ← get
  let document : Announced :=
    ⟨place.documentCount, bareText delimiter, (plainText? delimiter).isSome, unindented⟩
  set { place with
    announced := place.announced ++ [document]
    documentCount := place.documentCount + 1 }
  return place.documentCount

/-- Reads the operand of a redirection. -/
def readRedirection
    (script : (closed : Bool) → Reader Command)
    (stream : Option Nat)
    (symbol : String) :
    Reader Redirection := do
  match ← readToken script false false with
  | .word operand => do
      let reading := stream.getD 0
      let writing := stream.getD 1
      match symbol with
      | "<" => return .mk reading .source operand
      | "<>" => return .mk reading .both operand
      | "<&" => return .mk reading .stream operand
      | "<<" => return .mk reading (.document (← announce operand false)) []
      | "<<-" => return .mk reading (.document (← announce operand true)) []
      | ">>" => return .mk writing .ending operand
      | ">|" => return .mk writing (.target true) operand
      | ">&" => return .mk writing .stream operand
      | _ => return .mk writing (.target false) operand
  | token => Reader.surprised token none

/-- Reads redirections behind a command; `fuel` bounds their number. -/
def readRedirections
    (script : (closed : Bool) → Reader Command) :
    (fuel : Nat) → Reader (List Redirection)
  | 0 => return []
  | fuel + 1 => do
      match ← readToken script false true with
      | .redirection stream symbol => do
          let redirection ← readRedirection script stream symbol
          return redirection :: (← readRedirections script fuel)
      | token => do
          Reader.putBack token
          return []

/-- Reads the words of a loop up to the end of its line; `fuel` bounds their number. -/
def readLoopWords
    (script : (closed : Bool) → Reader Command) :
    (fuel : Nat) → Reader (List Word)
  | 0 => return []
  | fuel + 1 => do
      match ← readToken script false false with
      | .word word => return word :: (← readLoopWords script fuel)
      | .lineEnd => return []
      | token =>
          if token.isOperator ";" then return [] else Reader.surprised token none

/-- Reads what a loop goes through: words, or else all parameters. -/
def readLoopRange (script : (closed : Bool) → Reader Command) : Reader (List Word) := do
  let token ← readToken script true true
  if token.isKeyword "in" then readLoopWords script ((← Reader.left) + 2)
  else do
    if !token.isOperator ";" then Reader.putBack token
    return [allParameters]

/-- The word that a token is as a pattern; what is no word fits nothing but emptiness. -/
def Token.pattern : Token → Word
  | .word pieces => pieces
  | .keyword name => [.text false name.toList]
  | _ => []

/-- Reads the patterns of a branch, from a token on; `fuel` bounds their number. -/
def readPatterns
    (script : (closed : Bool) → Reader Command) :
    (fuel : Nat) → Token → Reader (List Word)
  | 0, token => Reader.surprised token none
  | fuel + 1, token => do
      let next ← readToken script false false
      if next.isOperator "|" then
        let other ← readToken script false false
        return token.pattern :: (← readPatterns script fuel other)
      else if next.isOperator ")" then return [token.pattern]
      else Reader.surprised next (some (.operator ")"))

/-- A command behind another one. -/
def Command.before (first second : Command) : Command :=
  if first.isNothing then second else .sequence first second

/-- A command that runs while the script goes on. -/
def Command.inBackground : Command → Command
  | .redirected _ body redirections => .background body redirections
  | body => .background body []

/-- A compound command with the redirections behind it. -/
def Command.withRedirections
    (line : Nat)
    (body : Command)
    (redirections : List Redirection) :
    Command :=
  match redirections, body with
  | [], body => body
  | redirections, .isolated line body _ => .isolated line body redirections
  | redirections, body => .redirected line body redirections

/-- The parts of a simple command. -/
structure SimpleParts where
  assignments : List Word
  words : List Word
  redirections : List Redirection

mutual

/-- Reads a list of commands after those read before; `mayEnd` says whether it may end
at once. -/
def readList : (fuel : Nat) → Extent → (mayEnd : Bool) → (before : Command) → Reader Command
  | 0, _, _, _ => Reader.surprised .scriptEnd none
  | fuel + 1, extent, mayEnd, before => do
      let script := readScript fuel
      let token ← readToken script (extent != .line) true
      match token with
      | .lineEnd => return before
      | .scriptEnd => do
          Reader.putBack token
          return before
      | token => do
          Reader.putBack token
          if mayEnd && token.endsList then return before
          else
            let item ← readChain fuel none
            let separator ← readToken script false false
            let item := if separator.isOperator "&" then item.inBackground else item
            let commands := before.before item
            let go := readList fuel extent (extent != .line) commands
            match separator with
            | .scriptEnd => do
                Reader.putBack separator
                return commands
            | .lineEnd => do
                Reader.putBack separator
                go
            | .operator "&" | .operator ";" => go
            | separator =>
                if extent = .line then Reader.surprised separator none
                else
                  Reader.putBack separator
                  return commands

/-- Reads the commands of an output: a list up to its parenthesis, or else up to the end. -/
def readScript : (fuel : Nat) → (closed : Bool) → Reader Command
  | 0, _ => Reader.surprised .scriptEnd none
  | fuel + 1, closed => Reader.nested do
      let body ← readList fuel .inner true .nothing
      if closed then expectOperator (readScript fuel) true ")"
      return body

/-- Reads commands joined by `&&` and `||`, after a command and the success that the next
one waits for. -/
def readChain : (fuel : Nat) → (before : Option (Command × Bool)) → Reader Command
  | 0, _ => Reader.surprised .scriptEnd none
  | fuel + 1, before => do
      let script := readScript fuel
      let item ← readPipeline fuel before.isSome
      let joined := match before with
        | some (first, success) => .chain success first item
        | none => item
      let token ← readToken script false false
      match token with
      | .operator "&&" => readChain fuel (some (joined, true))
      | .operator "||" => readChain fuel (some (joined, false))
      | token => do
          Reader.putBack token
          return joined

/-- Reads commands joined by pipes, perhaps negated. -/
def readPipeline : (fuel : Nat) → (lineEnds : Bool) → Reader Command
  | 0, _ => Reader.surprised .scriptEnd none
  | fuel + 1, lineEnds => do
      let script := readScript fuel
      let token ← readToken script lineEnds true
      if token.isKeyword "!" then
        return .negated (← readPipes fuel false [])
      else
        Reader.putBack token
        readPipes fuel lineEnds []

/-- Reads commands joined by pipes after those read before, which are kept backwards. -/
def readPipes : (fuel : Nat) → (lineEnds : Bool) → (before : List Command) → Reader Command
  | 0, _, _ => Reader.surprised .scriptEnd none
  | fuel + 1, lineEnds, before => do
      let script := readScript fuel
      let item ← readCommand fuel lineEnds
      let token ← readToken script false false
      if token.isOperator "|" then readPipes fuel true (item :: before)
      else do
        Reader.putBack token
        return if before.isEmpty then item else .pipeline (item :: before).reverse

/-- Reads one command. -/
def readCommand : (fuel : Nat) → (lineEnds : Bool) → Reader Command
  | 0, _ => Reader.surprised .scriptEnd none
  | fuel + 1, lineEnds => do
      let script := readScript fuel
      let line ← Reader.currentLine
      let list := readList fuel .body false .nothing
      let finish := fun body => do
        let redirections ← readRedirections script ((← Reader.left) + 2)
        return Command.withRedirections line body redirections
      let token ← readToken script lineEnds true
      match token with
      | .keyword "if" => do
          let body ← readChoice fuel
          expectKeyword script false "fi"
          finish body
      | .keyword "while" | .keyword "until" => do
          let condition ← list
          expectKeyword script false "do"
          let body ← list
          expectKeyword script false "done"
          finish (.loop (token.isKeyword "while") condition body)
      | .keyword "for" => do
          match ← readToken script false false with
          | .word word =>
              match plainText? word with
              | some name =>
                  if isName name then
                    let range ← readLoopRange script
                    expectKeyword script true "do"
                    let body ← list
                    expectKeyword script false "done"
                    finish (.each line name range body)
                  else .fail .badLoopName
              | none => .fail .badLoopName
          | _ => .fail .badLoopName
      | .keyword "case" => do
          match ← readToken script false false with
          | .word subject => do
              expectKeyword script true "in"
              finish (.select line subject (← readBranches fuel))
          | found => Reader.surprised found (some (.word []))
      | .operator "(" => do
          let body ← list
          expectOperator script true ")"
          finish (.isolated line body [])
      | .keyword "\x7b" => do
          let body ← list
          expectKeyword script false "\x7d"
          finish body
      | .word _ | .redirection .. => do
          Reader.putBack token
          let line ← Reader.currentLine
          readSimple fuel line ⟨[], [], []⟩
      | token => Reader.surprised token none

/-- Reads a choice behind its `if`, up to its `fi`. -/
def readChoice : (fuel : Nat) → Reader Command
  | 0 => Reader.surprised .scriptEnd none
  | fuel + 1 => do
      let script := readScript fuel
      let list := readList fuel .body false .nothing
      let condition ← list
      expectKeyword script false "then"
      let yes ← list
      let token ← readToken script false true
      if token.isKeyword "elif" then return .choice condition yes (← readChoice fuel)
      else if token.isKeyword "else" then return .choice condition yes (← list)
      else do
        Reader.putBack token
        return .choice condition yes .nothing

/-- Reads the branches of a case up to its `esac`. -/
def readBranches : (fuel : Nat) → Reader (List Branch)
  | 0 => Reader.surprised .scriptEnd none
  | fuel + 1 => do
      let script := readScript fuel
      let token ← readBareToken script true true
      if token.isKeyword "esac" then return []
      else
        let first ← if token.isOperator "(" then readToken script false false else pure token
        let patterns ← readPatterns script ((← Reader.left) + 1) first
        let body ← readList fuel .inner true .nothing
        let ending ← readToken script true true
        if ending.isKeyword "esac" then return [.mk patterns body]
        else if ending.isOperator ";;" then return .mk patterns body :: (← readBranches fuel)
        else Reader.surprised ending (some (.operator ";;"))

/-- Reads a simple command after the parts read before, which are kept backwards. -/
def readSimple : (fuel : Nat) → (line : Nat) → (before : SimpleParts) → Reader Command
  | 0, _, _ => Reader.surprised .scriptEnd none
  | fuel + 1, line, before => do
      let script := readScript fuel
      match ← readTokenAs script false false before.words.isEmpty with
      | .word word =>
          if before.words.isEmpty && (assignment? word).isSome then
            readSimple fuel line { before with assignments := word :: before.assignments }
          else readSimple fuel line { before with words := word :: before.words }
      | .redirection stream symbol => do
          let redirection ← readRedirection script stream symbol
          readSimple fuel line
            { before with redirections := redirection :: before.redirections }
      | token =>
          match token, before with
          | .operator "(", ⟨[], [word], []⟩ => do
              expectOperator script false ")"
              let name := bareText word
              if isName name && !specialNames.contains (String.ofList name) then
                return .function name (← readCommand fuel true)
              else .fail .badFunctionName
          | token, before => do
              Reader.putBack token
              return .simple line before.assignments.reverse before.words.reverse
                before.redirections.reverse

end

/-- A reader at the beginning of a script, with so many documents read before. -/
def Place.start
    (text : Octets)
    (documentCount : Nat) :
    Place :=
  ⟨text, 1, none, [], [], documentCount, [], []⟩

/-- Nothing but the end is left. -/
def Place.atEnd (place : Place) : Bool :=
  match place.ahead with
  | some .scriptEnd => true
  | some _ => false
  | none => place.rest.isEmpty

/-- Reads the commands of a line, unless the script is at its end.  The texts of aliases
count among what there is to read. -/
def readLine (place : Place) : Except (SyntaxFault × Nat) (Option (Command × Place)) :=
  if place.atEnd then .ok none
  else
    let size := place.rest.length * (1 + (place.aliases.flatMap Prod.snd).length)
    (readList (8 * size + 16) .line false .nothing place).map some

end Shell
end CaptureKit
