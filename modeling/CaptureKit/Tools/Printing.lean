import CaptureKit.Text.Floating
import CaptureKit.Tools.Basic

/-!
# Tools that print their arguments

`echo` prints its arguments as they are, and `printf` prints them in a format.  Both know
escapes behind a backslash; a backslash before anything else stands for itself.  The shell
brings tools of its own under these names, which differ in their escapes and complaints.
-/

namespace CaptureKit
namespace Tools

open Text

/-- A digit below eight. -/
def isOctalDigit (c : Char) : Bool :=
  '0' ≤ c && c ≤ '7'

/-- The number that octal digits denote. -/
def octalValue (digits : List Char) : Nat :=
  Nat.ofDigitChars 8 digits 0

/-- The octet of a number. -/
def octetOf (n : Nat) : Char :=
  Char.ofNat (n % 256)

/-- The control octet of an escape letter. -/
def controlOctet? : Char → Option Char
  | 'a' => some '\x07'
  | 'b' => some '\x08'
  | 'e' => some '\x1b'
  | 'f' => some '\x0c'
  | 'n' => some '\n'
  | 'r' => some '\r'
  | 't' => some '\t'
  | 'v' => some '\x0b'
  | '\\' => some '\\'
  | _ => none

/-- What is behind a backslash. -/
inductive Escape
  /-- An octet, and how many characters spell it. -/
  | octet (octet : Char) (size : Nat)
  /-- Nothing more is printed. -/
  | stop
  /-- The backslash stands for itself. -/
  | nothing

/-- A number behind a backslash, with so many digits at most. -/
def digitEscape
    (isDigit : Char → Bool)
    (value : List Char → Nat)
    (skipped most : Nat)
    (s : Octets) :
    Escape :=
  let digits := ((s.drop skipped).takeWhile isDigit).take most
  .octet (octetOf (value digits)) (skipped + digits.length)

/-- The escape of a format: an octal number has three digits at most. -/
def formatEscape : Octets → Escape
  | [] => .nothing
  | c :: rest =>
      match controlOctet? c with
      | some control => .octet control 1
      | none =>
          if isOctalDigit c then digitEscape isOctalDigit octalValue 0 3 (c :: rest)
          else .nothing

/-- The escape of an argument: a zero may stand before three octal digits, and `\c` ends
everything. -/
def argumentEscape : Octets → Escape
  | 'c' :: _ => .stop
  | '0' :: rest => digitEscape isOctalDigit octalValue 1 3 ('0' :: rest)
  | s => formatEscape s

/-- An escape that may also be a number of two hexadecimal digits behind an `x`. -/
def withHexadecimal
    (escape : Octets → Escape) :
    Octets → Escape
  | 'x' :: rest =>
      if rest.head?.any isHexDigit then digitEscape isHexDigit hexValue 1 2 ('x' :: rest)
      else .nothing
  | s => escape s

/-- A text with its escapes replaced, and whether one asked to stop there. -/
def unescaped
    (escape : Octets → Escape)
    (s : Octets) :
    Octets × Bool :=
  match s with
  | [] => ([], false)
  | '\\' :: rest =>
      match escape rest with
      | .stop => ([], true)
      | .nothing =>
          let (more, stopped) := unescaped escape rest
          ('\\' :: more, stopped)
      | .octet octet size =>
          let (more, stopped) := unescaped escape (rest.drop size)
          (octet :: more, stopped)
  | c :: rest =>
      let (more, stopped) := unescaped escape rest
      (c :: more, stopped)
termination_by s.length

/-- Words with spaces between them. -/
def spaced (words : List Octets) : Octets :=
  [' '].intercalate words

/-- Prints the arguments of the shell's `echo`: escapes are replaced, and a line feed
follows unless the first argument is `-n`. -/
def shellEcho : Tool := fun call =>
  let (arguments, ending) := match call.arguments with
    | ['-', 'n'] :: rest => (rest, [])
    | arguments => (arguments, ['\n'])
  let (text, stopped) := unescaped argumentEscape (spaced arguments)
  call.printed (if stopped then text else text ++ ending)

/-- The options at the front of the arguments of `echo`, and the rest. -/
def echoOptions : List Octets → Octets × List Octets
  | ('-' :: c :: letters) :: rest =>
      if (c :: letters).all ['n', 'e', 'E'].contains then
        let (more, operands) := echoOptions rest
        (c :: letters ++ more, operands)
      else ([], ('-' :: c :: letters) :: rest)
  | operands => ([], operands)

/-- Prints its arguments; escapes are replaced if it is asked to. -/
def echo : Tool := fun call =>
  let (options, operands) := echoOptions call.arguments
  let text := spaced operands
  let escaping := (options.filter (· != 'n')).getLast? == some 'e'
  let (text, stopped) :=
    if escaping then unescaped (withHexadecimal argumentEscape) text else (text, false)
  call.printed (if stopped || options.contains 'n' then text else text ++ ['\n'])

/-- How a value is laid out in a format. -/
structure Layout where
  flags : List Char
  width : Nat
  precision : Option Nat

/-- A text filled up to the width with blanks. -/
def Layout.fill
    (layout : Layout)
    (s : Octets) :
    Octets :=
  let missing := List.replicate (layout.width - s.length) ' '
  if layout.flags.contains '-' then s ++ missing else missing ++ s

/-- A number from its sign and its digits. -/
def Layout.number
    (layout : Layout)
    (sign digits : Octets) :
    Octets :=
  match layout.precision with
  | some least =>
      layout.fill (sign ++ List.replicate (least - digits.length) '0' ++
        (if least = 0 ∧ digits = ['0'] then [] else digits))
  | none =>
      if layout.flags.contains '0' && !layout.flags.contains '-' then
        sign ++ List.replicate (layout.width - sign.length - digits.length) '0' ++ digits
      else layout.fill (sign ++ digits)

/-- A number with the sign that the flags ask for. -/
def Layout.signed
    (layout : Layout)
    (n : Int) :
    Octets :=
  let sign :=
    if n < 0 then ['-']
    else if layout.flags.contains '+' then ['+']
    else if layout.flags.contains ' ' then [' ']
    else []
  layout.number sign (toString n.natAbs).toList

/-- A number modulo the range of 64 bits, in a base. -/
def Layout.unsigned
    (layout : Layout)
    (letter : Char)
    (n : Int) :
    Octets :=
  let value := (n % limit64).toNat
  let marked := layout.flags.contains '#' && value != 0
  match letter with
  | 'o' =>
      let digits := Nat.toDigits 8 value
      layout.number [] (if marked then '0' :: digits else digits)
  | 'x' => layout.number (if marked then ['0', 'x'] else []) (Nat.toDigits 16 value)
  | 'X' =>
      layout.number (if marked then ['0', 'X'] else [])
        ((Nat.toDigits 16 value).map Char.toUpper)
  | _ => layout.number [] (toString value).toList

/-- The text of a size under a conversion letter in lower case. -/
def Layout.magnitude
    (layout : Layout)
    (kind : FloatingKind)
    (letter : Char)
    (magnitude : Magnitude) :
    Octets :=
  let always := layout.flags.contains '#'
  let precision := layout.precision.getD 6
  match magnitude with
  | .infinite => "inf".toList
  | .noNumber => "nan".toList
  | .finite mantissa power =>
      let ratio := ratioOf mantissa power
      match letter with
      | 'f' => fixedDigits always precision ratio
      | 'e' => scientificText always precision ratio
      | 'g' => generalText always precision ratio
      | _ => kind.hexadecimalText always layout.precision mantissa power

/-- A number with a point. -/
def Layout.floating
    (layout : Layout)
    (kind : FloatingKind)
    (letter : Char)
    (n : Floating) :
    Octets :=
  let sign :=
    if n.negative then ['-']
    else if layout.flags.contains '+' then ['+']
    else if layout.flags.contains ' ' then [' ']
    else []
  let small := layout.magnitude kind letter.toLower n.magnitude
  let body := if letter.isUpper then small.map Char.toUpper else small
  let isFinite := match n.magnitude with
    | .finite .. => true
    | _ => false
  if isFinite && layout.flags.contains '0' && !layout.flags.contains '-' then
    let front := sign ++ if letter.toLower = 'a' then body.take 2 else []
    let digits := if letter.toLower = 'a' then body.drop 2 else body
    front ++ List.replicate (layout.width - front.length - digits.length) '0' ++ digits
  else layout.fill (sign ++ body)

/-- White space of the plain locale. -/
def isSpace (c : Char) : Bool :=
  c == ' ' || (9 ≤ c.toNat && c.toNat ≤ 13)

/-- The number at the front of a text in the notation of programs, and what follows. -/
def numberAt (s : Octets) : Int × Octets :=
  let (negative, magnitude) := match s.dropWhile isSpace with
    | '-' :: rest => (true, rest)
    | '+' :: rest => (false, rest)
    | rest => (false, rest)
  let sign := fun n : Nat => if negative then -(n : Int) else n
  let hexadecimal := match magnitude with
    | '0' :: x :: c :: _ => (x == 'x' || x == 'X') && isHexDigit c
    | _ => false
  if hexadecimal then
    let digits := (magnitude.drop 2).takeWhile isHexDigit
    (sign (hexValue digits), magnitude.drop (2 + digits.length))
  else if magnitude.head? = some '0' then
    let digits := magnitude.takeWhile isOctalDigit
    (sign (octalValue digits), magnitude.drop digits.length)
  else
    let digits := magnitude.takeWhile Char.isDigit
    if digits.isEmpty then (0, s)
    else (sign (decimalValue digits), magnitude.drop digits.length)

/-- What is wrong with a number. -/
inductive NumberFault
  | noNumber
  | incomplete
  | tooLarge

/-- A number brought into a range. -/
def clamped
    (low high n : Int) :
    Int × Option NumberFault :=
  if n < low then (low, some .tooLarge)
  else if high < n then (high, some .tooLarge)
  else (n, none)

/-- What is wrong with a number of which something follows, or whose range was left. -/
def numberFault
    (rangeFirst : Bool)
    (range : Option NumberFault)
    (follows : Bool) :
    Option NumberFault :=
  if follows && !(rangeFirst && range.isSome) then some .incomplete else range

/-- The number that an argument denotes, with what is wrong with it. -/
def numberOf
    (isSigned rangeFirst : Bool)
    (argument : Octets) :
    Int × Option NumberFault :=
  let half : Int := limit64 / 2
  match argument with
  | [] => (0, none)
  | quote :: c :: _ =>
      if quote = '"' ∨ quote = apostrophe then (c.toNat, none) else plainNumber half
  | _ => plainNumber half
where
  /-- The number that an argument without a quote denotes. -/
  plainNumber (half : Int) : Int × Option NumberFault :=
    let (n, rest) := numberAt argument
    let (number, range) :=
      if isSigned then clamped (-half) (half - 1) n else clamped (-half) (limit64 - 1) n
    if !rest.isEmpty && rest.length = argument.length then (0, some .noNumber)
    else (number, numberFault rangeFirst range (!rest.isEmpty))

/-- The number with a point that an argument denotes, with what is wrong with it. -/
def floatingOf
    (kind : FloatingKind)
    (rangeFirst : Bool)
    (argument : Octets) :
    Floating × Option NumberFault :=
  let whole := fun n : Nat => Floating.mk false (kind.nearest n 1).1
  match argument with
  | [] => (whole 0, none)
  | quote :: c :: _ =>
      if quote = '"' ∨ quote = apostrophe then (whole c.toNat, none) else plainNumber whole
  | _ => plainNumber whole
where
  /-- The number that an argument without a quote denotes. -/
  plainNumber (whole : Nat → Floating) : Floating × Option NumberFault :=
    match kind.readAt? argument with
    | none => (whole 0, some .noNumber)
    | some (n, left, rest) =>
        (n, numberFault rangeFirst (if left then some .tooLarge else none) (!rest.isEmpty))

/-- How a tool that prints in formats differs from others of its kind. -/
structure PrintingStyle where
  escape : Octets → Escape
  argumentEscape : Octets → Escape
  /-- How numbers with a point are kept. -/
  kind : FloatingKind
  /-- A quote with nothing behind it denotes zero. -/
  bareQuotes : Bool
  /-- Letters that say how large a value is may stand in front of a conversion letter. -/
  sized : Bool
  /-- That a range was left is worse than that something follows a number. -/
  rangeFirst : Bool
  /-- A width or a precision that is too large is taken modulo its range. -/
  wraps : Bool
  /-- The complaint about a number. -/
  numberWords : NumberFault → Octets → Octets
  /-- The complaint about a conversion that there is none. -/
  directiveWords : Octets → Octets
  /-- The complaint about a percent sign at the end. -/
  unfinishedWords : Octets
  /-- Its status after a conversion that there is none. -/
  failure : Nat

/-- The state of printing in a format. -/
structure Printed where
  /-- What was printed and complained about so far, last first. -/
  pieces : List (Stream × Octets)
  arguments : List Octets
  status : Nat
  stopped : Bool

namespace Printed

/-- The state with one more piece of text. -/
def push
    (printed : Printed)
    (text : Octets) :
    Printed :=
  { printed with pieces := (.output, text) :: printed.pieces }

/-- The state with one more complaint. -/
def complain
    (printed : Printed)
    (words : Octets) :
    Printed :=
  { printed with pieces := (.complaints, words) :: printed.pieces }

/-- The state after a fault that ends the printing. -/
def give
    (printed : Printed)
    (status : Nat)
    (fault : Octets) :
    Printed :=
  { printed.complain fault with
    status := status
    stopped := true }

/-- The next argument as a number, with the complaint about it. -/
def numberBy
    {α : Type}
    (printed : Printed)
    (style : PrintingStyle)
    (read : Octets → α × Option NumberFault) :
    α × Printed :=
  let argument := printed.arguments.headD []
  let advanced := { printed with arguments := printed.arguments.tail }
  let isBare := style.bareQuotes && (argument == ['"'] || argument == [apostrophe])
  match read (if isBare then [] else argument) with
  | (n, none) => (n, advanced)
  | (n, some fault) =>
      (n, { advanced.complain (style.numberWords fault argument) with status := 1 })

/-- The next argument as a whole number. -/
def number
    (printed : Printed)
    (style : PrintingStyle)
    (isSigned : Bool) :
    Int × Printed :=
  printed.numberBy style (numberOf isSigned style.rangeFirst)

end Printed

/-- The letters of conversions. -/
def conversionLetters : List Char :=
  ['s', 'b', 'c', 'd', 'i', 'u', 'o', 'x', 'X', 'e', 'E', 'f', 'F', 'g', 'G', 'a', 'A']

/-- Prints the next argument under a conversion letter. -/
def convert
    (style : PrintingStyle)
    (letter : Char)
    (layout : Layout)
    (printed : Printed) :
    Printed :=
  let argument := printed.arguments.headD []
  let advanced := { printed with arguments := printed.arguments.tail }
  let cut := fun s : Octets => match layout.precision with
    | some most => s.take most
    | none => s
  match letter with
  | 's' => advanced.push (layout.fill (cut argument))
  | 'b' =>
      let (text, stopped) := unescaped style.argumentEscape argument
      { advanced.push (layout.fill (cut text)) with stopped := stopped }
  | 'c' => advanced.push (layout.fill [argument.headD '\x00'])
  | 'd' | 'i' =>
      let (n, printed) := printed.number style true
      printed.push (layout.signed n)
  | letter =>
      if ['e', 'f', 'g', 'a'].contains letter.toLower then
        let (n, printed) := printed.numberBy style (floatingOf style.kind style.rangeFirst)
        printed.push (layout.floating style.kind letter n)
      else
        let (n, printed) := printed.number style false
        printed.push (layout.unsigned letter n)

/-- Widths and precisions are below this number. -/
def measureLimit : Nat := 2147483648

/-- Reads a width or a precision, which a star takes from the arguments.  Its name is for a
complaint about one that is out of range. -/
def measureAt
    (style : PrintingStyle)
    (name : String)
    (lowest : Option Int)
    (printed : Printed)
    (s : Octets) :
    Option Int × Octets × Printed :=
  match s with
  | '*' :: rest =>
      let argument := printed.arguments.headD []
      let (n, printed) := printed.number style true
      if style.wraps then (some (Int.bmod n (2 * measureLimit)), rest, printed)
      else if lowest.all (· < n) && n < measureLimit then (some n, rest, printed)
      else (none, rest, printed.give style.failure
        ("invalid ".toList ++ name.toList ++ ": ".toList ++ quotedArgument argument))
  | s =>
      let digits := s.takeWhile Char.isDigit
      (if digits.isEmpty then none else some (decimalValue digits), s.drop digits.length, printed)

/-- A flag of a conversion. -/
def isLayoutFlag (c : Char) : Bool :=
  c == '-' || c == '0' || c == '+' || c == ' ' || c == '#'

/-- Reads the layout behind a percent sign; what follows starts with the letter. -/
def layoutAt
    (style : PrintingStyle)
    (printed : Printed)
    (s : Octets) :
    Layout × Octets × Printed :=
  let flags := s.takeWhile isLayoutFlag
  let (width, rest, printed) :=
    measureAt style "field width" (some (-measureLimit)) printed (s.dropWhile isLayoutFlag)
  let width := Int.bmod (width.getD 0) 4294967296
  let flags := if width < 0 then '-' :: flags else flags
  match rest with
  | '.' :: rest =>
      let (precision, rest, printed) := measureAt style "precision" none printed rest
      let precision := precision.getD 0
      (⟨flags, width.natAbs, if precision < 0 then none else some precision.toNat⟩, rest, printed)
  | rest => (⟨flags, width.natAbs, none⟩, rest, printed)

/-- The letters that say how large a value is. -/
def sizeLetters : List Char := ['h', 'l', 'L', 'j', 't', 'z']

/-- Prints a format once from its front; `fuel` bounds the number of its parts. -/
def printOnce
    (style : PrintingStyle) :
    (fuel : Nat) → Printed → Octets → Printed
  | 0, printed, _ => printed
  | _, printed, [] => printed
  | fuel + 1, printed, '%' :: '%' :: rest => printOnce style fuel (printed.push ['%']) rest
  | fuel + 1, printed, '%' :: rest =>
      let (layout, after, printed) := layoutAt style printed rest
      if printed.stopped then printed
      else
        let after := if style.sized then after.dropWhile sizeLetters.contains else after
        match after with
        | [] => printed.give style.failure style.unfinishedWords
        | letter :: following =>
            if conversionLetters.contains letter then
              let next := convert style letter layout printed
              if next.stopped then next else printOnce style fuel next following
            else
              printed.give style.failure
                (style.directiveWords ('%' :: rest.take (rest.length - following.length)))
  | fuel + 1, printed, '\\' :: rest =>
      match style.escape rest with
      | .octet octet size => printOnce style fuel (printed.push [octet]) (rest.drop size)
      | .stop => { printed with stopped := true }
      | .nothing => printOnce style fuel (printed.push ['\\']) rest
  | fuel + 1, printed, c :: rest => printOnce style fuel (printed.push [c]) rest

/-- Prints a format again and again until its arguments are used up. -/
def printAll
    (style : PrintingStyle)
    (format : Octets) :
    (rounds : Nat) → Printed → Printed
  | 0, printed => printed
  | rounds + 1, printed =>
      let next := printOnce style format.length printed format
      if next.stopped || next.arguments.isEmpty ||
          next.arguments.length == printed.arguments.length then next
      else printAll style format rounds next

/-- Prints values in a format. -/
def printFormat
    (style : PrintingStyle)
    (format : Octets)
    (values : List Octets) :
    Printed :=
  printAll style format (values.length + 1) ⟨[], values, 0, false⟩

/-- Ends with what was printed, each complaint a line in the name of the tool. -/
def Printed.finish
    (printed : Printed)
    (call : Call) :
    Finish :=
  let pieces := printed.pieces.reverse.map fun
    | (.complaints, words) => (.complaints, call.complaint words)
    | piece => piece
  call.inOrder printed.status pieces call.input

/-- The same finish with the output held back until the end. -/
def Finish.heldBack (finish : Finish) : Finish :=
  { finish with
    pieces := finish.pieces.filter (·.1 == .complaints) ++ finish.pieces.filter (·.1 == .output) }

/-- The style of the shell's `printf`. -/
def shellStyle : PrintingStyle where
  escape := formatEscape
  argumentEscape := argumentEscape
  kind := .double
  bareQuotes := true
  sized := false
  rangeFirst := false
  wraps := true
  numberWords := fun fault argument => argument ++ match fault with
    | .noNumber => ": expected numeric value".toList
    | .incomplete => ": not completely converted".toList
    | .tooLarge => ": Numerical result out of range".toList
  directiveWords := fun directive => directive ++ ": invalid directive".toList
  unfinishedWords := "missing format character".toList
  failure := 2

/-- Prints its arguments in the format that the first of them gives, as the shell does. -/
def shellPrintf : Tool := fun call =>
  match call.arguments with
  | [] | [['-', '-']] =>
      call.failed 2 "usage: printf format [arg ...]".toList
  | ['-', '-'] :: format :: values =>
      ((printFormat shellStyle format values).finish call).heldBack
  | ('-' :: c :: _) :: _ => call.failed 2 ("Illegal option -".toList ++ [c])
  | format :: values => ((printFormat shellStyle format values).finish call).heldBack

/-- The style of `printf` as a program. -/
def programStyle : PrintingStyle where
  escape := fun s => match s with
    | 'c' :: _ => .stop
    | '"' :: _ => .octet '"' 1
    | s => withHexadecimal formatEscape s
  argumentEscape := withHexadecimal argumentEscape
  kind := .extended
  bareQuotes := false
  sized := true
  rangeFirst := true
  wraps := false
  numberWords := fun fault argument => quotedArgument argument ++ match fault with
    | .noNumber => ": expected a numeric value".toList
    | .incomplete => ": value not completely converted".toList
    | .tooLarge => ": Numerical result out of range".toList
  directiveWords := fun directive => directive ++ ": invalid conversion specification".toList
  unfinishedWords := "%: invalid conversion specification".toList
  failure := 1

/-- Prints its arguments in the format that the first of them gives.  If the format takes
no arguments, it warns that it ignores them. -/
def printf : Tool := fun call =>
  let arguments := match call.arguments with
    | ['-', '-'] :: rest => rest
    | arguments => arguments
  match arguments with
  | [] => call.missingOperand 1
  | format :: values =>
      let printed := printFormat programStyle format values
      match printed.arguments with
      | [] => printed.finish call
      | ignored :: _ =>
          if printed.stopped then printed.finish call
          else
            (printed.complain ("warning: ignoring excess arguments, starting with ".toList ++
              quotedArgument ignored)).finish call

end Tools
end CaptureKit
