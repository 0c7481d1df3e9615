import EntityFilter.Calendar.Reading
import EntityFilter.Filter.SyntaxError

/-!
# Lexemes

What stands at the front of a text that starts with no blank.  `Reading.of` decides by the first
character and reads as far as the token goes: it tells the token and how many characters it takes,
or why there is none and how many characters were looked through until that was certain.

A quoted text is read by `strBody`, `inStrBody` and `uriBody`, which start behind the opening
quote.  Numbers, dates and times all start with digits; `numeric` tells them apart by the number of
leading digits and what follows them.
-/

namespace EntityFilter

/-- What stands at the front of a text. -/
inductive Reading
  /-- A token of this kind and value, which takes `more` characters after its first. -/
  | token (kind : TokenKind) (value : String) (more : Nat)
  /-- No token; the reading gave up after `taken` characters. -/
  | fault (cause : SyntaxCause) (taken : Nat)
deriving DecidableEq, Repr

/-- The text behind an opening quote. -/
inductive QuotedBody
  /-- What it stands for, and how many characters it takes with the closing quote. -/
  | closed (value : List Char) (width : Nat)
  /-- It denotes nothing; the reading gave up after `taken` characters. -/
  | fault (cause : SyntaxCause) (taken : Nat)
deriving DecidableEq, Repr

namespace QuotedBody

/-- The body with `n` more characters in front that add nothing to what it stands for. -/
def skip (n : Nat) : QuotedBody → QuotedBody
  | closed value width => closed value (n + width)
  | fault cause taken  => fault cause (n + taken)

/-- The body with `n` more characters in front that stand for `c`. -/
def push (c : Char) (n : Nat) : QuotedBody → QuotedBody
  | closed value width => closed (c :: value) (n + width)
  | fault cause taken  => fault cause (n + taken)

/-- The token of a quoted text of kind `kind`, its opening quote included. -/
def toReading (kind : TokenKind) : QuotedBody → Reading
  | closed value width => .token kind (String.ofList value) width
  | fault cause taken  => .fault cause (taken + 1)

end QuotedBody

namespace Reading

/-! ### Texts in double quotes -/

/-- `c` is a hexadecimal digit. -/
def isHexDigit (c : Char) : Bool :=
  c.isDigit || ('a' ≤ c && c ≤ 'f') || ('A' ≤ c && c ≤ 'F')

/-- The value of a hexadecimal digit. -/
def hexDigit (c : Char) : Nat :=
  if c.isDigit then c.toNat - '0'.toNat
  else if 'a' ≤ c then c.toNat - 'a'.toNat + 10
  else c.toNat - 'A'.toNat + 10

/-- The character with a code point in hexadecimal digits; surrogates are none. -/
def charOfHex? (digits : List Char) : Option Char :=
  let code := digits.foldl (fun n c => 16 * n + hexDigit c) 0
  if code.isValidChar then some (Char.ofNat code) else none

/-- What a backslash and `c` stand for, `u` apart. -/
def simpleEscape? : Char → Option Char
  | '"'  => some '"'
  | '\\' => some '\\'
  | '/'  => some '/'
  | 'n'  => some '\n'
  | 't'  => some '\t'
  | 'r'  => some '\r'
  | _    => none

/-- How far an escape has been read. -/
inductive EscapeState
  /-- Outside of escapes. -/
  | plain
  /-- Behind a backslash. -/
  | escaped
  /-- Behind `\u` and these of its four digits. -/
  | hex (digits : List Char)
deriving DecidableEq, Repr

/-- A text in double quotes, behind the opening one. -/
def strBody : EscapeState → List Char → QuotedBody
  | .plain, [] | .escaped, [] => .fault (.unrecognised "\"") 0
  | .hex digits, [] => .fault (.invalidLiteral .string (String.ofList digits)) 0
  | .plain, c :: rest =>
    if c == '"' then .closed [] 1
    else if c == '\\' then (strBody .escaped rest).skip 1
    else (strBody .plain rest).push c 1
  | .escaped, c :: rest =>
    if c == 'u' then (strBody (.hex []) rest).skip 1
    else match simpleEscape? c with
      | some d => (strBody .plain rest).push d 1
      | none   => .fault (.invalidLiteral .string (String.ofList ['\\', c])) 0
  | .hex digits, c :: rest =>
    if !isHexDigit c then .fault (.invalidLiteral .string (String.ofList digits)) 0
    else if digits.length < 3 then (strBody (.hex (digits ++ [c])) rest).skip 1
    else match charOfHex? (digits ++ [c]) with
      | some d => (strBody .plain rest).push d 1
      | none   => .fault (.invalidLiteral .string (String.ofList (digits ++ [c]))) 1

/-! ### Texts in single and in back quotes -/

/-- A text in single quotes, behind the opening one; two quotes stand for one. -/
def inStrBody : List Char → QuotedBody
  | []                   => .fault (.unrecognised "'") 0
  | '\'' :: '\'' :: rest => (inStrBody rest).push '\'' 2
  | '\'' :: _            => .closed [] 1
  | c :: rest            => (inStrBody rest).push c 1

/-- A text in back quotes, behind the opening one; nothing is escaped. -/
def uriBody : List Char → QuotedBody
  | []        => .fault (.unrecognised "`") 0
  | c :: rest => if c == '\x60' then .closed [] 1 else (uriBody rest).push c 1

/-! ### Names and references -/

/-- `c` may start a name. -/
def isNameStart (c : Char) : Bool :=
  c.isAlpha || c == '_'

/-- `c` may go on a name. -/
def isNamePart (c : Char) : Bool :=
  c.isAlphanum || c == '_'

/-- The kind of a word: keywords in any letter case, truth values in lower case only. -/
def wordKind (word : String) : TokenKind :=
  match String.ofList (word.toList.map Char.toLower) with
  | "and" => .and
  | "or"  => .or
  | "not" => .not
  | "in"  => .member
  | _     => if word == "true" || word == "false" then .bool else .name

/-- A word: a keyword, a truth value or a name. -/
def word (c : Char) (rest : List Char) : Reading :=
  let more := rest.takeWhile isNamePart
  let text := String.ofList (c :: more)
  .token (wordKind text) text more.length

/-- The number of an entity, behind `@`.  A number beyond 64 bits is no reference. -/
def reference (rest : List Char) : Reading :=
  let digits := rest.takeWhile Char.isDigit
  match Text.int64? digits with
  | some _ => .token .ref (String.ofList digits) digits.length
  | none =>
    let tail := (rest.drop digits.length).takeWhile fun c => c.isAlphanum || c == ':' || c == '_'
    .fault (.invalidLiteral .reference (String.ofList ('@' :: digits ++ tail)))
      (1 + digits.length + tail.length)

/-! ### Numbers, dates and times -/

/-- How many digits a text starts with. -/
def digitsWidth (text : List Char) : Nat :=
  (text.takeWhile Char.isDigit).length

/-- The width of a point and the digits behind it, of which there has to be one. -/
def fractionWidth : List Char → Nat
  | '.' :: rest => if digitsWidth rest = 0 then 0 else 1 + digitsWidth rest
  | _           => 0

/-- The width of a sign. -/
def signWidth : List Char → Nat
  | '+' :: _ | '-' :: _ => 1
  | _                   => 0

/-- The width of `e` or `E`, an optional sign and the digits behind it, of which there has to be
one. -/
def exponentWidth : List Char → Nat
  | e :: rest =>
    let run := digitsWidth (rest.drop (signWidth rest))
    if (e == 'e' || e == 'E') && run != 0 then 1 + signWidth rest + run else 0
  | [] => 0

/-- The width of the number a text starts with: a minus sign, digits, a fraction and an
exponent. -/
def numberWidth (text : List Char) : Nat :=
  let sign := if text.head? == some '-' then 1 else 0
  let whole := sign + digitsWidth (text.drop sign)
  let mantissa := whole + fractionWidth (text.drop whole)
  mantissa + exponentWidth (text.drop mantissa)

/-- A number.  Its value is the text as written, with a small `e`. -/
def number (text : List Char) : Reading :=
  let lexeme := text.take (numberWidth text)
  .token .number (String.ofList (lexeme.map fun c => if c == 'E' then 'e' else c))
    (lexeme.length - 1)

/-- A date, or a date and a time of day joined by `T` and a digit. -/
def date (text : List Char) : Reading :=
  let day := text.takeWhile fun c => c.isDigit || c == '-'
  match text.drop day.length with
  | 'T' :: d :: rest =>
    if d.isDigit then
      let time := (d :: rest).takeWhile fun c =>
        c.isDigit || c == ':' || c == '.' || c == '+' || c == '-' || c == 'Z'
      let lexeme := day ++ 'T' :: time
      if isDateTime lexeme then .token .dateTime (String.ofList lexeme) (lexeme.length - 1)
      else .fault (.invalidLiteral .dateTime (String.ofList lexeme)) lexeme.length
    else justDay day
  | _ => justDay day
where
  justDay (day : List Char) : Reading :=
    match Date.read? day with
    | some _ => .token .date (String.ofList day) (day.length - 1)
    | none   => .fault (.invalidLiteral .date (String.ofList day)) day.length

/-- A time of day. -/
def time (text : List Char) : Reading :=
  let lexeme := text.takeWhile fun c => c.isDigit || c == ':' || c == '.'
  match TimeOfDay.read? lexeme with
  | some _ => .token .time (String.ofList lexeme) (lexeme.length - 1)
  | none   => .fault (.invalidLiteral .time (String.ofList lexeme)) lexeme.length

/-- Four digits, a hyphen and a digit start a date; two digits and a colon start a time; all other
digits start a number. -/
def numeric (text : List Char) : Reading :=
  let leading := digitsWidth text
  match text.drop leading with
  | '-' :: d :: _ => if leading = 4 && d.isDigit then date text else number text
  | ':' :: _      => if leading = 2 then time text else number text
  | _             => number text

/-! ### All lexemes -/

/-- What stands at the front of the text `c :: rest`, where `c` is no blank. -/
def of (c : Char) (rest : List Char) : Reading :=
  match c with
  | '(' => .token .openParen "(" 0
  | ')' => .token .closeParen ")" 0
  | ',' => .token .comma "," 0
  | '=' => if rest.head? == some '=' then .token (.comparison .eq) "==" 1
           else .fault (.unrecognised "=") 0
  | '!' => if rest.head? == some '=' then .token (.comparison .ne) "!=" 1
           else .fault (.unrecognised "!") 0
  | '<' => if rest.head? == some '=' then .token (.comparison .le) "<=" 1
           else .token (.comparison .lt) "<" 0
  | '>' => if rest.head? == some '=' then .token (.comparison .ge) ">=" 1
           else .token (.comparison .gt) ">" 0
  | '-' => if rest.head? == some '>' then .token .arrow "->" 1
           else if rest.head?.any Char.isDigit then number (c :: rest)
           else .fault (.unrecognised "-") 0
  | '"'    => (strBody .plain rest).toReading .str
  | '\''   => (inStrBody rest).toReading .inStr
  | '\x60' => (uriBody rest).toReading .uri
  | '@'    => reference rest
  | _      =>
    if c.isDigit then numeric (c :: rest)
    else if isNameStart c then word c rest
    else .fault (.unrecognised (String.singleton c)) 0

end Reading

end EntityFilter
