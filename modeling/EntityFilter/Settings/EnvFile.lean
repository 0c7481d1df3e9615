import EntityFilter.Text.Alphanumeric
import EntityFilter.Text.Blank

/-!
# Files of variables

A file of variables has lines `NAME=value`, perhaps with `export` in front, and comments behind a
hash sign.  A value may be quoted, and then goes on over the ends of lines; outside of single
quotes `$NAME` and `${NAME}` stand for the values of variables.

The lines take effect one after the other, up to the first that is malformed.  A variable that is
set already keeps its value.
-/

namespace EntityFilter.EnvFile

/-! ### Lines -/

/-- Where a line stands that is read character by character. -/
inductive LineState
  | complete
  | blank
  | escape
  | double
  | doubleEscape
  | single
  | singleEscape
deriving DecidableEq, Repr

/-- The state after a character outside of quotes. -/
def LineState.outside (c : Char) : LineState :=
  match c with
  | '\\' => escape
  | '"'  => double
  | '\'' => single
  | _    => complete

/-- The state after a character. -/
def LineState.next (s : LineState) (c : Char) : LineState :=
  match s with
  | complete     => if Text.isBlank c && c != '\n' && c != '\r' then blank else outside c
  | blank        => outside c
  | escape       => complete
  | double       => if c = '\\' then doubleEscape else if c = '"' then complete else double
  | doubleEscape => double
  | single       => if c = '\\' then singleEscape else if c = '\'' then complete else single
  | singleEscape => single

/-- The state behind a line of the text, and the part of the line in front of a comment. -/
def scan : LineState → List Char → LineState × Option (List Char)
  | s, [] => (s, none)
  | s, c :: rest =>
    if s = .blank && c = '#' then (s, some [])
    else
      let (last, front) := scan (s.next c) rest
      (last, front.map (c :: ·))

/-- The lines of a text, each with its end. -/
def physical : List Char → List (List Char)
  | [] => []
  | c :: rest =>
    match c, physical rest with
    | '\n', lines        => ['\n'] :: lines
    | _, []              => [[c]]
    | _, line :: lines   => (c :: line) :: lines

/-- A line without its end. -/
def withoutEnd (line : List Char) : List Char :=
  match line.reverse with
  | '\n' :: '\r' :: rest => rest.reverse
  | '\n' :: rest         => rest.reverse
  | _                    => line

/-- The lines that are joined while a quote is open; none for one that the text ends in. -/
def logical (s : LineState) (front : List Char) : List (List Char) → List (Option (List Char))
  | [] => if s = .complete then [] else [none]
  | line :: rest =>
    let whole := front ++ line
    if (Text.trimStart whole).head? = some '#' then some [] :: logical .complete [] rest
    else match scan s line with
      | (_, some kept)    => some (front ++ kept) :: logical .complete [] rest
      | (.complete, none) => some (withoutEnd whole) :: logical .complete [] rest
      | (s, none)         => logical s whole rest

/-! ### Values -/

/-- Variables and their values. -/
abbrev Variables := List (String × String)

/-- What is inside of what while a value is read. -/
inductive ValueState
  | plain
  /-- A blank was met, so only a comment may follow. -/
  | ended
  | escape (quoted : Bool)
  | single
  | double
  /-- The name of a variable, with the characters read so far. -/
  | name (quoted : Bool) (read : List Char)
  /-- The same within braces. -/
  | braced (quoted : Bool) (read : List Char)
deriving DecidableEq, Repr

/-- The state outside of names and escapes. -/
def ValueState.within (quoted : Bool) : ValueState :=
  if quoted then double else plain

/-- What an escaped character stands for. -/
def escaped? : Char → Option Char
  | 'n' => some '\n'
  | c   => if "\\'\"$ ".toList.contains c then some c else none

/-- The value of a variable; nothing if it is not set. -/
def valueOf (known : Variables) (name : List Char) : List Char :=
  ((known.lookup (String.ofList name)).getD "").toList

/-- The value that a text is, read from a state. -/
def value? (known : Variables) : ValueState → List Char → Option (List Char)
  | .plain, []              => some []
  | .ended, []              => some []
  | .escape false, []       => some []
  | .name false read, []    => some (valueOf known read)
  | _, []                   => none
  | .ended, c :: rest =>
    if c = ' ' || c = '\t' then value? known .ended rest else if c = '#' then some [] else none
  | .escape quoted, c :: rest => do
    let c ← escaped? c
    return c :: (← value? known (.within quoted) rest)
  | .single, c :: rest =>
    if c = '\'' then value? known .plain rest else (value? known .single rest).map (c :: ·)
  | .name quoted read, c :: rest =>
    if Text.isAlphanumeric c then value? known (.name quoted (read ++ [c])) rest
    else if c = '\x7b' && read.isEmpty then value? known (.braced quoted []) rest
    else if c = '$' then (value? known (.name quoted []) rest).map (valueOf known read ++ ·)
    else (value? known (.within quoted) rest).map (valueOf known read ++ c :: ·)
  | .braced quoted read, c :: rest =>
    if c = '\x7d' then (value? known (.within quoted) rest).map (valueOf known read ++ ·)
    else value? known (.braced quoted (read ++ [c])) rest
  | .double, c :: rest =>
    match c with
    | '$'  => value? known (.name true []) rest
    | '"'  => value? known .plain rest
    | '\\' => value? known (.escape true) rest
    | _    => (value? known .double rest).map (c :: ·)
  | .plain, c :: rest =>
    match c with
    | '$'  => value? known (.name false []) rest
    | '\'' => value? known .single rest
    | '"'  => value? known .double rest
    | '\\' => value? known (.escape false) rest
    | ' '  => value? known .ended rest
    | '\t' => value? known .ended rest
    | _    => (value? known .plain rest).map (c :: ·)

/-! ### Variables -/

/-- A name in front of a text, and the text behind it and blanks. -/
def name? (text : List Char) : Option (String × List Char) :=
  match text with
  | first :: _ =>
    if first.isAlpha || first = '_' then
      let name := text.takeWhile fun c => c.isAlphanum || c = '_' || c = '.'
      some (String.ofList name, Text.trimStart (text.drop name.length))
    else none
  | [] => none

/-- The text behind an equals sign and blanks. -/
def behindEquals? : List Char → Option (List Char)
  | '=' :: rest => some (Text.trimStart rest)
  | _           => none

/-- The variable that a line sets; nothing on an empty line. -/
def assignment? (known : Variables) (line : List Char) : Option (Option (String × String)) := do
  let text := Text.trimStart (Text.trimEnd line)
  if text.isEmpty || text.head? = some '#' then return none
  let (name, rest) ← name? text
  let (name, rest) ← match name, behindEquals? rest with
    | "export", none => do
      let (name, rest) ← name? rest
      pure (name, ← behindEquals? rest)
    | _, some rest => some (name, rest)
    | _, none      => none
  if rest.isEmpty || rest.head? = some '#' then return some (name, "")
  return some (name, String.ofList (← value? known .plain rest))

/-- The variables after the lines.  `set` are those that count, and `seen` also those of the file
that were set already. -/
def load (set seen : Variables) : List (Option (List Char)) → Variables
  | [] => set
  | none :: _ => set
  | some line :: rest =>
    match assignment? (set ++ seen) line with
    | none                      => set
    | some none                 => load set seen rest
    | some (some (name, value)) =>
      let seen := (name, value) :: seen
      if (set.lookup name).isSome then load set seen rest
      else load (set ++ [(name, value)]) seen rest

/-- The variables of the environment and of a file. -/
def read (environment : Variables) (text : String) : Variables :=
  let chars := match text.toList with
    | '\uFEFF' :: rest => rest
    | chars            => chars
  load environment [] (logical .complete [] (physical chars))

example : read [("A", "1")] "A=2\nexport B='x y' # note\nC=\"$A-$B.\"\n" =
    [("A", "1"), ("B", "x y"), ("C", "1-x y.")] := by decide +kernel
example : read [] "C=${B}z$B\nB=x\nD=$B.${B}\n" =
    [("C", "z"), ("B", "x"), ("D", "x.x")] := by decide +kernel

end EntityFilter.EnvFile
