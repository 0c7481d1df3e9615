import EntityFilter.Json.Value
import EntityFilter.Text.Printable

/-!
# Log events

An event has a level, the part of the program it comes from (its target), a message and fields.
It is written as a line of text, with or without colours, or as a JSON object.
-/

namespace EntityFilter

/-- How important an event is. -/
inductive LogLevel
  | error | warn | info | debug | trace
deriving DecidableEq, Repr

namespace LogLevel

/-- All levels, the most important first. -/
def all : List LogLevel :=
  [error, warn, info, debug, trace]

/-- The name of a level. -/
def name : LogLevel → String
  | error => "ERROR" | warn => "WARN" | info => "INFO" | debug => "DEBUG" | trace => "TRACE"

/-- The number of a level: the more important, the smaller. -/
def rank : LogLevel → Nat
  | error => 1 | warn => 2 | info => 3 | debug => 4 | trace => 5

/-- The code of the colour of a level. -/
def colour : LogLevel → String
  | error => "31" | warn => "33" | info => "32" | debug => "34" | trace => "35"

end LogLevel

/-- The value of a field. -/
inductive LogValue
  /-- A text, written as it is. -/
  | plain (text : String)
  /-- A text, written in quotes. -/
  | quoted (text : String)
  | flag (value : Bool)
  | count (value : Nat)
deriving DecidableEq, Repr

namespace LogValue

/-- A character as it stands in quotes.  What could not be seen there on its own is shown by its
code point. -/
def escape (c : Char) : List Char :=
  match c with
  | '"'  => ['\\', '"']
  | '\\' => ['\\', '\\']
  | '\n' => ['\\', 'n']
  | '\r' => ['\\', 'r']
  | '\t' => ['\\', 't']
  | '\x00' => ['\\', '0']
  | _    =>
    if Text.isPrintable c && !Text.isExtending c then [c]
    else '\\' :: 'u' :: '\x7b' :: Nat.toDigits 16 c.toNat ++ ['\x7d']

/-- The value in a line of text. -/
def text : LogValue → String
  | plain s  => s
  | quoted s => String.ofList ('"' :: s.toList.flatMap escape ++ ['"'])
  | flag b   => if b then "true" else "false"
  | count n  => Text.natural n

/-- The value in an object. -/
def toJson : LogValue → Json
  | plain s | quoted s => .str s
  | flag b             => .bool b
  | count n            => .int n

end LogValue

/-- An event. -/
structure LogEvent where
  level : LogLevel := .info
  target : String
  message : String
  fields : List (String × LogValue) := []
deriving DecidableEq, Repr

/-- How events are written. -/
inductive LogFormat
  | coloured | text | json
deriving DecidableEq, Repr

namespace LogEvent

/-- A text between two codes for a terminal. -/
def styled (code text : String) : String :=
  "\x1b[" ++ code ++ "m" ++ text ++ "\x1b[0m"

/-- The level, set to the right in five characters. -/
def paddedLevel (level : LogLevel) : String :=
  String.ofList (List.replicate (5 - level.name.length) ' ') ++ level.name

/-- The names of the parts of an event. -/
def names (e : LogEvent) : List String :=
  "message" :: e.fields.map Prod.fst

/-- The text for an event, without the time. -/
def line (e : LogEvent) : LogFormat → String
  | .coloured =>
    styled e.level.colour (paddedLevel e.level) ++ " " ++ styled "2" e.target ++ styled "2" ":" ++
    " " ++ e.message ++
    String.join (e.fields.map fun f => " " ++ styled "3" f.1 ++ styled "2" "=" ++ f.2.text)
  | .text =>
    e.level.name ++ " " ++ e.target ++ ": " ++ e.message ++
    String.join (e.fields.map fun f => " " ++ f.1 ++ "=" ++ f.2.text)
  | .json =>
    (Json.obj
      [("level", .str e.level.name),
       ("fields", .obj (("message", .str e.message) :: e.fields.map fun f => (f.1, f.2.toJson))),
       ("target", .str e.target)]).render

/-- The lines for an event: values that are written as they are may break its text. -/
def lines (e : LogEvent) (format : LogFormat) : List String :=
  ((e.line format).replace "\r\n" "\n").splitOn "\n"

end LogEvent

end EntityFilter
