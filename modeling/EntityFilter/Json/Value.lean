import EntityFilter.Number.Shortest

/-!
# JSON values

Values and their text.  An object keeps its members in order, and a repeated name keeps the place
of its first and the value of its last occurrence (`Json.insert`).  The text has no blanks
(`Json.render`) or is laid out over lines (`Json.pretty`).

A number is an integer or a binary number of 64 bits.  The text of the latter has the fewest
digits that read back the same, always with a point or an exponent, so that the two never look
alike.
-/

namespace EntityFilter

/-- A JSON value. -/
inductive Json
  | null
  | bool (value : Bool)
  | int (value : Int)
  | float (value : Binary)
  | str (text : String)
  | arr (items : List Json)
  | obj (members : List (String × Json))
deriving Repr

namespace Json

/-- The members with `name` set to `value`: in its place if it has one, else behind all others. -/
def insert (members : List (String × Json)) (name : String) (value : Json) :
    List (String × Json) :=
  if members.any fun m => m.1 == name then
    members.map fun m => if m.1 == name then (name, value) else m
  else members ++ [(name, value)]

/-- The object with these members set one after the other. -/
def ofMembers (members : List (String × Json)) : Json :=
  .obj (members.foldl (fun set m => insert set m.1 m.2) [])

/-- The member of an object with this name. -/
def get? (value : Json) (name : String) : Option Json :=
  match value with
  | .obj members => (members.find? fun m => m.1 == name).map Prod.snd
  | _            => none

/-- A number of 64 bits; what is not finite has no number in JSON. -/
def ofDouble : Double → Json
  | .finite value => .float value
  | _             => .null

/-! ### Text -/

/-- The digits of a hexadecimal number below 16. -/
def hexChar (n : Nat) : Char :=
  if n < 10 then Char.ofNat ('0'.toNat + n) else Char.ofNat ('a'.toNat + (n - 10))

/-- A character as it stands in a string: quotes, backslashes and control characters are
escaped. -/
def escape (c : Char) : List Char :=
  match c with
  | '"'    => ['\\', '"']
  | '\\'   => ['\\', '\\']
  | '\x08' => ['\\', 'b']
  | '\x0c' => ['\\', 'f']
  | '\n'   => ['\\', 'n']
  | '\r'   => ['\\', 'r']
  | '\t'   => ['\\', 't']
  | _      =>
    if c.toNat < 0x20 then ['\\', 'u', '0', '0', hexChar (c.toNat / 16), hexChar (c.toNat % 16)]
    else [c]

/-- A string in quotes. -/
def quote (text : String) : String :=
  String.ofList ('"' :: text.toList.flatMap escape ++ ['"'])

/-- The text of a number of 64 bits: without an exponent from `1e-5` up to below `1e16`, and with a
point even if no digits follow. -/
def floatText (a : Binary) : String :=
  let d := a.shortest .double
  let magnitude :=
    if a.isZero then "0.0"
    else if -5 ≤ d.exponent && d.exponent ≤ 15 then
      if d.split.2.isEmpty then d.plain ++ ".0" else d.plain
    else d.scientific
  if a.negative then "-" ++ magnitude else magnitude

mutual

/-- The text of a value, without blanks. -/
def render : Json → String
  | null       => "null"
  | bool true  => "true"
  | bool false => "false"
  | int n      => Text.integer n
  | float a    => floatText a
  | str text   => quote text
  | arr items  => "[" ++ renderItems items ++ "]"
  | obj members => "\x7b" ++ renderMembers members ++ "\x7d"

/-- The items of an array, with commas between them. -/
def renderItems : List Json → String
  | []           => ""
  | [item]       => item.render
  | item :: rest => item.render ++ "," ++ renderItems rest

/-- The members of an object, with commas between them. -/
def renderMembers : List (String × Json) → String
  | []              => ""
  | [(name, value)] => quote name ++ ":" ++ value.render
  | (name, value) :: rest => quote name ++ ":" ++ value.render ++ "," ++ renderMembers rest

end

/-- A new line, indented by two blanks a level. -/
def newline (level : Nat) : String :=
  String.ofList ('\n' :: List.replicate (2 * level) ' ')

mutual

/-- The text of a value over several lines, where `level` levels enclose it. -/
def prettyAt (level : Nat) : Json → String
  | arr (item :: rest) =>
    "[" ++ prettyItems (level + 1) (item :: rest) ++ newline level ++ "]"
  | obj (member :: rest) =>
    "\x7b" ++ prettyMembers (level + 1) (member :: rest) ++ newline level ++ "\x7d"
  | value => value.render

/-- The items of an array, each on lines of its own. -/
def prettyItems (level : Nat) : List Json → String
  | []           => ""
  | [item]       => newline level ++ item.prettyAt level
  | item :: rest => newline level ++ item.prettyAt level ++ "," ++ prettyItems level rest

/-- The members of an object, each on lines of its own. -/
def prettyMembers (level : Nat) : List (String × Json) → String
  | []              => ""
  | [(name, value)] => newline level ++ quote name ++ ": " ++ value.prettyAt level
  | (name, value) :: rest =>
    newline level ++ quote name ++ ": " ++ value.prettyAt level ++ "," ++ prettyMembers level rest

end

/-- The text of a value over several lines. -/
def pretty (value : Json) : String :=
  value.prettyAt 0

end Json

end EntityFilter
