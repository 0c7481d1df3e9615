import EntityFilter.Text.Numeral

/-!
# Keys of settings

A key says where a setting belongs: names between points, and places in lists in brackets, as in
`filter.value_columns[2]`.  A text of another form is a key too, with the whole text as its name.

The letter case of names does not matter, so that they are compared in lower case.
-/

namespace EntityFilter

/-- A step on the way to a setting. -/
inductive KeyStep
  | name (name : String)
  /-- A place in a list; a negative one is counted from its end. -/
  | index (place : Int)
deriving DecidableEq, Repr

namespace KeyStep

/-- A character in lower case.  Of the characters beyond ASCII only the Kelvin sign has an ASCII
letter as its lower case, and the names of all settings are ASCII. -/
def lowerChar (c : Char) : Char :=
  if c = '\u212A' then 'k' else c.toLower

/-- A text in lower case letters. -/
def lower (s : String) : String :=
  String.ofList (s.toList.map lowerChar)

/-- A character of a name in a key. -/
def isNameChar (c : Char) : Bool :=
  c.isAlphanum || c == ' ' || c == '_' || c == '-'

/-- A character that may stand around a place in brackets. -/
def isPadding (c : Char) : Bool :=
  c == ' ' || c == '\t' || c == '\r' || c == '\n'

/-- The place that a text between brackets is. -/
def place? (text : List Char) : Option Int :=
  let text := ((text.dropWhile isPadding).reverse.dropWhile isPadding).reverse
  if text.head? = some '+' then none else Text.int64? text

/-- The name in front of a text, and the text behind it. -/
def name? (text : List Char) : Option (KeyStep × List Char) :=
  let found := text.takeWhile isNameChar
  if found.isEmpty then none else some (name (String.ofList found), text.drop found.length)

/-- The step in front of a text that is not the first, and the text behind it. -/
def next? : List Char → Option (KeyStep × List Char)
  | '.' :: rest => name? rest
  | '[' :: rest =>
    let found := rest.takeWhile (· != ']')
    match rest.drop found.length with
    | ']' :: behind => (place? found).map fun place => (index place, behind)
    | _             => none
  | _ => none

/-- The steps in a text, which takes at most `fuel` of them. -/
def steps? : (fuel : Nat) → List Char → Option (List KeyStep)
  | _, []           => some []
  | 0, _            => none
  | fuel + 1, text  => do
    let (step, rest) ← next? text
    return step :: (← steps? fuel rest)

/-- The steps of a key. -/
def ofKey (key : String) : List KeyStep :=
  let found := do
    let (first, rest) ← name? key.toList
    return first :: (← steps? rest.length rest)
  found.getD [name key]

example : ofKey "filter.value_columns[ -1 ]" =
    [name "filter", name "value_columns", index (-1)] := by decide +kernel
example : ofKey "a..b" = [name "a..b"] := by decide +kernel

end KeyStep

end EntityFilter
