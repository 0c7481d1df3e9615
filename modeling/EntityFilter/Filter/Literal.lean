import EntityFilter.Calendar.Reading
import EntityFilter.Filter.SyntaxError

/-!
# Literals

The values a filter compares with.  A number keeps its text, so that no digit is lost on the way
to the database; a date and time keeps its text because of its offset.
-/

namespace EntityFilter

/-- A value written in a filter. -/
inductive Literal
  /-- A number, as written. -/
  | number (text : String)
  /-- The entity with this number. -/
  | ref (id : Int)
  | str (text : String)
  | uri (text : String)
  | bool (value : Bool)
  | date (day : Date)
  | time (time : TimeOfDay)
  /-- A date and time, as written. -/
  | dateTime (text : String)
deriving DecidableEq, Repr

namespace Literal

/-- A number or a reference. -/
def isNumeric : Literal → Bool
  | number _ | ref _ => true
  | _                => false

/-- A text. -/
def isTextual : Literal → Bool
  | str _ | uri _ => true
  | _             => false

/-- A date, a time, or both. -/
def isTemporal : Literal → Bool
  | date _ | time _ | dateTime _ => true
  | _                            => false

/-- The kinds of tokens that a comparison accepts as a value, in the order messages list them. -/
def scalarKinds : List TokenKind :=
  [.bool, .ref, .str, .uri, .number, .date, .dateTime, .time]

/-- The kinds of tokens that a list may hold, in the order messages list them. -/
def listKinds : List TokenKind :=
  [.inStr, .str, .uri, .number, .ref]

/-- The value that a token denotes. -/
def ofToken (t : Token) : Except SyntaxCause Literal :=
  match t.kind with
  | .number       => .ok (number t.value)
  | .ref          => (Text.int64? t.value.toList).elim (invalid .reference) (.ok ∘ ref)
  | .str | .inStr => .ok (str t.value)
  | .uri          => .ok (uri t.value)
  | .bool         => .ok (bool (t.value == "true"))
  | .date         => (Date.read? t.value.toList).elim (invalid .date) (.ok ∘ date)
  | .time         => (TimeOfDay.read? t.value.toList).elim (invalid .time) (.ok ∘ time)
  | .dateTime     => .ok (dateTime t.value)
  | _             => .error (.mismatched t.display scalarKinds)
where
  invalid (form : LiteralForm) : Except SyntaxCause Literal :=
    .error (.invalidLiteral form t.value)

end Literal

end EntityFilter
