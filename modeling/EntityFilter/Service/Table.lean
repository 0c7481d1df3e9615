import EntityFilter.Calendar.Instant
import EntityFilter.Json.Draft
import EntityFilter.Number.FixedPoint

/-!
# Results of statements

The database answers a statement with a table of cells.  A cell becomes a JSON value
(`Cell.toJson?`), or is read as what is expected in its place (`Cell.asBool?` and others).  Both
can fail: a cell may have a type that cannot be read, or no value where one is needed.
-/

namespace EntityFilter

/-- A cell of a result. -/
inductive Cell
  | null
  /-- An integer, with the number of its bytes. -/
  | int (bytes : Nat) (value : Int)
  | float (value : Double)
  /-- A decimal, as written. -/
  | numeric (text : String)
  | bool (value : Bool)
  /-- Microseconds since the start of 1970, with or without a time zone. -/
  | timestamp (zoned : Bool) (microseconds : Int)
  /-- Days since the start of 1970. -/
  | date (days : Int)
  /-- Microseconds since midnight. -/
  | time (microseconds : Int)
  /-- A JSON text. -/
  | json (text : String)
  | text (text : String)
  /-- A value of a type that cannot be read. -/
  | unreadable
deriving DecidableEq, Repr

namespace Cell

/-- The JSON value of a decimal: an integer, if it is one of 64 bits. -/
def numericToJson? (text : String) : Option Json := do
  let a ← FixedPoint.read? text.toList
  match a.int64? with
  | some n => return .int n
  | none   => return .float (← a.toBinary?)

/-- The JSON value of a cell. -/
def toJson? : Cell → Option Json
  | null         => some .null
  | int _ n      => some (.int n)
  | float d      => some (.ofDouble d)
  | numeric s    => numericToJson? s
  | bool b       => some (.bool b)
  | timestamp zoned m =>
    (timestampText? m).map fun s => .str (if zoned then s ++ "+00:00" else s)
  | date days    => (Date.ofDayNumber? days).map fun d => .str d.text
  | time m       => some (.str (TimeOfDay.ofMicroseconds m).text)
  | json s       => Json.read? s
  | text s       => some (.str s)
  | unreadable   => none

/-- A truth value. -/
def asBool? : Cell → Option Bool
  | bool b => some b
  | _      => none

/-- An integer of 64 bits. -/
def asInt64? : Cell → Option Int
  | int 8 n => some n
  | _       => none

/-- A text that may be missing. -/
def asText? : Cell → Option (Option String)
  | null   => some none
  | text s => some (some s)
  | _      => none

end Cell

/-- The result of a statement. -/
structure Table where
  columns : List String
  rows : List (List Cell)
deriving DecidableEq, Repr

namespace Table

/-- The rows as JSON values. -/
def toJson? (t : Table) : Option (List (List Json)) :=
  t.rows.mapM fun row => row.mapM Cell.toJson?

/-- The rows as objects by the names of the columns. -/
def objects? (t : Table) : Option (List Json) := do
  let rows ← t.toJson?
  return rows.map fun row => .ofMembers (t.columns.zip row)

/-- The place of the last column with a name. -/
def column? (t : Table) (name : String) : Option Nat :=
  (t.columns.zipIdx.reverse.find? fun c => c.1 == name).map Prod.snd

/-- The cell of a row in the column with a name. -/
def cell? (t : Table) (row : List Cell) (name : String) : Option Cell := do
  row[← t.column? name]?

end Table

end EntityFilter
