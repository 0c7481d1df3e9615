import EntityFilter.Filter.Expr

/-!
# Kinds of values

A tag's value lies in one of several columns.  Which one is decided by the tag's kind, and the
kind is told by the names of the tag's ancestors: a tag below `number` has its value in the column
of numbers.  A literal fits the values of some kinds only, in a fixed order of preference.
-/

namespace EntityFilter

/-- The kind of a tag's value. -/
inductive ValueKind
  | number | ref | bool | str | temporal
deriving DecidableEq, Repr

namespace ValueKind

/-- All kinds. -/
def all : List ValueKind :=
  [number, ref, bool, str, temporal]

/-- The ancestors that tell the kind. -/
def markers : ValueKind → List String
  | number   => ["number"]
  | ref      => ["ref"]
  | bool     => ["bool"]
  | str      => ["str"]
  | temporal => ["date", "dateTime", "time"]

/-- The column that holds the value. -/
def column : ValueKind → String
  | number   => "value_n"
  | ref      => "value_ref"
  | bool     => "value_b"
  | str      => "value_s"
  | temporal => "value_ts"

/-- The name of the kind. -/
def name : ValueKind → String
  | number => "number" | ref => "ref" | bool => "bool" | str => "str" | temporal => "temporal"

/-- The kind with a name. -/
def ofName? (name : String) : Option ValueKind :=
  all.find? fun kind => kind.name == name

end ValueKind

/-- The kinds of values that a literal is compared with. -/
def Literal.kinds : Literal → List ValueKind
  | .number _ | .ref _                 => [.number, .ref]
  | .bool _                            => [.bool]
  | .str _ | .uri _                    => [.str]
  | .date _ | .time _ | .dateTime _    => [.temporal]

/-- The kinds of values that are looked for in a list; its first element decides. -/
def kindsOfList (values : List Literal) : List ValueKind :=
  if values.head?.any Literal.isNumeric then [.number, .ref] else [.str]

/-- The kinds of values that a condition speaks of. -/
def Condition.kinds : Condition → List ValueKind
  | .compare _ value => value.kinds
  | .member values   => kindsOfList values

/-- The columns that may hold a value. -/
def allValueColumns : List String :=
  ["value_n", "value_b", "value_s", "value_ts", "value_list", "value_dict", "value_ref",
   "value_enum"]

end EntityFilter
