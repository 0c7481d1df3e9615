/-!
# Comparisons

The six ways to compare a tag's value with a literal, each with its spelling in a filter and in
SQL.
-/

namespace EntityFilter

/-- A way to compare two values. -/
inductive Comparison
  | eq | ne | lt | le | gt | ge
deriving DecidableEq, Repr

namespace Comparison

/-- The spelling in a filter. -/
def spelling : Comparison → String
  | eq => "==" | ne => "!=" | lt => "<" | le => "<=" | gt => ">" | ge => ">="

/-- The spelling in SQL. -/
def sql : Comparison → String
  | eq => "=" | ne => "!=" | lt => "<" | le => "<=" | gt => ">" | ge => ">="

/-- The name in a tree written as JSON. -/
def name : Comparison → String
  | eq => "eq" | ne => "ne" | lt => "lt" | le => "le" | gt => "gt" | ge => "ge"

/-- The comparison with a name. -/
def ofName? (name : String) : Option Comparison :=
  [eq, ne, lt, le, gt, ge].find? fun op => op.name == name

end Comparison

end EntityFilter
