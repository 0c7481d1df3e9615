import EntityFilter.Filter.Expr
import EntityFilter.Json.Value

/-!
# The outline of a filter

A filter as a JSON value, for those who want to look at its tree.
-/

namespace EntityFilter

/-- The name of the kind of a literal. -/
def Literal.kindName : Literal → String
  | number _   => "number"
  | ref _      => "ref"
  | str _      => "str"
  | uri _      => "uri"
  | bool _     => "bool"
  | date _     => "date"
  | time _     => "time"
  | dateTime _ => "dateTime"

/-- The value of a literal.  A number stays a text. -/
def Literal.content : Literal → Json
  | number s | str s | uri s | dateTime s => .str s
  | ref id                                => .int id
  | bool b                                => .bool b
  | date d                                => .str d.text
  | time t                                => .str t.text

/-- The outline of a literal. -/
def Literal.outline (value : Literal) : Json :=
  .obj [("kind", .str value.kindName), ("value", value.content)]

/-- The outline of a path. -/
def Path.outline (p : Path) : Json :=
  .obj [("segments", .arr (p.segments.map .str))]

namespace Expr

mutual

/-- The outline of a filter. -/
def outline : Expr → Json
  | or operands         => .obj [("type", .str "or"), ("operands", .arr (outlines operands))]
  | and operands        => .obj [("type", .str "and"), ("operands", .arr (outlines operands))]
  | paren inner         => .obj [("type", .str "paren"), ("inner", inner.outline)]
  | has path            => .obj [("type", .str "has"), ("path", path.outline)]
  | missing path        => .obj [("type", .str "missing"), ("path", path.outline)]
  | compare path op value =>
    .obj [("type", .str "cmp"), ("path", path.outline), ("op", .str op.name),
          ("value", value.outline)]
  | member path values  =>
    .obj [("type", .str "inCmp"), ("path", path.outline),
          ("values", .arr (values.map Literal.outline))]

/-- The outlines of some filters. -/
def outlines : List Expr → List Json
  | []        => []
  | e :: rest => e.outline :: outlines rest

end

end Expr

end EntityFilter
