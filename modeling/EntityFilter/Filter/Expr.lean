import EntityFilter.Filter.Literal

/-!
# Filter expressions

The tree of a filter.  Its leaves are statements about a tag of an entity, or about a tag of an
entity that is reached through references: `a->b->c` follows the reference `a`, then the
reference `b`, and speaks of the tag `c` there.

Trees that come from a text have at least two operands under `or` and `and`, and no empty path;
the definitions here make no use of that.
-/

namespace EntityFilter

/-- A tag of an entity, or of one reached from it: the names along the way. -/
structure Path where
  segments : List String
deriving DecidableEq, Repr

namespace Path

/-- At least one reference is followed. -/
def isChain (p : Path) : Bool :=
  p.segments.length > 1

/-- The tag at the end of the way. -/
def terminal (p : Path) : String :=
  p.segments.getLastD ""

/-- How many names the path has. -/
def depth (p : Path) : Nat :=
  p.segments.length

/-- The names, joined by arrows. -/
def text (p : Path) : String :=
  "->".intercalate p.segments

end Path

/-- What is asked of a tag's value. -/
inductive Condition
  /-- It compares with `value`. -/
  | compare (op : Comparison) (value : Literal)
  /-- It is one of `values`. -/
  | member (values : List Literal)
deriving DecidableEq, Repr

/-- A mention of a tag in a filter, with what is asked of its value. -/
structure Reference where
  path : Path
  condition : Option Condition
deriving DecidableEq, Repr

/-- A filter. -/
inductive Expr
  /-- One of the operands holds. -/
  | or (operands : List Expr)
  /-- All operands hold. -/
  | and (operands : List Expr)
  | paren (inner : Expr)
  /-- The tag is there. -/
  | has (path : Path)
  /-- The tag is not there. -/
  | missing (path : Path)
  /-- The tag's value compares with `value`. -/
  | compare (path : Path) (op : Comparison) (value : Literal)
  /-- The tag's value is one of `values`. -/
  | member (path : Path) (values : List Literal)
deriving Repr

namespace Expr

mutual

/-- The tags that a filter mentions, from left to right. -/
def references : Expr → List Reference
  | or operands | and operands => referencesOfAll operands
  | paren inner                => inner.references
  | has path | missing path    => [⟨path, none⟩]
  | compare path op value      => [⟨path, some (.compare op value)⟩]
  | member path values         => [⟨path, some (.member values)⟩]

/-- The tags that several filters mention, from left to right. -/
def referencesOfAll : List Expr → List Reference
  | []        => []
  | e :: rest => e.references ++ referencesOfAll rest

end

end Expr

end EntityFilter
