import EntityFilter.Query.Kind

/-!
# Predicates on entities

What a filter asks of the rows of the database, before it is written as SQL.  Every mention of a
tag has a number, its alias, which keeps the rows of different mentions apart.
-/

namespace EntityFilter

/-- Where the ancestors of a tag are found. -/
inductive KindSource
  /-- In the hierarchy of tags, walked upward from the tag. -/
  | hierarchy
  /-- In a view that lists the ancestors of each tag. -/
  | parentsView
deriving DecidableEq, Repr

namespace KindSource

/-- The name of the source in settings. -/
def name : KindSource → String
  | hierarchy => "hierarchy" | parentsView => "parents_view"

/-- The source with a name. -/
def ofName? (name : String) : Option KindSource :=
  [hierarchy, parentsView].find? fun source => source.name == name

end KindSource

/-- The walk from a tag upward through the hierarchy. -/
structure Closure where
  mention : Nat
  tag : String
deriving DecidableEq, Repr

/-- One row with the names of the ancestors of a tag, between commas. -/
structure Lookup where
  mention : Nat
  tag : String
  source : KindSource
deriving DecidableEq, Repr

/-- A value as it stands in SQL. -/
inductive SqlValue
  /-- A numeral, kept as written so that no digit is lost. -/
  | number (text : String)
  | integer (value : Int)
  | bool (value : Bool)
  | text (text : String)
deriving DecidableEq, Repr

/-- The value that a literal has in SQL. -/
def Literal.toSql : Literal → SqlValue
  | .number text                             => .number text
  | .ref id                                  => .integer id
  | .bool value                              => .bool value
  | .str text | .uri text | .dateTime text   => .text text
  | .date d                                  => .text d.text
  | .time t                                  => .text t.text

/-- What is asked of a column. -/
inductive Test
  | compare (op : Comparison) (value : SqlValue)
  | member (values : List SqlValue)
deriving DecidableEq, Repr

/-- What a condition asks of a column. -/
def Condition.test : Condition → Test
  | .compare op value => .compare op value.toSql
  | .member values    => .member (values.map Literal.toSql)

/-- A test of the column that the kind of a tag tells.  The kinds are tried in order, and the first
of which the tag has a marker among its ancestors decides. -/
structure Dispatch where
  mention : Nat
  kinds : List ValueKind
  test : Test
deriving DecidableEq, Repr

/-- The test of a condition, for the mention with this alias. -/
def Condition.dispatch (c : Condition) (mention : Nat) : Dispatch :=
  ⟨mention, c.kinds, c.test⟩

/-- A selection of entities by a tag. -/
inductive RowSource
  /-- The entities that have the tag. -/
  | tagged (mention : Nat) (tag : String)
  /-- The entities whose value of the tag passes a test. -/
  | valued (tag : String) (lookup : Lookup) (dispatch : Dispatch)
  /-- The entities whose tag refers to one of `inner`. -/
  | linked (mention : Nat) (tag : String) (inner : RowSource)
deriving DecidableEq, Repr

/-- How many tags are looked at, one after the other. -/
def RowSource.depth : RowSource → Nat
  | tagged _ _ | valued _ _ _ => 1
  | linked _ _ inner          => 1 + inner.depth

/-- What a filter asks of an entity. -/
inductive Predicate
  | or (operands : List Predicate)
  | and (operands : List Predicate)
  | paren (inner : Predicate)
  | not (inner : Predicate)
  /-- The entity is selected. -/
  | entityIn (source : RowSource)
  /-- A row of the entity for the tag passes a test, where the ancestors come from the lookup with
  the same alias. -/
  | rowPasses (mention : Nat) (tag : String) (dispatch : Dispatch)
deriving Repr

namespace Predicate

mutual

/-- The selections in a predicate, from left to right. -/
def sources : Predicate → List RowSource
  | or operands | and operands => sourcesOfAll operands
  | paren inner | not inner    => inner.sources
  | entityIn source            => [source]
  | rowPasses _ _ _            => []

/-- The selections in several predicates, from left to right. -/
def sourcesOfAll : List Predicate → List RowSource
  | []        => []
  | p :: rest => p.sources ++ sourcesOfAll rest

end

end Predicate

end EntityFilter
