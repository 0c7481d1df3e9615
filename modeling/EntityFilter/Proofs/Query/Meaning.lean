import Mathlib
import EntityFilter.Query.Compile

/-!
# What filters and predicates mean

A database has rows that give tags to entities, definitions that name the tags, and for every name
the names of its ancestors.  Two readings of a question for entities stand side by side here.

The first reading is that of SQL (`Predicate.eval`).  It knows three truth values; a row is selected
only if the condition on it is true.  The aliases of a predicate are names in a `Scope`: those of
rows, those of lookups, and those of the walks that the lookups read.

The second reading is direct (`Expr.Satisfies`): a path leads from an entity along its references to
others, and a comparison is one with the value in the column that the ancestors of the tag tell.
It knows neither aliases nor lookups, and only two truth values.
-/

namespace EntityFilter

/-! ### Stored tags -/

/-- What a database may do in its own way: how it reads and orders numbers, texts and instants. -/
structure Dialect where
  Number : Type
  Instant : Type
  numberOrder : LinearOrder Number
  textOrder : LinearOrder String
  instantOrder : LinearOrder Instant
  /-- The number that an integer is. -/
  ofInt : Int → Number
  /-- The number that a numeral denotes. -/
  numeral : String → Option Number
  /-- The instant that a text denotes. -/
  instant : String → Option Instant

/-- A row that gives a tag to an entity, with the tag's value.  Columns that may be empty are
options. -/
structure TagRow (D : Dialect) where
  entityId : Int
  tagId : Option Int
  valueN : Option D.Number
  valueRef : Option Int
  valueB : Option Bool
  valueS : Option String
  valueTs : Option D.Instant

/-- The definition of a tag. -/
structure TagDef where
  id : Int
  name : String
deriving DecidableEq, Repr

/-- The tables that a filter looks at. -/
structure TagStore (D : Dialect) where
  entityTags : List (TagRow D)
  tagDefs : List TagDef
  /-- The names of the ancestors of a tag. -/
  ancestors : String → List String
  noComma : ∀ tag, ∀ name ∈ ancestors tag, ',' ∉ name.toList

/-- `a` compares with `b`. -/
def Comparison.Holds {α : Type} [LinearOrder α] (op : Comparison) (a b : α) : Prop :=
  match op with
  | .eq => a = b
  | .ne => a ≠ b
  | .lt => a < b
  | .le => a ≤ b
  | .gt => b < a
  | .ge => b ≤ a

instance {α : Type} [LinearOrder α] (op : Comparison) (a b : α) : Decidable (op.Holds a b) :=
  match op with
  | .eq => inferInstanceAs (Decidable (a = b))
  | .ne => inferInstanceAs (Decidable (a ≠ b))
  | .lt => inferInstanceAs (Decidable (a < b))
  | .le => inferInstanceAs (Decidable (a ≤ b))
  | .gt => inferInstanceAs (Decidable (b < a))
  | .ge => inferInstanceAs (Decidable (b ≤ a))

/-! ### Truth in SQL -/

/-- A truth value of SQL. -/
inductive Truth
  | yes | no | unknown
deriving DecidableEq, Repr

namespace Truth

def ofProp (p : Prop) [Decidable p] : Truth :=
  if p then yes else no

def not : Truth → Truth
  | yes => no | no => yes | unknown => unknown

def and : Truth → Truth → Truth
  | no, _ | _, no => no
  | yes, yes      => yes
  | _, _          => unknown

def or : Truth → Truth → Truth
  | yes, _ | _, yes => yes
  | no, no          => no
  | _, _            => unknown

/-- All of them hold. -/
def all (ts : List Truth) : Truth :=
  ts.foldr and yes

/-- One of them holds. -/
def any (ts : List Truth) : Truth :=
  ts.foldr or no

/-- A value is among others. -/
def isIn (value : Option Int) (others : List Int) : Truth :=
  any (others.map fun other => match value with
    | some n => ofProp (n = other)
    | none   => unknown)

end Truth

/-- `text` is like `pattern`, where `%` stands for any characters and `_` for one. -/
def Sql.like : List Char → List Char → Bool
  | [], text => text.isEmpty
  | '\\' :: c :: pattern, text =>
    match text with
    | []        => false
    | d :: rest => d == c && like pattern rest
  | c :: pattern, text =>
    if c = '%' then text.tails.any (like pattern)
    else match text with
      | []        => false
      | d :: rest => (c == '_' || d == c) && like pattern rest

/-! ### Predicates on rows -/

/-- A value in a row. -/
inductive ColumnValue (D : Dialect)
  | null
  | number (value : D.Number)
  | integer (value : Int)
  | bool (value : Bool)
  | text (value : String)
  | instant (value : D.Instant)

variable {D : Dialect}

/-- The value in the column with this name. -/
def TagRow.cell (row : TagRow D) : String → ColumnValue D
  | "value_n"   => row.valueN.elim .null .number
  | "value_ref" => row.valueRef.elim .null .integer
  | "value_b"   => row.valueB.elim .null .bool
  | "value_s"   => row.valueS.elim .null .text
  | "value_ts"  => row.valueTs.elim .null .instant
  | _           => .null

namespace ColumnValue

/-- A comparison with a value that may not be readable. -/
def compareWith {α : Type} [LinearOrder α] (op : Comparison) (a : α) : Option α → Truth
  | some b => .ofProp (op.Holds a b)
  | none   => .unknown

/-- A comparison.  It is unknown for an empty column, and where the types do not fit. -/
def compare (op : Comparison) : ColumnValue D → SqlValue → Truth
  | number a, .number t   => @compareWith _ D.numberOrder op a (D.numeral t)
  | number a, .integer b  => @compareWith _ D.numberOrder op a (some (D.ofInt b))
  | integer a, .number t  => @compareWith _ D.numberOrder op (D.ofInt a) (D.numeral t)
  | integer a, .integer b => compareWith op a (some b)
  | bool a, .bool b       => compareWith op a (some b)
  | text a, .text b       => @compareWith _ D.textOrder op a (some b)
  | instant a, .text t    => @compareWith _ D.instantOrder op a (D.instant t)
  | _, _                  => .unknown

end ColumnValue

/-- What a test says of a value. -/
def Test.eval (cell : ColumnValue D) : Test → Truth
  | .compare op value => cell.compare op value
  | .member values    => .any (values.map (cell.compare .eq))

/-- What the aliases of a predicate stand for. -/
structure Scope (D : Dialect) where
  /-- The walks, which stand in front of the statement. -/
  closures : List Closure
  /-- The row that a mention of a tag is about. -/
  row : Nat → Option (TagRow D)
  /-- The ancestors that a lookup has found, between commas. -/
  parentId : Nat → Option String

namespace Scope

/-- The scope with a row. -/
def withRow (scope : Scope D) (mention : Nat) (row : TagRow D) : Scope D :=
  { scope with row := fun n => if n = mention then some row else scope.row n }

/-- The scope with the result of a lookup. -/
def withLookup (scope : Scope D) (mention : Nat) (found : Option String) : Scope D :=
  { scope with parentId := fun n => if n = mention then found else scope.parentId n }

end Scope

namespace TagStore

/-- The ancestors of a tag between commas; nothing if it has none. -/
def parentId (db : TagStore D) (tag : String) : Option String :=
  match db.ancestors tag with
  | []    => none
  | names => some ("," ++ ",".intercalate names ++ ",")

/-- The rows for the tags with this name. -/
def tagRows (db : TagStore D) (tag : String) : List (TagRow D) :=
  db.entityTags.flatMap fun row =>
    (db.tagDefs.filter fun d => row.tagId = some d.id ∧ d.name = tag).map fun _ => row

end TagStore

/-- The tag whose ancestors a lookup finds.  By walking, it is that of the walk with its alias. -/
def Lookup.subject (closures : List Closure) (l : Lookup) : Option String :=
  match l.source with
  | .parentsView => some l.tag
  | .hierarchy   =>
    match closures.filter fun c => c.mention = l.mention with
    | [c] => some c.tag
    | _   => none

/-- What a lookup finds. -/
def Lookup.eval (db : TagStore D) (closures : List Closure) (l : Lookup) : Option String :=
  (l.subject closures).bind db.parentId

/-- The ancestors are like one of the patterns of the kind. -/
def ValueKind.eval (parentId : Option String) (kind : ValueKind) : Truth :=
  .any (kind.markers.map fun marker => match parentId with
    | some names => .ofProp (Sql.like s!"%,{marker},%".toList names.toList)
    | none       => .unknown)

/-- The test of the column of the first kind that applies; unknown if none does. -/
def Dispatch.eval (scope : Scope D) (d : Dispatch) : Truth :=
  match d.kinds.find? fun kind => kind.eval (scope.parentId d.mention) = .yes, scope.row d.mention with
  | some kind, some row => d.test.eval (row.cell kind.column)
  | _, _                => .unknown

/-- The entities that are selected. -/
def RowSource.eval (db : TagStore D) (scope : Scope D) : RowSource → List Int
  | .tagged _ tag => (db.tagRows tag).map (·.entityId)
  | .valued tag lookup dispatch =>
    let passing := (db.tagRows tag).filter fun row =>
      dispatch.eval ((scope.withRow lookup.mention row).withLookup lookup.mention
        (lookup.eval db scope.closures)) = .yes
    (passing.map (·.entityId)).eraseDups
  | .linked mention tag inner =>
    let passing := (db.tagRows tag).filter fun row =>
      Truth.isIn row.valueRef (inner.eval db (scope.withRow mention row)) = .yes
    passing.map (·.entityId)

namespace Predicate

mutual

/-- What a predicate says of an entity. -/
def eval (db : TagStore D) (scope : Scope D) (x : Int) : Predicate → Truth
  | .or operands  => .any (evalAll db scope x operands)
  | .and operands => .all (evalAll db scope x operands)
  | .paren inner  => inner.eval db scope x
  | .not inner    => (inner.eval db scope x).not
  | .entityIn source => .isIn (some x) (source.eval db scope)
  | .rowPasses mention tag dispatch =>
    .ofProp (∃ row ∈ db.tagRows tag,
      (Truth.ofProp (row.entityId = x)).and (dispatch.eval (scope.withRow mention row)) = .yes)

def evalAll (db : TagStore D) (scope : Scope D) (x : Int) : List Predicate → List Truth
  | []        => []
  | p :: rest => p.eval db scope x :: evalAll db scope x rest

end

end Predicate

/-- The scope around the predicate of a compiled filter: an alias that not exactly one lookup has
stands for nothing. -/
def CompiledFilter.scope (db : TagStore D) (f : CompiledFilter) : Scope D where
  closures := f.closures
  row _ := none
  parentId n := match f.lookups.filter fun l => l.mention = n with
    | [l] => l.eval db f.closures
    | _   => none

/-- The compiled filter selects an entity. -/
def CompiledFilter.Selects (db : TagStore D) (f : CompiledFilter) (x : Int) : Prop :=
  f.predicate.eval db (f.scope db) x = .yes

/-! ### Filters, directly -/

/-- The row gives the tag to the entity. -/
def TagStore.Gives (db : TagStore D) (x : Int) (tag : String) (row : TagRow D) : Prop :=
  row ∈ db.entityTags ∧ row.entityId = x ∧ ∃ d ∈ db.tagDefs, row.tagId = some d.id ∧ d.name = tag

/-- References with these tags lead from one entity to another. -/
def TagStore.Leads (db : TagStore D) : List String → Int → Int → Prop
  | [], x, y          => x = y
  | tag :: rest, x, y => ∃ row z, db.Gives x tag row ∧ row.valueRef = some z ∧ db.Leads rest z y

/-- The value of a tag with these ancestors compares with a literal.  A number may be one of the
tag's value or of the entity that it refers to, in this order. -/
def Literal.Compares (names : List String) (row : TagRow D) (op : Comparison) : Literal → Prop
  | .number t  =>
      if "number" ∈ names then
        ∃ a v, row.valueN = some a ∧ D.numeral t = some v ∧ @op.Holds _ D.numberOrder a v
      else "ref" ∈ names ∧
        ∃ n v, row.valueRef = some n ∧ D.numeral t = some v ∧ @op.Holds _ D.numberOrder (D.ofInt n) v
  | .ref id    =>
      if "number" ∈ names then
        ∃ a, row.valueN = some a ∧ @op.Holds _ D.numberOrder a (D.ofInt id)
      else "ref" ∈ names ∧ ∃ n, row.valueRef = some n ∧ op.Holds n id
  | .bool b    => "bool" ∈ names ∧ ∃ a, row.valueB = some a ∧ op.Holds a b
  | .str t | .uri t => "str" ∈ names ∧ ∃ a, row.valueS = some a ∧ @op.Holds _ D.textOrder a t
  | .date d    => atInstant d.text
  | .time t    => atInstant t.text
  | .dateTime t => atInstant t
where
  atInstant (t : String) : Prop :=
    ("date" ∈ names ∨ "dateTime" ∈ names ∨ "time" ∈ names) ∧
      ∃ a v, row.valueTs = some a ∧ D.instant t = some v ∧ @op.Holds _ D.instantOrder a v

/-- The value of a tag with these ancestors is as the condition says. -/
def Condition.Holds (names : List String) (row : TagRow D) : Condition → Prop
  | .compare op value => value.Compares names row op
  | .member values    => ∃ value ∈ values, value.Compares names row .eq

/-- The path leads from the entity to one with the tag at the end of the path, whose value is as
asked. -/
def Reference.Satisfies (db : TagStore D) (x : Int) (r : Reference) : Prop :=
  ∃ links tag y row, r.path.segments = links ++ [tag] ∧ db.Leads links x y ∧ db.Gives y tag row ∧
    ∀ c ∈ r.condition, c.Holds (db.ancestors tag) row

namespace Expr

mutual

/-- The entity is as the filter says. -/
def Satisfies (db : TagStore D) (x : Int) : Expr → Prop
  | .or operands           => SatisfiesAny db x operands
  | .and operands          => SatisfiesAll db x operands
  | .paren inner           => inner.Satisfies db x
  | .has path              => (⟨path, none⟩ : Reference).Satisfies db x
  | .missing path          => ¬ (⟨path, none⟩ : Reference).Satisfies db x
  | .compare path op value => (⟨path, some (.compare op value)⟩ : Reference).Satisfies db x
  | .member path values    => (⟨path, some (.member values)⟩ : Reference).Satisfies db x

def SatisfiesAny (db : TagStore D) (x : Int) : List Expr → Prop
  | []        => False
  | e :: rest => e.Satisfies db x ∨ SatisfiesAny db x rest

def SatisfiesAll (db : TagStore D) (x : Int) : List Expr → Prop
  | []        => True
  | e :: rest => e.Satisfies db x ∧ SatisfiesAll db x rest

end

end Expr

end EntityFilter
