import EntityFilter.Query.Error
import EntityFilter.Query.Sql

/-!
# What a query returns

A query returns the numbers of entities, and if tags are asked for, a row for every tag with the
value columns that are configured.
-/

namespace EntityFilter

/-- The tags that are asked for. -/
inductive TagSelection
  /-- None: only the entities. -/
  | entityIds
  | all
  | named (tags : List String)
deriving DecidableEq, Repr

namespace TagSelection

/-- A star among the tags asks for all of them. -/
def ofRequested : List String → TagSelection
  | []   => entityIds
  | tags => if tags.contains "*" then all else named tags

/-- Tags are asked for. -/
def includesTags : TagSelection → Bool
  | entityIds       => false
  | all | named _   => true

end TagSelection

namespace ValueColumns

/-- The first fault in a list of columns that follows the columns `earlier`. -/
def checkEach (earlier : List String) : List String → Except QueryError Unit
  | [] => .ok ()
  | name :: rest =>
    if !Sql.isIdentifier name then .error (.invalidIdentifier name)
    else if name == "id" || name == "entity_id" then
      .error (.invalidOptions (.reservedColumn name))
    else if earlier.contains name then .error (.invalidOptions (.repeatedColumn name))
    else checkEach (earlier ++ [name]) rest

/-- Columns are identifiers, each listed once, apart from those that are selected anyway; the
number of the tag is one of them. -/
def check (names : List String) : Except QueryError Unit :=
  if names.isEmpty then .error (.invalidOptions .noColumns)
  else match checkEach [] names with
    | .error e => .error e
    | .ok () => if names.contains "tag_id" then .ok () else .error (.invalidOptions .noTagColumn)

end ValueColumns

/-- The columns that are selected for a tag. -/
structure ValueColumns where
  names : List String
  /-- The columns are accepted. -/
  checked : ValueColumns.check names = .ok ()
deriving Repr

namespace ValueColumns

/-- The columns with these names, if they are accepted. -/
def ofNames (names : List String) : Except QueryError ValueColumns :=
  match h : check names with
  | .ok ()   => .ok ⟨names, h⟩
  | .error e => .error e

/-- The columns that are selected unless others are configured. -/
def standard : ValueColumns :=
  ⟨["tag_id", "value_n", "value_b", "value_s", "value_ts", "value_ref", "value_enum"], by rfl⟩

end ValueColumns

end EntityFilter
