import EntityFilter.Filter.Parser
import EntityFilter.Query.Columns
import EntityFilter.Query.Compile

/-!
# The statement of a query

A statement has three levels.  The innermost one reads the tags of the entities that match the
filter (`Query.found`).  Around it, access is checked for the entity and for the library of each
tag (`Query.access`): an organisation's or a user's grant is needed, and no revocation for the
user may stand against it.  The outermost level names the result and groups it if no tags are
asked for (`Query.closing`).
-/

namespace EntityFilter

open Sql (Piece)
open Sql.Piece (code literal identifier)

/-- How filters are compiled, and what is selected. -/
structure QueryCompiler where
  options : CompileOptions
  columns : ValueColumns
  /-- The options are accepted. -/
  validated : options.validate = .ok ()

namespace QueryCompiler

/-- The compiler with these options and columns, if the options are accepted. -/
def of (options : CompileOptions) (columns : ValueColumns) : Except QueryError QueryCompiler :=
  match h : options.validate with
  | .ok ()   => .ok ⟨options, columns, h⟩
  | .error e => .error e

/-- The compiler with the options and columns that hold unless others are configured. -/
def standard : QueryCompiler :=
  ⟨{}, ValueColumns.standard, rfl⟩

end QueryCompiler

/-- A question for entities. -/
structure Query where
  /-- The text of the filter. -/
  filter : String
  orgId : Int := 1
  userId : Int := 1
  /-- The tags that are asked for. -/
  tags : List String := []
  /-- The schema in which the tables lie. -/
  schema : String := "public"
deriving DecidableEq, Repr

/-- A statement with what is known of its result. -/
structure CompiledQuery where
  pieces : List Piece
  selection : TagSelection
  /-- The columns of the result. -/
  columns : List String
  /-- How many mentions of tags the filter has. -/
  aliases : Nat
deriving DecidableEq, Repr

/-- The text of the statement. -/
def CompiledQuery.sql (q : CompiledQuery) : String :=
  Sql.text q.pieces

namespace Query

/-! ### Access -/

/-- A table of permissions. -/
structure Permission where
  table : String
  /-- The name of its rows. -/
  row : String
  /-- The column of what is permitted. -/
  key : String
  /-- The column of whom it is permitted to. -/
  owner : String
deriving DecidableEq, Repr

/-- There is a permission for `owner` on `subject`. -/
def Permission.sql (schema : String) (p : Permission) (owner : Int) (subject : String) :
    List Piece :=
  [code "EXISTS (SELECT 1 FROM "] ++ Sql.table schema p.table ++
  [code s!" {p.row} WHERE {p.row}.{p.owner} = {Text.integer owner}",
   code s!" AND {p.row}.{p.key} = {subject})"]

/-- The permissions that decide on the access to something. -/
structure AccessAxis where
  orgGrant : Permission
  userGrant : Permission
  userRevocation : Permission
deriving DecidableEq, Repr

/-- The permissions for entities. -/
def entityAxis : AccessAxis where
  orgGrant := ⟨"org_entity_permission", "oep", "entity_id", "org_id"⟩
  userGrant := ⟨"user_entity_add_permission", "ueap", "entity_id", "user_id"⟩
  userRevocation := ⟨"user_entity_rev_permission", "uerp", "entity_id", "user_id"⟩

/-- The permissions for libraries of tags. -/
def tagAxis : AccessAxis where
  orgGrant := ⟨"org_tag_permission", "otp", "tag_id", "org_id"⟩
  userGrant := ⟨"user_tag_add_permission", "utap", "tag_id", "user_id"⟩
  userRevocation := ⟨"user_tag_rev_permission", "utrp", "tag_id", "user_id"⟩

/-- `subject` is granted to the organisation or the user, and not revoked for the user. -/
def AccessAxis.sql (schema : String) (axis : AccessAxis) (orgId userId : Int) (subject : String) :
    List Piece :=
  [code "(("] ++ axis.orgGrant.sql schema orgId subject ++ [code " OR "] ++
  axis.userGrant.sql schema userId subject ++ [code ") AND NOT "] ++
  axis.userRevocation.sql schema userId subject ++ [code ")"]

/-- Both the entity and the library of the tag may be accessed. -/
def access (schema : String) (orgId userId : Int) : List Piece :=
  entityAxis.sql schema orgId userId "a.id" ++ [code "\nAND "] ++
  tagAxis.sql schema orgId userId "tm.value"

/-! ### The levels -/

/-- Columns of the row `row`, each after a comma. -/
def columnList (columns : List String) (row : String) : List Piece :=
  columns.map fun c => code s!", {row}.{c}"

/-- The tags that are read for each entity. -/
def tagRestriction : TagSelection → List Piece
  | .entityIds  => [code " ORDER BY et.entity_id, et.tag_id"]
  | .all        => []
  | .named tags =>
    [code " AND td.name IN ("] ++ Sql.between [code ", "] (tags.map fun t => [literal t]) ++
    [code ")"]

/-- The entities among which those that match the filter are sought. -/
def candidates (schema : String) (f : CompiledFilter) : List Piece :=
  [code s!"SELECT e.id FROM {schema}.", identifier "entity", code " e, "] ++
  Sql.table schema "entity_tag" ++ [code " et"] ++
  f.lookups.flatMap (fun l => [code ", "] ++ l.sql schema) ++
  [code " WHERE e.id = et.entity_id AND ("]

/-- Everything in front of the predicate of the filter. -/
def opening (schema : String) (columns : List String) (selection : TagSelection)
    (f : CompiledFilter) : List Piece :=
  let shown := if selection.includesTags then columns else []
  Closure.sqlAll schema f.closures ++
  ([code "SELECT root.id AS entity_id"] ++ columnList shown "root" ++ [code " FROM (\n"]) ++
  ([code "SELECT a.id"] ++ columnList shown "a" ++ [code " FROM (\n"]) ++
  ([code "SELECT "] ++
    (if selection.includesTags then [] else [code "DISTINCT ON (et.entity_id) "]) ++
    [code "et.entity_id AS id"] ++ columnList columns "et") ++
  ([code " FROM "] ++ Sql.table schema "entity_tag" ++ [code " et JOIN "] ++
    Sql.table schema "tag_def" ++ [code " td ON et.tag_id = td.id WHERE et.entity_id IN (\n"]) ++
  candidates schema f

/-- The tags of the entities that match the filter, and what is selected of them. -/
def found (schema : String) (columns : List String) (selection : TagSelection)
    (f : CompiledFilter) : List Piece :=
  opening schema columns selection f ++ f.predicate.sql schema ++ [code ")\n)"] ++
  tagRestriction selection

/-- The tables that tell the library of a tag. -/
def libraries (schema : String) : List Piece :=
  [code "\n) a, "] ++ Sql.table schema "tag_def" ++ [code " td, "] ++
  Sql.table schema "tag_meta" ++ [code " tm "]

/-- The condition that a row tells the library of the tag that is found. -/
def libraryOfTag : List Piece :=
  [code "td.name = ", literal "lib", code " AND td.id = tm.attribute AND tm.tag_id = a.tag_id"]

/-- Everything in front of the access conditions. -/
def rows (schema : String) (columns : List String) (selection : TagSelection)
    (f : CompiledFilter) : List Piece :=
  found schema columns selection f ++ libraries schema ++ [code "WHERE "] ++ libraryOfTag ++
  [code "\nAND "]

/-- Everything behind the access conditions. -/
def closing (selection : TagSelection) : List Piece :=
  [code "\n) root"] ++ (if selection.includesTags then [] else [code " GROUP BY root.id"])

/-- The columns of the result. -/
def resultColumns (columns : List String) (selection : TagSelection) : List String :=
  "entity_id" :: if selection.includesTags then columns else []

/-- The statement for a query. -/
def compile (compiler : QueryCompiler) (q : Query) : Except QueryError CompiledQuery := do
  if !Sql.isIdentifier q.schema then throw (.invalidIdentifier q.schema)
  let e ← (parse q.filter).mapError .malformed
  let f ← compileExpr compiler.options e
  let selection := TagSelection.ofRequested q.tags
  pure
    { pieces := rows q.schema compiler.columns.names selection f ++
        access q.schema q.orgId q.userId ++ closing selection
      selection
      columns := resultColumns compiler.columns.names selection
      aliases := f.aliases }

end Query

end EntityFilter
