import EntityFilter.Query.Statement
import EntityFilter.Service.Entities
import EntityFilter.Service.Request
import EntityFilter.Service.Session

/-!
# Operations

How requests are answered by the database.  Every operation starts in the same way (`matching`):
the request is checked and its filter compiled, then the database is asked whether the user may
see the organisation at all, and only then the filter's statement is sent.
-/

namespace EntityFilter

/-- What is needed to answer requests. -/
structure Service where
  compiler : QueryCompiler
  /-- The schema in which the tables lie, which is an identifier. -/
  schema : String
  isIdentifier : Sql.isIdentifier schema = true

namespace Service

/-- What compiles and counts the filter of a request. -/
def compile (s : Service) (userId : Int) (r : FilterRequest) : Session CompiledQuery := do
  let query : Query :=
    { filter := r.filter, orgId := r.orgId, userId, tags := r.tags.getD [], schema := s.schema }
  match query.compile s.compiler with
  | .error e => do
    Session.observe (.compilation (some e))
    throw (.query e)
  | .ok compiled => do
    Session.observe (.compilation none)
    Session.observe (.aliases s.compiler.options.kindSource compiled.aliases)
    pure compiled

/-- The user belongs to the organisation. -/
def orgVisible (s : Service) (userId orgId : Int) : Session Bool :=
  Session.ask .orgVisibility
    s!"SELECT EXISTS (SELECT 1 FROM {s.schema}.org_user WHERE user_id = $1 AND org_id = $2)"
    [.int userId, .int orgId] fun t => do (← (← t.rows.head?).head?).asBool?

/-- The text in front of and behind the first occurrence of `mark`. -/
def splitAt? (mark : List Char) : List Char → Option (List Char × List Char)
  | [] => if mark.isEmpty then some ([], []) else none
  | c :: rest =>
    if mark.isPrefixOf (c :: rest) then some ([], (c :: rest).drop mark.length)
    else (splitAt? mark rest).map fun (front, back) => (c :: front, back)

/-- The column that a message of the database says does not exist. -/
def unknownColumn? (message : String) : Option String := do
  let (_, rest) ← splitAt? "column ".toList message.toList
  let (name, _) ← splitAt? " does not exist".toList rest
  let name := (Text.trimEnd (Text.trimStart name)).dropWhile (· == '"')
  let name := (name.reverse.dropWhile (· == '"')).reverse
  if name.isEmpty then none else some (String.ofList name)

/-- The failure of a filter's statement.  A column that does not exist is named. -/
def filterFailure (fault : DatabaseFault) : Failure :=
  match fault with
  | .reported e =>
    match unknownColumn? e.message with
    | some name => .unknownColumn name
    | none      => .database fault
  | _ => .database fault

/-- The entities that a compiled filter selects. -/
def entities (compiled : CompiledQuery) : Session (List Entity) := do
  match ← Session.attempt .filter compiled.sql [] some with
  | .error fault => throw (filterFailure fault)
  | .ok t =>
    let rows ← Session.expect t.toJson?
    pure (Entity.ofRows compiled.selection compiled.columns rows)

/-- The entities that match the filter of a request. -/
def matching (s : Service) (userId : Int) (r : FilterRequest) : Session (List Entity) := do
  r.check
  let compiled ← s.compile userId r
  if ← s.orgVisible userId r.orgId then entities compiled
  else throw (.accessDenied userId r.orgId)

/-- The numbers of the entities that match the filter of a request, whatever tags it asks for. -/
def matchingIds (s : Service) (userId : Int) (r : FilterRequest) : Session (List Int) := do
  return (← s.matching userId { r with tags := none }).filterMap Entity.number?

/-- Answers a request for entities. -/
def filter (s : Service) (userId : Int) (r : FilterRequest) : Session (List Entity) := do
  let found ← s.matching userId r
  Session.observe (.results .filter found.length)
  pure found

/-- The table of an organisation's time series. -/
def valueTable (s : Service) (orgId : Int) : Session (Option String) :=
  Session.ask .valueTable s!"SELECT value_table FROM {s.schema}.org WHERE id = $1" [.int orgId]
    fun t => match t.rows with
      | []       => some none
      | row :: _ => do (← row.head?).asText?

/-- Answers a request for time series. -/
def values (s : Service) (userId : Int) (r : ValuesRequest) : Session (List Json) := do
  r.check
  let (first, last) ← r.range
  let bucketing ← r.bucketing
  let ids ← s.matchingIds userId r.filter
  if ids.isEmpty then return []
  let some valueTable ← s.valueTable r.filter.orgId
    | throw (.internal s!"organization {Text.integer r.filter.orgId} has no value table")
  let query : SeriesQuery := { schema := s.schema, valueTable, labelTags := r.labelTags, bucketing }
  let sql ← query.sql.mapError Failure.query
  let t ← Session.ask .values sql [.ints ids, .instant first, .instant last] some
  let rows ← Session.expect t.objects?
  Session.observe (.results .values rows.length)
  pure rows

/-- The current value of a tag, as a JSON value. -/
def variableValue? (t : Table) (row : List Cell) : Option Json := do
  let entity ← (← t.cell? row "entity_id").asInt64?
  let tag ← (← t.cell? row "tag_id").asInt64?
  let value ← (← t.cell? row "value").asText?
  return .obj [("entity_id", .int entity), ("tag_id", .int tag),
    ("value", (value.map Json.str).getD .null)]

/-- Answers a request for the current values of a tag. -/
def variableValues (s : Service) (userId : Int) (r : VariableValuesRequest) :
    Session (List Json) := do
  r.check
  let ids ← s.matchingIds userId r.filter
  if ids.isEmpty then return []
  let sql ← (CurrentValues.sql s.schema).mapError Failure.query
  let rows ← Session.ask .variableValues sql [.text (Text.trim r.tag), .ints ids] fun t =>
    t.rows.mapM (variableValue? t)
  Session.observe (.results .variableValues rows.length)
  pure rows

end Service

end EntityFilter
