import EntityFilter.Query.Error
import EntityFilter.Query.Sql
import EntityFilter.Text.Blank

/-!
# Statements for values

Two statements read values of entities that are known by their numbers: `SeriesQuery.sql` the time
series of the entities, raw or aggregated over intervals, and `CurrentValues.sql` the current value
of one tag.  Entities, bounds and the tag are parameters of the statement.
-/

namespace EntityFilter

open Sql (Piece)
open Sql.Piece (code literal identifier)

/-- How the values of an interval are put into one. -/
inductive Aggregation
  | avg | min | max | sum | count
deriving DecidableEq, Repr

namespace Aggregation

/-- The function in SQL. -/
def function : Aggregation → String
  | avg => "avg" | min => "min" | max => "max" | sum => "sum" | count => "count"

/-- The aggregation with a name, in any letter case and with blanks around it. -/
def ofName? (name : String) : Option Aggregation :=
  let word := String.ofList ((Text.trim name).toList.map Char.toLower)
  [avg, min, max, sum, count].find? fun a => a.function == word

end Aggregation

/-- Values are aggregated over intervals. -/
structure Bucketing where
  aggregation : Aggregation
  /-- The width of an interval. -/
  seconds : Nat
deriving DecidableEq, Repr

/-- The largest number of rows that is read. -/
def valuesRowLimit : Nat := 1000

/-- A question for time series. -/
structure SeriesQuery where
  schema : String
  /-- The table of the series. -/
  valueTable : String
  /-- The tags whose values make the name of an entity. -/
  labelTags : List String
  bucketing : Option Bucketing
deriving DecidableEq, Repr

namespace SeriesQuery

/-- The tags that make the name of an entity, which is never without one. -/
def labels (q : SeriesQuery) : List String :=
  if q.labelTags.isEmpty then ["dis"] else q.labelTags

/-- The labels with the numbers of their aliases. -/
def numberedLabels (q : SeriesQuery) : List (String × String) :=
  q.labels.zipIdx.map fun label => (Text.natural (10 + label.2), label.1)

/-- The columns in front of the name. -/
def leading : Option Bucketing → List Piece
  | some b =>
    [code "time_bucket_gapfill(INTERVAL ", literal s!"{Text.natural b.seconds} seconds",
     code ", v.ts, $2, $3) AS time, v.entity_id, v.status, et2.value_s AS kind, "]
  | none => [code "v.*, et2.value_s AS kind, "]

/-- The aggregated value. -/
def aggregate : Option Bucketing → List Piece
  | some b =>
    [code ", locf(CASE WHEN et2.value_s = ", literal "Number",
     code s!" THEN {b.aggregation.function}(v.value_n) END) AS value_n"]
  | none => []

/-- The pieces of the statement. -/
def pieces (q : SeriesQuery) : List Piece :=
  [code "SELECT "] ++ leading q.bucketing ++
  Sql.between [code " || ", literal "||", code " || "]
    (q.numberedLabels.map fun l => [code s!"et{l.1}.value_s"]) ++
  [code " AS entity_name"] ++ aggregate q.bucketing ++
  [code s!" FROM {q.schema}.", identifier q.valueTable, code " v"] ++
  q.numberedLabels.flatMap (fun l =>
    [code ", "] ++ Sql.table q.schema "tag_def" ++ [code s!" td{l.1}, "] ++
    Sql.table q.schema "entity_tag" ++ [code s!" et{l.1}"]) ++
  [code ", "] ++ Sql.table q.schema "tag_def" ++ [code " td2, "] ++
  Sql.table q.schema "entity_tag" ++ [code " et2 WHERE v.entity_id = ANY($1)"] ++
  q.numberedLabels.flatMap (fun l =>
    [code s!" AND td{l.1}.name = ", literal l.2,
     code s!" AND td{l.1}.id = et{l.1}.tag_id AND et{l.1}.entity_id = v.entity_id"]) ++
  [code " AND td2.name = ", literal "kind",
   code " AND td2.id = et2.tag_id AND et2.entity_id = v.entity_id AND v.ts > $2 AND v.ts < $3"] ++
  (if q.bucketing.isSome then [code " GROUP BY v.entity_id, v.status, kind, entity_name, time"]
   else []) ++
  [code s!" LIMIT {Text.natural valuesRowLimit}"]

/-- The statement for a time series. -/
def sql (q : SeriesQuery) : Except QueryError String :=
  if !Sql.isIdentifier q.schema then .error (.invalidIdentifier q.schema)
  else if q.valueTable.isEmpty then .error (.invalidIdentifier "")
  else if q.bucketing.any (fun b => b.seconds == 0) then .error (.invalidOptions .zeroWidth)
  else .ok (Sql.text q.pieces)

end SeriesQuery

namespace CurrentValues

/-- The kinds of tags, by the nearest ancestor, with the columns of their values. -/
def columns : List (List String × String) :=
  [(["str"], "value_s"), (["number"], "value_n"), (["bool"], "value_b"),
   (["date", "dateTime", "time"], "value_ts"), (["dict"], "value_dict"), (["enum"], "value_enum"),
   (["list"], "value_list"), (["ref"], "value_ref")]

/-- The pieces of the statement. -/
def pieces (schema : String) : List Piece :=
  [code ("SELECT ids.entity_id, tv.tag_id, tv.value " ++
     "FROM unnest($2::bigint[]) WITH ORDINALITY AS ids(entity_id, ord) " ++
     "CROSS JOIN LATERAL (SELECT et.tag_id::bigint AS tag_id, CASE")] ++
  columns.flatMap (fun c =>
    [code " WHEN "] ++
    Sql.between [code " OR "]
      (c.1.map fun marker => [code "p.parent_ids LIKE ", literal s!",{marker},%"]) ++
    [code s!" THEN et.{c.2}::text"]) ++
  [code " END AS value FROM "] ++ Sql.table schema "tag_def" ++ [code " tg LEFT JOIN "] ++
  Sql.table schema "entity_tag" ++ [code " et ON et.tag_id = tg.id LEFT JOIN "] ++
  Sql.table schema "tag_def_parents" ++
  [code (" p ON p.tag_id = tg.id WHERE tg.name = $1 AND et.entity_id = ids.entity_id " ++
     s!"LIMIT {Text.natural valuesRowLimit}) tv ORDER BY ids.ord")]

/-- The statement for the current values of a tag. -/
def sql (schema : String) : Except QueryError String :=
  if !Sql.isIdentifier schema then .error (.invalidIdentifier schema)
  else .ok (Sql.text (pieces schema))

end CurrentValues

end EntityFilter
