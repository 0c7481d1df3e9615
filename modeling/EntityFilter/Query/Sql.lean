import EntityFilter.Query.Predicate

/-!
# SQL texts

A text in SQL is put together from pieces: fixed text, string literals and quoted identifiers.
Only `Piece.text` writes quotes, so that whatever a user supplies stands between quotes and has
its own quotes doubled.

The renderers take the schema in which the tables lie.  A mention of a tag with alias `n` reads the
rows `etn` of entities and the definition `tdn` of the tag, and finds the ancestors of the tag in
`hqn`.
-/

namespace EntityFilter

namespace Sql

/-- `text` between quotes, where each quote in it is doubled. -/
def quoted (quote : Char) (text : String) : String :=
  String.ofList
    (quote :: text.toList.flatMap (fun c => if c == quote then [c, c] else [c]) ++ [quote])

/-- A string literal. -/
def quoteLiteral (text : String) : String :=
  quoted '\'' text

/-- A quoted identifier. -/
def quoteIdentifier (text : String) : String :=
  quoted '"' text

/-- `text` may stand as an identifier without quotes: a letter or an underscore, then letters,
digits and underscores, 63 characters at most. -/
def isIdentifier (text : String) : Bool :=
  match text.toList with
  | [] => false
  | c :: rest =>
    (c.isAlpha || c == '_') && rest.all (fun c => c.isAlphanum || c == '_') && rest.length < 63

/-- A piece of a text. -/
inductive Piece
  /-- Text that stands as it is. -/
  | code (text : String)
  /-- A string literal. -/
  | literal (text : String)
  /-- A quoted identifier. -/
  | identifier (text : String)
deriving DecidableEq, Repr

/-- The text of a piece. -/
def Piece.text : Piece → String
  | code text       => text
  | literal text    => quoteLiteral text
  | identifier text => quoteIdentifier text

/-- The text of pieces in a row. -/
def text : List Piece → String
  | []        => ""
  | p :: rest => p.text ++ text rest

/-- Pieces with others between each two of them. -/
def between (separator : List Piece) : List (List Piece) → List Piece
  | []           => []
  | [item]       => item
  | item :: rest => item ++ separator ++ between separator rest

/-- A table of the schema. -/
def table (schema name : String) : List Piece :=
  [.code s!"{schema}.{name}"]

end Sql

open Sql (Piece)
open Sql.Piece (code literal identifier)

/-- The common table expression that walks from a tag upward. -/
def Closure.sql (schema : String) (c : Closure) : List Piece :=
  let n := Text.natural c.mention
  [code s!"hier_query{n} AS (SELECT th.child_id, th.parent_id FROM "] ++
  Sql.table schema "tag_hierarchy" ++ [code " th, "] ++ Sql.table schema "tag_def" ++
  [code s!" td{n} WHERE th.child_id = td{n}.id AND td{n}.name = ", literal c.tag,
   code " UNION ALL SELECT th2.child_id, th2.parent_id FROM "] ++
  Sql.table schema "tag_hierarchy" ++
  [code s!" th2 INNER JOIN hier_query{n} c ON c.parent_id = th2.child_id)"]

/-- The common table expressions in front of a statement; nothing if there are none. -/
def Closure.sqlAll (schema : String) : List Closure → List Piece
  | []    => []
  | found =>
    [code "WITH RECURSIVE "] ++ Sql.between [code ", "] (found.map (Closure.sql schema)) ++
    [code "\n"]

/-- The row source with the ancestors of a tag. -/
def Lookup.sql (schema : String) (l : Lookup) : List Piece :=
  let n := Text.natural l.mention
  match l.source with
  | .hierarchy =>
    [code "(SELECT ", literal ",", code s!" || string_agg(td{n}.name, ", literal ",",
     code ") || ", literal ",", code s!" AS parent_id FROM hier_query{n}, "] ++
    Sql.table schema "tag_def" ++
    [code s!" td{n} WHERE td{n}.id = hier_query{n}.parent_id) hq{n}"]
  | .parentsView =>
    [code s!"(SELECT max(tdp{n}.parent_ids) AS parent_id FROM "] ++
    Sql.table schema "tag_def_parents" ++ [code s!" tdp{n}, "] ++ Sql.table schema "tag_def" ++
    [code s!" td{n} WHERE tdp{n}.tag_id = td{n}.id AND td{n}.name = ", literal l.tag,
     code s!") hq{n}"]

/-- A value. -/
def SqlValue.sql : SqlValue → List Piece
  | .number t  => [code t]
  | .integer n => [code (Text.integer n)]
  | .bool b    => [code (if b then "true" else "false")]
  | .text t    => [literal t]

/-- What follows the column that is tested. -/
def Test.sql : Test → List Piece
  | .compare op value => [code (op.sql ++ " ")] ++ value.sql
  | .member values    =>
    [code "IN ("] ++ Sql.between [code ", "] (values.map SqlValue.sql) ++ [code ")"]

/-- One kind of a dispatch: its markers, and the test of its column. -/
def Dispatch.branch (d : Dispatch) (kind : ValueKind) : List Piece :=
  let n := Text.natural d.mention
  [code " WHEN "] ++
  Sql.between [code " OR "]
    (kind.markers.map fun marker =>
      [code s!"hq{n}.parent_id LIKE ", literal s!"%,{marker},%"]) ++
  [code s!" THEN et{n}.{kind.column} "] ++ d.test.sql

/-- A test of the column that the kind of a tag tells. -/
def Dispatch.sql (d : Dispatch) : List Piece :=
  [code "CASE"] ++ d.kinds.flatMap d.branch ++ [code " END"]

/-- The rows of entities that have a tag. -/
def Sql.tagRows (schema : String) (mention : Nat) (tag : String) : List Piece :=
  let n := Text.natural mention
  [code "SELECT entity_id FROM "] ++ Sql.table schema "entity_tag" ++ [code s!" et{n}, "] ++
  Sql.table schema "tag_def" ++
  [code s!" td{n} WHERE et{n}.tag_id = td{n}.id AND td{n}.name = ", literal tag]

/-- A selection of entities. -/
def RowSource.sql (schema : String) : RowSource → List Piece
  | .tagged mention tag => Sql.tagRows schema mention tag
  | .valued tag lookup dispatch =>
    let n := Text.natural lookup.mention
    [code s!"SELECT et{n}.entity_id FROM "] ++ Sql.table schema "entity_tag" ++
    [code s!" et{n}, "] ++ lookup.sql schema ++ [code ", "] ++ Sql.table schema "tag_def" ++
    [code s!" td{n} WHERE et{n}.tag_id = td{n}.id AND td{n}.name = ", literal tag,
     code " AND "] ++
    dispatch.sql ++ [code s!" GROUP BY et{n}.entity_id"]
  | .linked mention tag inner =>
    Sql.tagRows schema mention tag ++
    [code s!" AND et{Text.natural mention}.value_ref IN ("] ++ inner.sql schema ++ [code ")"]

namespace Predicate

/-- The predicate is a conjunction, which is put in parentheses between alternatives. -/
def isAnd : Predicate → Bool
  | .and _ => true
  | _      => false

/-- Pieces in parentheses, if they are to be grouped. -/
def grouped (group : Bool) (pieces : List Piece) : List Piece :=
  if group then [code "("] ++ pieces ++ [code ")"] else pieces

mutual

/-- What is asked of the entity `e`. -/
def sql (schema : String) : Predicate → List Piece
  | .or operands    => sqlAny schema operands
  | .and operands   => sqlAll schema operands
  | .paren inner    => [code "("] ++ inner.sql schema ++ [code ")"]
  | .not inner      => [code "NOT "] ++ inner.sql schema
  | .entityIn source => [code "e.id IN ("] ++ source.sql schema ++ [code ")"]
  | .rowPasses mention tag dispatch =>
    let n := Text.natural mention
    [code "EXISTS (SELECT 1 FROM "] ++ Sql.table schema "entity_tag" ++ [code s!" et{n}, "] ++
    Sql.table schema "tag_def" ++
    [code s!" td{n} WHERE et{n}.entity_id = e.id AND et{n}.tag_id = td{n}.id AND td{n}.name = ",
     literal tag, code " AND "] ++
    dispatch.sql ++ [code ")"]

/-- Alternatives. -/
def sqlAny (schema : String) : List Predicate → List Piece
  | []        => []
  | [p]       => grouped p.isAnd (p.sql schema)
  | p :: rest => grouped p.isAnd (p.sql schema) ++ [code " OR "] ++ sqlAny schema rest

/-- A conjunction. -/
def sqlAll (schema : String) : List Predicate → List Piece
  | []        => []
  | [p]       => p.sql schema
  | p :: rest => p.sql schema ++ [code " AND "] ++ sqlAll schema rest

end

end Predicate

end EntityFilter
