import EntityFilter.Query.Error
import EntityFilter.Query.Predicate
import EntityFilter.Number.Binary

/-!
# What is counted

Requests, compilations, statements and results are counted.  An `Observation` is one event; what
it does to the counters is `Observation.changes`, by the names of the counters with their labels.
Durations are observed too, but only how many of them is known here.
-/

namespace EntityFilter

/-- The kinds of statements that are sent to the database. -/
inductive StatementKind
  | orgVisibility | filter | valueTable | values | variableValues
deriving DecidableEq, Repr

/-- The label of a kind of statement. -/
def StatementKind.label : StatementKind → String
  | orgVisibility  => "org_visibility"
  | filter         => "filter"
  | valueTable     => "value_table"
  | values         => "values"
  | variableValues => "variable_values"

/-- The operations that return results. -/
inductive Operation
  | filter | values | variableValues
deriving DecidableEq, Repr

/-- The label of an operation. -/
def Operation.label : Operation → String
  | filter         => "filter"
  | values         => "values"
  | variableValues => "variable_values"

/-- An event that is counted. -/
inductive Observation
  /-- A filter was compiled, or why not. -/
  | compilation (error : Option QueryError)
  /-- How many mentions of tags a compiled filter has. -/
  | aliases (source : KindSource) (count : Nat)
  /-- A statement was sent or should have been. -/
  | statement (kind : StatementKind) (failed : Bool)
  | results (operation : Operation) (count : Nat)
  /-- A request came in. -/
  | arrival (method route : String)
  /-- The length that a request claims to have. -/
  | requestSize (method route : String) (bytes : Double)
  /-- A request was answered. -/
  | request (method route : String) (status : Nat)
deriving DecidableEq, Repr

namespace Observation

/-- The outcome of a compilation. -/
def outcome : Option QueryError → String
  | none                   => "ok"
  | some (.malformed _)     => "syntax_error"
  | some (.pathTooDeep _ _) => "path_too_deep"
  | some _                  => "compile_error"

/-- A counter with its labels. -/
def counter (name : String) (labels : List (String × String)) : String :=
  name ++ "\x7b" ++ ",".intercalate (labels.map fun l => l.1 ++ "=" ++ l.2) ++ "\x7d"

/-- A number of bytes, cut to an integer of 64 bits, or the nearest of them. -/
def wholeBytes : Double → Int
  | .finite a          => Text.nearestInt64 a.truncate
  | .infinite negative => if negative then Text.int64Min else Text.int64Max
  | .nan               => 0

/-- The counters that change, and by how much. -/
def changes : Observation → List (String × Int)
  | compilation error =>
    [(counter "tagql_filter_compilations_total" [("outcome", outcome error)], 1)]
  | aliases source count =>
    let labels := [("kind_source", source.name)]
    [(counter "tagql_filter_aliases_count" labels, 1),
     (counter "tagql_filter_aliases_sum" labels, count)]
  | statement kind failed =>
    let labels := [("query_type", kind.label)]
    (counter "tagql_db_query_duration_seconds_count" labels, 1) ::
      if failed then [(counter "tagql_db_query_errors_total" labels, 1)] else []
  | results operation count =>
    let labels := [("endpoint", operation.label)]
    [(counter "tagql_filter_results_count" labels, 1),
     (counter "tagql_filter_results_sum" labels, count)]
  | arrival method route =>
    [(counter "tagql_http_requests_in_flight" [("method", method), ("route", route)], 1)]
  | requestSize method route bytes =>
    let labels := [("method", method), ("route", route)]
    [(counter "tagql_http_request_size_bytes_count" labels, 1),
     (counter "tagql_http_request_size_bytes_sum" labels, wholeBytes bytes)]
  | request method route status =>
    let labels := [("method", method), ("route", route)]
    [(counter "tagql_http_requests_total" (labels ++ [("status", Text.natural status)]), 1),
     (counter "tagql_http_request_duration_seconds_count" labels, 1),
     (counter "tagql_http_requests_in_flight" labels, -1)]

/-- The changes of some events together, less those that come to nothing. -/
def totals (events : List Observation) : List (String × Int) :=
  let changes := events.flatMap Observation.changes
  let names := (changes.map Prod.fst).eraseDups
  (names.map fun name =>
    (name, (changes.filter fun c => c.1 == name).foldl (fun total c => total + c.2) 0)).filter
      fun c => c.2 != 0

end Observation

end EntityFilter
