import EntityFilter.Service.Failure
import EntityFilter.Service.Observation
import EntityFilter.Service.Table

/-!
# Sessions

A request is answered in a `Session`: statements are sent to the database and answered by it, and
events are counted, until there is a result or a failure.  All that was sent and counted is kept,
also when the session fails.
-/

namespace EntityFilter

/-- A value that is bound to a statement. -/
inductive Parameter
  | int (value : Int)
  | text (text : String)
  | ints (values : List Int)
  | instant (value : Instant)
deriving DecidableEq, Repr

/-- How the database answers a statement. -/
inductive Reply
  | table (table : Table)
  | error (error : DatabaseError)
deriving DecidableEq, Repr

/-- A database, by what it does. -/
inductive Database
  /-- It answers statements in this order, and reports an error when there are more. -/
  | replies (replies : List Reply)
  /-- It lets nobody in. -/
  | refuses (error : DatabaseError)
deriving DecidableEq, Repr

/-- A statement that reached the database.  One that the database reports an error for was not
given its parameters. -/
structure SentStatement where
  sql : String
  parameters : Option (List Parameter)
deriving DecidableEq, Repr

/-- What happened in a session. -/
structure Exchange where
  database : Database
  /-- The statements, in the order they were sent. -/
  sent : List SentStatement := []
  /-- The events, in the order they happened. -/
  observed : List Observation := []
deriving DecidableEq, Repr

/-- What a database says that has no reply left. -/
def Database.noReply : DatabaseError :=
  ⟨"XX000", "no reply"⟩

/-- Sends a statement: the answer to it, and the exchange after it. -/
def Exchange.send (x : Exchange) (sql : String) (parameters : List Parameter) :
    Except DatabaseFault Table × Exchange :=
  match x.database with
  | .refuses e => (.error (.ofRefusal e), x)
  | .replies [] => (.error (.reported Database.noReply), { x with sent := x.sent ++ [⟨sql, none⟩] })
  | .replies (.error e :: rest) =>
    (.error (.reported e), { x with database := .replies rest, sent := x.sent ++ [⟨sql, none⟩] })
  | .replies (.table t :: rest) =>
    (.ok t, { x with database := .replies rest, sent := x.sent ++ [⟨sql, some parameters⟩] })

/-- The answering of a request. -/
abbrev Session := ExceptT Failure (StateM Exchange)

namespace Session

/-- Counts an event. -/
def observe (event : Observation) : Session Unit :=
  modify fun x => { x with observed := x.observed ++ [event] }

/-- What is read from the answer to a statement, or why there is nothing to read. -/
def attempt (kind : StatementKind) (sql : String) (parameters : List Parameter)
    (read? : Table → Option α) : Session (Except DatabaseFault α) := do
  let (answer, x) := (← get).send sql parameters
  set x
  let result := answer.bind fun t => (read? t).elim (.error .unexpectedResult) .ok
  observe (.statement kind (!result.isOk))
  pure result

/-- What is read from the answer to a statement. -/
def ask (kind : StatementKind) (sql : String) (parameters : List Parameter)
    (read? : Table → Option α) : Session α := do
  match ← attempt kind sql parameters read? with
  | .ok a        => pure a
  | .error fault => throw (.database fault)

/-- A value that is needed from a result. -/
def expect (value : Option α) : Session α :=
  match value with
  | some a => pure a
  | none   => throw (.database .unexpectedResult)

end Session

end EntityFilter
