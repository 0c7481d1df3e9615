import EntityFilter.Json.Value
import EntityFilter.Query.Error

/-!
# Failures of requests

Why a request is not answered, with the status and the text that the client gets.  Failures that
are the fault of the service or of the database are all worded alike (`Failure.detail`), so that
nothing is told about the inside.
-/

namespace EntityFilter

/-- What the database reports. -/
structure DatabaseError where
  code : String
  message : String
deriving DecidableEq, Repr

/-- The database is about to start, or has no connection to spare, so that it pays to try again. -/
def DatabaseError.isTransient (e : DatabaseError) : Bool :=
  e.code == "53300" || e.code == "57P03"

/-- Why the database gave no answer. -/
inductive DatabaseFault
  /-- The database reported an error. -/
  | reported (error : DatabaseError)
  /-- No connection was to be had in time. -/
  | timedOut
  /-- The result is not what was expected. -/
  | unexpectedResult
deriving DecidableEq, Repr

/-- The wording. -/
def DatabaseFault.message : DatabaseFault → String
  | reported e       => "error returned from database: " ++ e.message
  | timedOut         => "pool timed out while waiting for an open connection"
  | unexpectedResult => "unexpected result of a statement"

/-- Why a client could not be connected to the database that refuses it with this error. -/
def DatabaseFault.ofRefusal (e : DatabaseError) : DatabaseFault :=
  if e.isTransient then .timedOut else .reported e

/-- Why a request is not answered. -/
inductive Failure
  | database (fault : DatabaseFault)
  | query (error : QueryError)
  | accessDenied (userId orgId : Int)
  | unknownColumn (name : String)
  /-- The request is not valid. -/
  | invalid (reason : String)
  /-- The user is not known. -/
  | unauthorized (reason : String)
  | internal (reason : String)
  /-- A failure that is worded elsewhere. -/
  | other (text : String)
deriving DecidableEq, Repr

namespace Failure

/-- The wording in full. -/
def message : Failure → String
  | database fault      => "Database error: " ++ fault.message
  | query e             => e.message
  | accessDenied _ _    => "the client is not authorized to access the op"
  | unknownColumn name  =>
    "Invalid column name '" ++ name ++ "'. Please correct the column name in the 'tags' list."
  | invalid reason      => "Validation error: " ++ reason
  | unauthorized reason => "Unauthorized: " ++ reason
  | internal reason     => "Internal server error: " ++ reason
  | other text          => text

/-- The status of the response. -/
def status : Failure → Nat
  | query e         => if e.isClientError then 400 else 500
  | invalid _       => 400
  | unauthorized _  => 401
  | accessDenied _ _ => 403
  | unknownColumn _ | database _ | internal _ | other _ => 500

/-- The name of the kind of failure. -/
def kind : Failure → String
  | query (.malformed _)     => "syntax_error"
  | query (.pathTooDeep _ _) => "path_too_deep"
  | query _                  => "compile_error"
  | invalid _                => "validation_error"
  | unauthorized _           => "unauthorized"
  | accessDenied _ _         => "access_denied"
  | unknownColumn _          => "unknown_column"
  | database _ | internal _ | other _ => "internal_error"

/-- The wording where nothing is to be told. -/
def unspecific : String :=
  "Internal server error"

/-- The wording for the client. -/
def detail : Failure → String
  | database _ | internal _ | other _ => unspecific
  | query e                           => if e.isClientError then e.message else unspecific
  | f                                 => f.message

/-- The body of the response. -/
def body (f : Failure) : Json :=
  .obj [("detail", .str f.detail), ("type", .str f.kind)]

end Failure

end EntityFilter
