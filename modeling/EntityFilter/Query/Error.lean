import EntityFilter.Filter.SyntaxError

/-!
# Errors of queries

Why no statement can be made.  Errors of the filter's text are the client's; all others lie in how
the compiler is set up.
-/

namespace EntityFilter

/-- What is wrong with the options of a query. -/
inductive OptionsFault
  /-- No path could be compiled. -/
  | zeroDepth
  | noColumns
  /-- The column is selected anyway. -/
  | reservedColumn (name : String)
  | repeatedColumn (name : String)
  | noTagColumn
  /-- The intervals of a time series are empty. -/
  | zeroWidth
  /-- A fault that a caller words. -/
  | other (text : String)
deriving DecidableEq, Repr

/-- The wording. -/
def OptionsFault.message : OptionsFault → String
  | zeroDepth => "max_path_depth must be at least 1"
  | noColumns => "value column list is empty"
  | reservedColumn name =>
    "'" ++ name ++ "' is always projected and cannot be listed as a value column"
  | repeatedColumn name => "value column '" ++ name ++ "' listed twice"
  | noTagColumn => "value columns must include 'tag_id'"
  | zeroWidth => "bucket width must be at least one second"
  | other text => text

/-- Why there is no statement. -/
inductive QueryError
  /-- The text is no filter. -/
  | malformed (error : SyntaxError)
  /-- A path of the filter has more names than allowed. -/
  | pathTooDeep (depth max : Nat)
  /-- A name cannot stand in SQL without quotes. -/
  | invalidIdentifier (name : String)
  | invalidOptions (fault : OptionsFault)
deriving DecidableEq, Repr

namespace QueryError

/-- The wording. -/
def message : QueryError → String
  | malformed e => e.message
  | pathTooDeep depth max =>
    "Reference path has " ++ Text.natural depth ++ " segments, maximum is " ++ Text.natural max
  | invalidIdentifier name => "Invalid identifier: '" ++ name ++ "'"
  | invalidOptions fault => "Invalid compile options: " ++ fault.message

/-- The filter's text is at fault. -/
def isClientError : QueryError → Bool
  | malformed _ | pathTooDeep _ _ => true
  | _                             => false

end QueryError

end EntityFilter
