import EntityFilter.Number.Shortest
import EntityFilter.Settings.Basic
import EntityFilter.Text.Header

/-!
# Settings that can be used

`Settings.check` finds the first fault in settings, in a fixed order.
-/

namespace EntityFilter

/-- Why settings cannot be used. -/
inductive SettingsFault
  | noUrl
  | schema (name : String)
  | emptyPool
  | poolSizes (least greatest : Nat)
  | sampleRatio (value : Double)
  | rotation (name : String)
  | userHeader (name : String)
  | filter (error : QueryError)
deriving DecidableEq, Repr

/-- The wording. -/
def SettingsFault.message : SettingsFault → String
  | noUrl => "database.url must not be empty"
  | schema name => "database.schema '" ++ name ++ "' is not a valid identifier"
  | emptyPool => "database.pool_max_size must be greater than 0"
  | poolSizes least greatest =>
    "database.pool_min_size (" ++ Text.natural least ++ ") exceeds database.pool_max_size (" ++
    Text.natural greatest ++ ")"
  | sampleRatio value =>
    "logging.trace_sample_ratio must be within 0.0..=1.0, got " ++ value.plain
  | rotation name =>
    "logging.file_rotation '" ++ name ++ "' is not one of daily, hourly, minutely, never"
  | userHeader name => "auth.user_header '" ++ name ++ "' is not a valid header name"
  | filter e => "filter: " ++ e.message

/-- The value lies between zero and one. -/
def Double.isRatio : Double → Bool
  | .finite a => a.isRatio
  | _         => false

/-- The ways in which log files follow each other. -/
def LoggingSettings.rotations : List String :=
  ["daily", "hourly", "minutely", "never"]

/-- The settings can be used. -/
def Settings.check (s : Settings) : Except SettingsFault Unit := do
  if (Text.trim s.database.url).isEmpty then throw .noUrl
  if !Sql.isIdentifier s.database.schema then throw (.schema s.database.schema)
  if s.database.poolMaxSize = 0 then throw .emptyPool
  if s.database.poolMaxSize < s.database.poolMinSize then
    throw (.poolSizes s.database.poolMinSize s.database.poolMaxSize)
  if !s.logging.traceSampleRatio.isRatio then throw (.sampleRatio s.logging.traceSampleRatio)
  if !LoggingSettings.rotations.contains s.logging.fileRotation then
    throw (.rotation s.logging.fileRotation)
  if !Text.isHeaderName s.auth.userHeader then throw (.userHeader s.auth.userHeader)
  match s.filter.compiler with
  | .ok _    => pure ()
  | .error e => throw (.filter e)

end EntityFilter
