import EntityFilter.Calendar.TimeOfDay
import EntityFilter.Launch.Directive
import EntityFilter.Launch.Exporter
import EntityFilter.Service.Http
import EntityFilter.Settings.Address
import EntityFilter.Settings.Check
import EntityFilter.Settings.EnvFile
import EntityFilter.Settings.Layers

/-!
# Runs of the server

A run loads and checks the settings, sets up logging, connects to the database, and serves until a
signal comes.  Every step can end it.  `Launch.run` is the whole run: what it logs and where, and
how it ends.
-/

namespace EntityFilter.Launch

/-- What ends a run that serves. -/
inductive Signal
  | terminate | interrupt
deriving DecidableEq, Repr

/-- The name of a signal. -/
def Signal.name : Signal → String
  | terminate => "SIGTERM"
  | interrupt => "SIGINT"

/-- What happens when a connection to the database is made. -/
inductive Access
  | accepted
  | refused (error : DatabaseError)
  /-- There is no database. -/
  | unreachable
deriving DecidableEq, Repr

/-- What a run finds. -/
structure Surroundings where
  environment : List (String × String) := []
  /-- The file of variables in the directory. -/
  variableFile : Option String := none
  /-- The file of settings in the directory. -/
  settingsFile : Option Json := none
  /-- Files at whose places no directory can be made. -/
  plainFiles : List String := []
  access : Access := .accepted
  signal : Signal := .terminate
  /-- When the run starts. -/
  date : Date
  time : TimeOfDay

/-- A log file. -/
structure LogFile where
  directory : String
  name : String
  lines : List String
deriving DecidableEq, Repr

/-- How a run went. -/
structure Outcome where
  code : Nat
  /-- The run came to serve. -/
  served : Bool := false
  /-- The lines about errors. -/
  errors : List String := []
  /-- The lines of the log. -/
  log : List String := []
  file : Option LogFile := none
  /-- A connection to the database was tried. -/
  connects : Bool := false
  /-- The options that are sent when a connection is made. -/
  connectOptions : Option String := none
deriving DecidableEq, Repr

/-! ### Files -/

/-- The names along a path; none of them is empty or stands for the place itself. -/
def pathNames (path : String) : List String :=
  (path.splitOn "/").filter fun name => !name.isEmpty && name != "."

/-- Two paths are the same. -/
def samePath (a b : String) : Bool :=
  a.startsWith "/" == b.startsWith "/" && pathNames a == pathNames b

/-- `path` is `directory`, or lies above it. -/
def isAtOrAbove (path directory : String) : Bool :=
  path.startsWith "/" == directory.startsWith "/" &&
  (pathNames path).isPrefixOf (pathNames directory)

/-- The path can only lead to a directory. -/
def isDirectoryPath (path : String) : Bool :=
  match (path.splitOn "/").getLast? with
  | some last => last.isEmpty || last = "."
  | none      => false

/-- The path leads to the file of settings, the extension of which may be left out. -/
def isSettingsPath (path : String) : Bool :=
  samePath "config" path || (samePath "config.json" path && !isDirectoryPath path)

/-- Where the settings of a run come from. -/
def sources (s : Surroundings) : SettingsSources where
  environment := match s.variableFile with
    | some text => EnvFile.read s.environment text
    | none      => s.environment
  file? path := if isSettingsPath path then s.settingsFile else none

/-! ### Logging -/

/-- The name of the log file that is begun at a time. -/
def fileName (s : LoggingSettings) (date : Date) (time : TimeOfDay) : String :=
  let parts := match s.fileRotation with
    | "hourly"   => [date.text, Text.padded 2 time.hour]
    | "minutely" => [date.text, Text.padded 2 time.hour, Text.padded 2 time.minute]
    | _          => [date.text]
  if s.fileRotation = "never" then s.fileStem ++ ".log"
  else if s.fileStem.isEmpty then "-".intercalate parts
  else s.fileStem ++ "." ++ "-".intercalate parts

/-- The directives that hold unless others are set. -/
def standardDirectives (level : String) : String :=
  s!"tagql={level},tagql_filter={level},tower_http=debug,sqlx=warn"

/-- The directives of a run, and complaints about those that are not understood.  If any of those
that are given is not, none of them counts. -/
def directives (s : LoggingSettings) (given : Option String) :
    List LogDirective × List String :=
  match given.map LogDirective.readAll with
  | some (.ok found) => (found, [])
  | _ =>
    let words := LogDirective.words (standardDirectives s.level)
    (words.filterMap fun word => (LogDirective.read word).toOption,
     words.filterMap fun word =>
       match LogDirective.read word with
       | .ok _        => none
       | .error fault => some ("ignoring `" ++ word ++ "`: " ++ fault.message))

/-- The target of the program's own events. -/
def ownTarget : String := "tagql_server"

/-- The events up to the check of the address. -/
def firstEvents (environment : List (String × String)) (s : LoggingSettings) : List LogEvent :=
  exporterEvents environment s ++
  [{ target := loggingTarget, message := "Logging initialized"
     fields := [("otel_enabled", .flag s.opentelemetryEnabled),
       ("service_name", .plain s.serviceName), ("environment", .plain s.deploymentEnvironment),
       ("json", .flag s.json), ("file", .flag s.fileEnabled)] },
   { target := ownTarget, message := "Starting tagql server"
     fields := [("version", .quoted "0.1.0"), ("environment", .quoted s.deploymentEnvironment)] }]

/-- The name of a source of kinds in the log. -/
def kindSourceName : KindSource → String
  | .hierarchy   => "Hierarchy"
  | .parentsView => "ParentsView"

/-- The event that shows the settings. -/
def settingsEvent (s : Settings) (address : String) : LogEvent :=
  { target := ownTarget, message := "Configuration loaded"
    fields := [("schema", .quoted s.database.schema),
      ("kind_source", .plain (kindSourceName s.filter.kindSource)),
      ("max_path_depth", .count s.filter.maxPathDepth), ("listen_addr", .plain address)] }

/-- The events of a run that serves. -/
def servingEvents (s : Settings) (address : String) (signal : Signal) : List LogEvent :=
  [{ target := "tagql::db", message := "Database pool connected"
     fields := [("max_connections", .count s.database.poolMaxSize),
       ("schema", .plain s.database.schema)] }] ++
  ((s.server.corsOrigins.filter fun origin => !Text.isHeaderValue origin).map fun origin =>
    { level := .warn, target := "tagql::api::middleware::layers"
      message := "Ignoring invalid CORS origin", fields := [("origin", .plain origin)] }) ++
  [{ target := ownTarget, message := "Listening on http://" ++ address },
   { target := ownTarget, message := "Health check: http://" ++ address ++ "/health" },
   { target := ownTarget, message := signal.name ++ " received, starting graceful shutdown..." },
   { target := ownTarget, message := "Server shutdown complete" }]

/-- The event that ends a run. -/
def lastEvent : LogEvent :=
  { target := loggingTarget, message := "Shutting down telemetry" }

/-! ### Runs -/

/-- The end of a run after some events. -/
structure Ending where
  events : List LogEvent
  error : Option String
  connects : Bool

/-- A run from the start of logging to its end. -/
def afterLogging (s : Surroundings) (environment : List (String × String)) (settings : Settings) :
    Ending :=
  let first := firstEvents environment settings.logging
  match settings.server.listenAddress with
  | .error _ => ⟨first ++ [lastEvent], some "Failed to determine socket address", false⟩
  | .ok address =>
    let known := first ++ [settingsEvent settings address]
    let failed := some "Failed to initialize application state"
    if settings.database.poolTimeoutSeconds = 0 then ⟨known ++ [lastEvent], failed, false⟩
    else match s.access with
      | .unreachable => ⟨known ++ [lastEvent], failed, false⟩
      | .refused _   => ⟨known ++ [lastEvent], failed, true⟩
      | .accepted    =>
        ⟨known ++ servingEvents settings address s.signal ++ [lastEvent, lastEvent], none, true⟩

/-- The end of a run before logging starts. -/
def failed (message : String) : Outcome :=
  { code := 1, errors := ["Error: " ++ message] }

/-- The largest number of bytes in a name along a path. -/
def maxNameBytes : Nat := 255

/-- The directory for log files can be made. -/
def canMakeDirectory (s : Surroundings) (directory : String) : Bool :=
  !directory.toList.contains '\x00' &&
  (pathNames directory).all (fun name => name.utf8ByteSize ≤ maxNameBytes) &&
  !s.plainFiles.any fun file => isAtOrAbove file directory

/-- A run with settings that can be used. -/
def runWith (s : Surroundings) (environment : List (String × String)) (settings : Settings) :
    Outcome :=
  let logging := settings.logging
  if logging.fileEnabled && !canMakeDirectory s logging.fileDirectory then
    failed "Failed to initialize logging/telemetry"
  else
    let (found, complaints) := directives logging (environment.lookup "RUST_LOG")
    let ending := afterLogging s environment settings
    let events := ending.events.filter (LogDirective.allows found)
    let written (format : LogFormat) :=
      events.flatMap fun e => e.lines (if logging.json then .json else format)
    { code := if ending.error.isSome then 1 else 0
      served := ending.error.isNone
      errors := complaints ++ (ending.error.map ("Error: " ++ ·)).toList
      log := written .coloured
      file := if logging.fileEnabled then
          some ⟨logging.fileDirectory, fileName logging s.date s.time, written .text⟩
        else none
      connects := ending.connects
      connectOptions := settings.database.connectOptions? }

/-- A run of the server. -/
def run (s : Surroundings) : Outcome :=
  match Settings.load? (sources s) with
  | none => failed "Failed to load configuration"
  | some settings =>
    match settings.check with
    | .error fault => failed ("Invalid configuration: " ++ fault.message)
    | .ok ()       => runWith s (sources s).environment settings

end EntityFilter.Launch
