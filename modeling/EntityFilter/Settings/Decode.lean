import EntityFilter.Json.Value
import EntityFilter.Settings.Basic
import EntityFilter.Text.Numeral

/-!
# Settings as values

Settings are a table of sections, and a section is a table of values by name.  What is left out
keeps its default, and names that are not known are passed over.  How single values are
understood differs between sources of settings; an `Understanding` says it for one of them, and
`Settings.decode?` holds for all.

`Understanding.exact` is that of JSON values, which must have the right type.
-/

namespace EntityFilter

/-- How values of type `α` are understood as settings. -/
structure Understanding (α : Type) where
  text? : α → Option String
  /-- A text that may be left out on purpose. -/
  optionalText? : α → Option (Option String)
  flag? : α → Option Bool
  /-- A natural number that is not above a bound. -/
  natural? : (bound : Nat) → α → Option Nat
  number? : α → Option Double
  texts? : α → Option (List String)
  kindSource? : α → Option KindSource
  /-- The values in a table of which these are the names, in order. -/
  table? : List String → α → Option (List (String × α))

namespace Understanding

variable {α : Type} (u : Understanding α)

/-- The value with a name, or a default if there is none. -/
def get? (table : List (String × α)) (name : String) (read? : α → Option β) (default : β) :
    Option β :=
  match table.lookup name with
  | some value => read? value
  | none       => some default

/-- The settings of the server. -/
def server? (value : α) : Option ServerSettings := do
  let t ← u.table? ["host", "port", "cors_origins", "max_request_body_size"] value
  let d : ServerSettings := {}
  return {
    host := ← get? t "host" u.text? d.host
    port := ← get? t "port" (u.natural? (Text.maxUnsigned 16)) d.port
    corsOrigins := ← get? t "cors_origins" u.texts? d.corsOrigins
    maxRequestBodySize :=
      ← get? t "max_request_body_size" (u.natural? (Text.maxUnsigned 64)) d.maxRequestBodySize }

/-- The settings of the database. -/
def database? (value : α) : Option DatabaseSettings := do
  let t ← u.table?
    ["url", "schema", "pool_min_size", "pool_max_size", "pool_timeout_seconds",
     "statement_timeout_seconds", "test_database_url"] value
  let d : DatabaseSettings := {}
  return {
    url := ← get? t "url" u.text? d.url
    schema := ← get? t "schema" u.text? d.schema
    poolMinSize := ← get? t "pool_min_size" (u.natural? (Text.maxUnsigned 32)) d.poolMinSize
    poolMaxSize := ← get? t "pool_max_size" (u.natural? (Text.maxUnsigned 32)) d.poolMaxSize
    poolTimeoutSeconds :=
      ← get? t "pool_timeout_seconds" (u.natural? (Text.maxUnsigned 64)) d.poolTimeoutSeconds
    statementTimeoutSeconds :=
      ← get? t "statement_timeout_seconds" (u.natural? (Text.maxUnsigned 64))
        d.statementTimeoutSeconds
    testDatabaseUrl := ← get? t "test_database_url" u.optionalText? d.testDatabaseUrl }

/-- The settings of logging. -/
def logging? (value : α) : Option LoggingSettings := do
  let t ← u.table?
    ["level", "json", "file_enabled", "file_directory", "file_prefix", "file_rotation",
     "opentelemetry_enabled", "otlp_endpoint", "otlp_timeout_seconds", "trace_sample_ratio",
     "service_name", "service_version", "deployment_environment"] value
  let d : LoggingSettings := {}
  return {
    level := ← get? t "level" u.text? d.level
    json := ← get? t "json" u.flag? d.json
    fileEnabled := ← get? t "file_enabled" u.flag? d.fileEnabled
    fileDirectory := ← get? t "file_directory" u.text? d.fileDirectory
    fileStem := ← get? t "file_prefix" u.text? d.fileStem
    fileRotation := ← get? t "file_rotation" u.text? d.fileRotation
    opentelemetryEnabled := ← get? t "opentelemetry_enabled" u.flag? d.opentelemetryEnabled
    otlpEndpoint := ← get? t "otlp_endpoint" u.text? d.otlpEndpoint
    otlpTimeoutSeconds :=
      ← get? t "otlp_timeout_seconds" (u.natural? (Text.maxUnsigned 64)) d.otlpTimeoutSeconds
    traceSampleRatio := ← get? t "trace_sample_ratio" u.number? d.traceSampleRatio
    serviceName := ← get? t "service_name" u.text? d.serviceName
    serviceVersion := ← get? t "service_version" u.optionalText? d.serviceVersion
    deploymentEnvironment := ← get? t "deployment_environment" u.text? d.deploymentEnvironment }

/-- The settings of filters. -/
def filter? (value : α) : Option FilterSettings := do
  let t ← u.table? ["max_path_depth", "kind_source", "value_columns"] value
  let d : FilterSettings := {}
  return {
    maxPathDepth := ← get? t "max_path_depth" (u.natural? (Text.maxUnsigned 64)) d.maxPathDepth
    kindSource := ← get? t "kind_source" u.kindSource? d.kindSource
    valueColumns := ← get? t "value_columns" u.texts? d.valueColumns }

/-- The settings for users. -/
def auth? (value : α) : Option AuthSettings := do
  let t ← u.table? ["user_header"] value
  return { userHeader := ← get? t "user_header" u.text? ({} : AuthSettings).userHeader }

/-- The settings that a value describes. -/
def settings? (value : α) : Option Settings := do
  let t ← u.table? ["server", "database", "logging", "filter", "auth"] value
  return {
    server := ← get? t "server" u.server? {}
    database := ← get? t "database" u.database? {}
    logging := ← get? t "logging" u.logging? {}
    filter := ← get? t "filter" u.filter? {}
    auth := ← get? t "auth" u.auth? {} }

/-! ### JSON values -/

/-- The text of a JSON value. -/
def jsonText? : Json → Option String
  | .str text => some text
  | _         => none

/-- JSON values of the right type.  A table may also be an array of its values in order, and a
source of kinds the only name in an object. -/
def exact : Understanding Json where
  text? := jsonText?
  optionalText?
    | .null  => some none
    | value  => (jsonText? value).map some
  flag?
    | .bool b => some b
    | _       => none
  natural? bound
    | .int (.ofNat n) => if n ≤ bound then some n else none
    | _               => none
  number?
    | .int n   => some (.ofInt n)
    | .float a => some (.finite a)
    | _        => none
  texts?
    | .arr items => items.mapM jsonText?
    | _          => none
  kindSource?
    | .str name            => KindSource.ofName? name
    | .obj [(name, .null)] => KindSource.ofName? name
    | _                    => none
  table? names
    | .obj members => some members
    | .arr items   => if items.length ≤ names.length then some (names.zip items) else none
    | _            => none

end Understanding

/-- The settings that a JSON value describes. -/
def Settings.ofJson? (value : Json) : Option Settings :=
  Understanding.exact.settings? value

/-! ### Settings as a JSON value -/

/-- The JSON value of settings.  Texts that are not set are left out. -/
def Settings.toJson (s : Settings) : Json :=
  .obj
    [("server", .obj
      [("host", .str s.server.host), ("port", nat s.server.port),
       ("cors_origins", texts s.server.corsOrigins),
       ("max_request_body_size", nat s.server.maxRequestBodySize)]),
     ("database", .obj
      ([("url", .str s.database.url), ("schema", .str s.database.schema),
        ("pool_min_size", nat s.database.poolMinSize),
        ("pool_max_size", nat s.database.poolMaxSize),
        ("pool_timeout_seconds", nat s.database.poolTimeoutSeconds),
        ("statement_timeout_seconds", nat s.database.statementTimeoutSeconds)] ++
       optional "test_database_url" s.database.testDatabaseUrl)),
     ("logging", .obj
      ([("level", .str s.logging.level), ("json", .bool s.logging.json),
        ("file_enabled", .bool s.logging.fileEnabled),
        ("file_directory", .str s.logging.fileDirectory),
        ("file_prefix", .str s.logging.fileStem),
        ("file_rotation", .str s.logging.fileRotation),
        ("opentelemetry_enabled", .bool s.logging.opentelemetryEnabled),
        ("otlp_endpoint", .str s.logging.otlpEndpoint),
        ("otlp_timeout_seconds", nat s.logging.otlpTimeoutSeconds),
        ("trace_sample_ratio", .ofDouble s.logging.traceSampleRatio),
        ("service_name", .str s.logging.serviceName)] ++
       optional "service_version" s.logging.serviceVersion ++
       [("deployment_environment", .str s.logging.deploymentEnvironment)])),
     ("filter", .obj
      [("max_path_depth", nat s.filter.maxPathDepth),
       ("kind_source", .str s.filter.kindSource.name),
       ("value_columns", texts s.filter.valueColumns)]),
     ("auth", .obj [("user_header", .str s.auth.userHeader)])]
where
  nat (n : Nat) : Json := .int n
  texts (items : List String) : Json := .arr (items.map .str)
  optional (name : String) : Option String → List (String × Json)
    | some text => [(name, .str text)]
    | none      => []

end EntityFilter
