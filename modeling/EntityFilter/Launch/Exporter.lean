import EntityFilter.Launch.Log
import EntityFilter.Settings.Basic
import EntityFilter.Text.Uri

/-!
# The exporter of traces

Traces are sent to an endpoint, if that is wanted.  The endpoint is the one that is set, or else
one that variables of the environment name; another variable may ask for compression, for which
there are no means.  `exporterFault?` says why nothing can be sent, and only the log tells of it.
-/

namespace EntityFilter.Launch

/-- Why traces cannot be sent. -/
inductive ExporterFault
  | endpoint (fault : UriFault)
  /-- A way of compression that is known but cannot be used. -/
  | unusable (compression : String)
  | unknown (compression : String)
deriving DecidableEq, Repr

/-- The wording. -/
def ExporterFault.message : ExporterFault → String
  | endpoint fault => "invalid URI " ++ fault.message
  | unusable name  =>
    s!"feature '{name}-tonic' is required to use the compression algorithm '{name}'"
  | unknown name   => s!"unsupported compression algorithm '{name}'"

/-- The value of the first of some variables that is set. -/
def firstSet? (environment : List (String × String)) (names : List String) : Option String :=
  names.findSome? fun name => environment.lookup name

/-- Where traces are sent. -/
def endpoint (environment : List (String × String)) (s : LoggingSettings) : String :=
  if s.otlpEndpoint.isEmpty then
    (firstSet? environment
      ["OTEL_EXPORTER_OTLP_TRACES_ENDPOINT", "OTEL_EXPORTER_OTLP_ENDPOINT"]).getD
        ({} : LoggingSettings).otlpEndpoint
  else s.otlpEndpoint

/-- Why traces cannot be sent, if they should be. -/
def exporterFault? (environment : List (String × String)) (s : LoggingSettings) :
    Option ExporterFault :=
  if !s.opentelemetryEnabled then none
  else match firstSet? environment
      ["OTEL_EXPORTER_OTLP_TRACES_COMPRESSION", "OTEL_EXPORTER_OTLP_COMPRESSION"] with
    | some name => some (if ["gzip", "zstd"].contains name then .unusable name else .unknown name)
    | none =>
      match Uri.read (endpoint environment s) with
      | .ok _        => none
      | .error fault => some (.endpoint fault)

/-- The target of events about logging. -/
def loggingTarget : String := "tagql::logging"

/-- The event that says that traces cannot be sent. -/
def exporterEvents (environment : List (String × String)) (s : LoggingSettings) :
    List LogEvent :=
  (exporterFault? environment s).toList.map fun fault =>
    { level := .warn, target := loggingTarget
      message := "OpenTelemetry exporter unavailable, continuing with local logging only"
      fields := [("error", .plain
        ("Failed to create OTLP exporter: Exporter otlp encountered the following error(s): " ++
         fault.message))] }

end EntityFilter.Launch
