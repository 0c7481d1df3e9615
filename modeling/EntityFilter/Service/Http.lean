import EntityFilter.Number.Reading
import EntityFilter.Service.Operations
import EntityFilter.Settings.Basic
import EntityFilter.Text.Header
import EntityFilter.Text.MediaType
import EntityFilter.Text.Uri

/-!
# Requests and responses

A request comes to a route by its path, and is answered there if its method is the route's own.
The three operations need to know the user, then the body, and then answer in a session with the
database.  `App.respond` is the whole way from a request to its response.
-/

namespace EntityFilter

/-- A request. -/
structure HttpRequest where
  method : String := "POST"
  /-- What is asked for; only its path matters. -/
  target : Uri
  headers : List (String × String) := []
  body : String := ""
deriving DecidableEq, Repr

/-- The first header with a name. -/
def HttpRequest.header? (r : HttpRequest) (name : String) : Option String :=
  (r.headers.find? fun h => Text.sameHeader h.1 name).map Prod.snd

/-- The first header with a name, if it is plain text. -/
def HttpRequest.plainHeader? (r : HttpRequest) (name : String) : Option String :=
  (r.header? name).filter Text.isPlainValue

/-- The body of a response. -/
inductive Content
  | empty
  | json (value : Json)
  /-- All counters, as text. -/
  | counters

/-- A response. -/
structure HttpResponse where
  status : Nat
  headers : List (String × String)
  content : Content

/-! ### Routes -/

/-- Where requests are answered. -/
inductive Route
  | health | metrics | filter | values | variableValues
deriving DecidableEq, Repr

namespace Route

/-- All routes. -/
def all : List Route :=
  [health, metrics, filter, values, variableValues]

/-- The path of a route. -/
def path : Route → String
  | health         => "/health"
  | metrics        => "/metrics"
  | filter         => "/filter"
  | values         => "/values"
  | variableValues => "/variable/values"

/-- The route with a path. -/
def ofPath? (path : String) : Option Route :=
  all.find? fun r => r.path == path

/-- The route reads, and does not take a body. -/
def reads : Route → Bool
  | health | metrics => true
  | _                => false

/-- The methods of a route. -/
def methods (r : Route) : List String :=
  if r.reads then ["GET", "HEAD"] else ["POST"]

/-- The header that names the methods of a route. -/
def allowHeader (r : Route) : String × String :=
  ("allow", ",".intercalate r.methods)

/-- The label of a request's route. -/
def label : Option Route → String
  | some r => r.path
  | none   => "unmatched"

end Route

/-- The route that a request comes to. -/
def HttpRequest.route? (r : HttpRequest) : Option Route :=
  Route.ofPath? r.target.path

/-! ### What is taken from a request -/

/-- A service and the settings it runs with. -/
structure App where
  settings : Settings
  service : Service

/-- The service for some settings. -/
def App.of (settings : Settings) : Except Failure App :=
  match settings.filter.compiler with
  | .error e => .error (.internal ("invalid filter configuration: " ++ e.message))
  | .ok compiler =>
    if h : Sql.isIdentifier settings.database.schema = true then
      .ok ⟨settings, ⟨compiler, settings.database.schema, h⟩⟩
    else
      .error (.invalid
        ("database schema '" ++ settings.database.schema ++ "' is not a valid identifier"))

/-- The service for some settings, with a first connection to its database. -/
def App.connect (settings : Settings) : Database → Except Failure App
  | .refuses e => .error (.database (.ofRefusal e))
  | .replies _ => App.of settings

/-- The number of the user, from the header that has it. -/
def HttpRequest.userId (r : HttpRequest) (header : String) : Except Failure Int :=
  match r.header? header with
  | none => .error (.unauthorized ("Missing '" ++ header ++ "' header"))
  | some value =>
    if Text.isPlainValue value then
      let value := Text.trim value
      match Text.int64? value.toList with
      | some n => .ok n
      | none   => .error (.unauthorized ("Invalid user id '" ++ value ++ "'"))
    else .error (.unauthorized ("Invalid user id '" ++ value ++ "'"))

/-- The wording of a fault in a body. -/
def BodyFault.message : BodyFault → String
  | malformed => "Failed to parse the request body as JSON"
  | misshapen => "Failed to deserialize the JSON body into the target type"

/-- The body of a request: it has to be announced as JSON, not too long, and what is expected. -/
def HttpRequest.read (r : HttpRequest) (limit : Nat) (decode : Draft → Except BodyFault α) :
    Except Failure α :=
  if !(r.plainHeader? "content-type").any Text.isJsonMediaType then
    .error (.invalid "Expected request with `Content-Type: application/json`")
  else if limit < r.body.utf8ByteSize then
    .error (.invalid "Failed to buffer the request body: length limit exceeded")
  else (decode (Draft.ofText r.body)).mapError fun fault => .invalid fault.message

/-! ### Answers -/

namespace App

/-- Answers an operation: the user and the body are read, and handed on. -/
def operate (app : App) (r : HttpRequest) (decode : Draft → Except BodyFault α)
    (answer : Int → α → Session (List Json)) : Session Json := do
  let userId ← r.userId app.settings.auth.userHeader
  let request ← r.read app.settings.server.maxRequestBodySize decode
  return .arr (← answer userId request)

/-- Answers a request at a route. -/
def answer (app : App) (r : HttpRequest) : Route → Session Content
  | .health  => pure (.json (.obj [("status", .str "ok"), ("service", .str "tagql")]))
  | .metrics => pure .counters
  | .filter  => .json <$> app.operate r FilterRequest.read fun user request => do
      return (← app.service.filter user request).map Entity.toJson
  | .values  => .json <$> app.operate r ValuesRequest.read app.service.values
  | .variableValues =>
    .json <$> app.operate r VariableValuesRequest.read app.service.variableValues

/-- The response with a JSON value. -/
def jsonResponse (status : Nat) (value : Json) : HttpResponse :=
  ⟨status, [("content-type", "application/json")], .json value⟩

/-- The response to a session. -/
def response : Except Failure Content → HttpResponse
  | .ok (.json value) => jsonResponse 200 value
  | .ok .counters     => ⟨200, [("content-type", "text/plain; version=0.0.4")], .counters⟩
  | .ok .empty        => ⟨200, [], .empty⟩
  | .error f          => jsonResponse f.status f.body

/-- The response of the routes. -/
def routed (app : App) (r : HttpRequest) (x : Exchange) : HttpResponse × Exchange :=
  match r.route? with
  | none => (⟨404, [], .empty⟩, x)
  | some route =>
    if route.methods.contains r.method then
      let (result, x) := (app.answer r route).run.run x
      let found := response result
      (if r.method = "HEAD" then { found with content := .empty } else found, x)
    else (⟨405, [route.allowHeader], .empty⟩, x)

/-- The length that a request claims to have, as an event. -/
def sizeEvent (r : HttpRequest) : List Observation :=
  match (r.plainHeader? "content-length").bind fun value => Double.read? value.toList with
  | some bytes => [.requestSize r.method (Route.label (r.route?)) bytes]
  | none       => []

/-- The response of the routes, counted. -/
def counted (app : App) (r : HttpRequest) (x : Exchange) : HttpResponse × Exchange :=
  let route := Route.label (r.route?)
  let x := { x with observed := x.observed ++ .arrival r.method route :: sizeEvent r }
  let (found, x) := app.routed r x
  (found, { x with observed := x.observed ++ [.request r.method route found.status] })

/-- The headers that tell requests apart: the number `id` of the request, that of its trace, and
one that the client gave to its request. -/
def traceHeaders (r : HttpRequest) (id : String) : List (String × String) :=
  [("x-request-id", id), ("x-trace-id", String.ofList (List.replicate 32 '0'))] ++
    match r.plainHeader? "x-request-id" with
    | some given => if given = id then [] else [("x-correlation-id", given)]
    | none       => []

/-- The web pages that may send requests. -/
def origins (app : App) : List String :=
  app.settings.server.corsOrigins.filter Text.isHeaderValue

/-- The header that lets a web page read the response. -/
def originHeaders (app : App) (r : HttpRequest) : List (String × String) :=
  match r.header? "origin" with
  | some origin =>
    if app.origins.contains origin then [("access-control-allow-origin", origin)] else []
  | none => []

/-- The response to the question what a web page may do.  At a route it says the methods too. -/
def preflight (app : App) (r : HttpRequest) : HttpResponse :=
  let methods := if app.origins.isEmpty then [] else [("access-control-allow-methods", "*")]
  ⟨200, (r.route?.map Route.allowHeader).toList ++ methods ++ app.originHeaders r, .empty⟩

/-- The response to the request with the number `id`, and what happened on the way. -/
def respond (app : App) (r : HttpRequest) (id : String) (database : Database) :
    HttpResponse × Exchange :=
  if r.method = "OPTIONS" then (app.preflight r, { database })
  else
    let (found, x) := app.counted r { database }
    ({ found with headers := found.headers ++ traceHeaders r id ++ app.originHeaders r }, x)

end App

/-- The options that are sent when a connection is made. -/
def DatabaseSettings.connectOptions? (s : DatabaseSettings) : Option String :=
  if s.statementTimeoutSeconds = 0 then none
  else some ("-c statement_timeout=" ++ Text.natural s.statementTimeoutSeconds ++ "s")

/-- A statement was to be sent, so that a connection was made. -/
def Exchange.connects (x : Exchange) : Bool :=
  x.observed.any fun
    | .statement _ _ => true
    | _              => false

end EntityFilter
