import EntityFilter.Proofs.Service.Access
import EntityFilter.Settings.Check

/-!
# Settings that are checked

A service is made of settings (`App.of`), and what is wrong with settings would show as a failure to
compile that no client can mend.  The check of settings, the service and the request share the work:
the service carries a schema that is an identifier and a compiler with accepted options, so a filter
is refused only for its text (`Service.compile_cases`), and a request for time series brings no
empty intervals (`Admits.exists_series`).

**Checked settings never fail a compilation** (`Settings.check_excludes_faults`).  All that is left
is the table of time series, whose name comes from the database and may be empty.
-/

namespace EntityFilter

open Session (Refusal Refuses Runs readAnswer)

/-! ### Making a service -/

/-- Settings that are checked have a schema that is an identifier and describe a compiler. -/
theorem Settings.of_check {s : Settings} (h : s.check = .ok ()) :
    Sql.isIdentifier s.database.schema ∧ ∃ compiler, s.filter.compiler = .ok compiler := by
  simp only [Settings.check, throw, throwThe, MonadExceptOf.throw, bind, Except.bind,
    ite_error_eq_ok_iff] at h
  obtain ⟨-, hschema, -, -, -, -, -, hcompiler⟩ := h
  refine ⟨by simpa using hschema, ?_⟩
  cases hc : s.filter.compiler with
  | ok compiler => exact ⟨compiler, rfl⟩
  | error e =>
      rw [hc] at hcompiler
      cases hcompiler

theorem App.exists_of_check {settings : Settings} (h : settings.check = .ok ()) :
    ∃ app, App.of settings = .ok app ∧ app.settings = settings := by
  obtain ⟨hschema, compiler, hcompiler⟩ := Settings.of_check h
  refine ⟨⟨settings, ⟨compiler, settings.database.schema, hschema⟩⟩, ?_, rfl⟩
  rw [App.of, hcompiler]
  exact dif_pos hschema

namespace Service

/-- A filter is compiled, or refused for its text. -/
theorem compile_cases (s : Service) (userId : Int) (r : FilterRequest) (x : Exchange) :
    (∃ c, ((s.compile userId r).run.run x).1 = .ok c) ∨
    (∃ fault, ((s.compile userId r).run.run x).1 = .error (.query (.malformed fault))) ∨
    ∃ depth max, ((s.compile userId r).run.run x).1 = .error (.query (.pathTooDeep depth max)) := by
  obtain ⟨d, sent, observed⟩ := x
  cases hcompile : (s.query userId r).compile s.compiler with
  | ok c =>
      have hruns : Runs (s.compile userId r) d (.ok c) [] _ := runs_compile hcompile
      exact .inl ⟨c, by rw [hruns]⟩
  | error e =>
      have hruns : Runs (s.compile userId r) d (.error (.query e)) [] _ :=
        runs_compile_error hcompile
      have hclient := Query.isClientError_of_compile s.isIdentifier hcompile
      cases e with
      | malformed fault => exact .inr (.inl ⟨fault, by rw [hruns]⟩)
      | pathTooDeep depth max => exact .inr (.inr ⟨depth, max, by rw [hruns]⟩)
      | invalidIdentifier name | invalidOptions fault => cases hclient

theorem exists_currentValues_sql (s : Service) : ∃ sql, CurrentValues.sql s.schema = .ok sql :=
  ⟨_, if_neg (by simp [s.isIdentifier])⟩

/-- With intervals that are not empty, time series have a statement unless their table has no
name. -/
theorem sql_seriesQuery_eq_error_iff (s : Service) {labels : List String} {b : Option Bucketing}
    {table : String} {e : QueryError} (hb : ∀ bucketing ∈ b, bucketing.seconds ≠ 0) :
    (s.seriesQuery labels b table).sql = .error e ↔ table = "" ∧ e = .invalidIdentifier "" := by
  have hwidth : (b.any fun bucketing => bucketing.seconds == 0) = false := by
    cases b with
    | none => rfl
    | some bucketing => simpa using hb bucketing rfl
  by_cases htable : table = ""
  · simp [SeriesQuery.sql, seriesQuery, s.isIdentifier, htable, eq_comm (a := e)]
  · simp [SeriesQuery.sql, seriesQuery, s.isIdentifier, hwidth, htable]

/-! ### Failures of courses -/

variable {s : Service} {userId orgId : Int} {c : CompiledQuery} {d : Database} {f : FollowUp}
  {ss : List Statement} {os : List Observation}

theorem filterFailure_ne_query (fault : DatabaseFault) (e : QueryError) :
    filterFailure fault ≠ .query e := by
  unfold filterFailure
  split
  · split <;> simp
  · simp

theorem Matches.ne_query {e : Failure} (h : s.Matches userId orgId c d (.error e) ss os)
    (error : QueryError) : e ≠ .query error := by
  cases h with
  | failed _ _ => exact filterFailure_ne_query _ error
  | untold _ | denied _ | unreadable _ _ _ => simp

/-- What follows fails for its statement only if the name of a table leads to none. -/
theorem Follows.eq_query_iff {ids : List Int} {result : Except Failure (List Json)} {e : QueryError}
    (h : s.Follows orgId d ids f result ss os) : result = .error (.query e) ↔
      ∃ labels b first last name, f = .series labels b first last ∧
        readAnswer Table.tableName? (d.answerAt 0) = .ok (some name) ∧
        (s.seriesQuery labels b name).sql = .error e := by
  cases h with
  | untold h | unnamed h => simp [h]
  | unusable h hsql => simp [h, hsql]
  | seriesFailed h hsql _ | seriesUnreadable h hsql _ _ | series h hsql _ _ => simp [h, hsql]
  | currentFailed _ | current _ => simp

/-- An answer fails for a statement only behind entities with numbers. -/
theorem Answers.eq_query_iff {result : Except Failure (List Json)} {e : QueryError}
    (h : s.Answers userId orgId c d f result ss os) : result = .error (.query e) ↔
      d.Tells true ∧ (Plan.mk userId orgId c (some f)).ids d ≠ [] ∧
      ∃ labels b first last name, f = .series labels b first last ∧
        readAnswer Table.tableName? (d.answerAt 2) = .ok (some name) ∧
        (s.seriesQuery labels b name).sql = .error e := by
  cases h with
  | unmatched h =>
      have hnone : ¬ (d.Tells true ∧ (Plan.mk userId orgId c (some f)).ids d ≠ []) := by
        rintro ⟨htrue, hids⟩
        rcases h.of_error with ⟨hfalse, -⟩ | ⟨-, -, hnil⟩
        · exact hfalse htrue
        · exact hids (hnil _)
      refine iff_of_false (fun heq => h.ne_query e (Except.error.inj heq)) ?_
      rintro ⟨htrue, hids, -⟩
      exact hnone ⟨htrue, hids⟩
  | empty h hids =>
      obtain ⟨-, -, t, rows, hanswer, hrows, rfl⟩ := h.of_ok
      simp [Plan.ids, hanswer, hrows, hids]
  | followed h hids hfollows =>
      obtain ⟨htrue, rfl, t, rows, hanswer, hrows, rfl⟩ := h.of_ok
      rw [hfollows.eq_query_iff]
      simp [Plan.ids, hanswer, hrows, hids, htrue, Database.answerAt_after]

/-! ### Events of courses -/

theorem Matches.not_mem_compilation {found : Except Failure (List Entity)}
    (h : s.Matches userId orgId c d found ss os) (error : Option QueryError) :
    .compilation error ∉ os := by
  cases h <;> simp

theorem Follows.not_mem_compilation {ids : List Int} {result : Except Failure (List Json)}
    (h : s.Follows orgId d ids f result ss os) (error : Option QueryError) :
    .compilation error ∉ os := by
  cases h <;> simp

theorem Answers.not_mem_compilation {result : Except Failure (List Json)}
    (h : s.Answers userId orgId c d f result ss os) (error : Option QueryError) :
    .compilation error ∉ os := by
  cases h with
  | unmatched h | empty h _ => exact h.not_mem_compilation error
  | followed h _ hfollows =>
      rw [List.mem_append, not_or]
      exact ⟨h.not_mem_compilation error, hfollows.not_mem_compilation error⟩

theorem eq_none_of_mem_compilationEvents {error : Option QueryError}
    (h : .compilation error ∈ s.compilationEvents c) : error = none := by
  simpa [compilationEvents] using h

end Service

namespace Plan.Course

variable {p : Plan} {s : Service} {d : Database} {result : Except Failure Content}
  {ss : List Statement} {os : List Observation}

/-- The result of a course is an array, if there is one. -/
theorem exists_arr {content : Content} (h : p.Course s d (.ok content) ss os) :
    ∃ vs, content = .json (.arr vs) := by
  generalize hresult : Except.ok content = result at h
  cases h with
  | @entities _ _ _ found _ _ h =>
      cases found with
      | ok found => exact ⟨_, Except.ok.inj hresult⟩
      | error e => cases hresult
  | @followed _ _ _ _ result _ _ h =>
      cases result with
      | ok vs => exact ⟨vs, Except.ok.inj hresult⟩
      | error e => cases hresult

/-- A course fails for a statement only if time series are asked for. -/
theorem eq_query_iff {e : QueryError} (h : p.Course s d result ss os) :
    result = .error (.query e) ↔ d.Tells true ∧ p.ids d ≠ [] ∧
      ∃ labels b first last name, p.followUp = some (.series labels b first last) ∧
        readAnswer Table.tableName? (d.answerAt 2) = .ok (some name) ∧
        (s.seriesQuery labels b name).sql = .error e := by
  cases h with
  | @entities _ _ _ found _ _ h =>
      cases found with
      | ok found => simp [Except.map]
      | error fault => simpa [Except.map] using h.ne_query e
  | @followed _ _ _ f result _ _ h =>
      have hiff := h.eq_query_iff (e := e)
      simp only [Option.some.injEq]
      rw [← hiff]
      cases result <;> simp [Except.map]

/-- The only compilation of a course succeeds. -/
theorem eq_none_of_mem {error : Option QueryError} (h : p.Course s d result ss os)
    (hmem : .compilation error ∈ os) : error = none := by
  cases h with
  | @entities _ _ c found _ os h =>
      rcases List.mem_append.mp hmem with hmem | hmem
      · rcases List.mem_append.mp hmem with hmem | hmem
        · exact Service.eq_none_of_mem_compilationEvents hmem
        · exact absurd hmem (h.not_mem_compilation error)
      · cases found <;> simp [Service.resultEvents] at hmem
  | followed h =>
      rcases List.mem_append.mp hmem with hmem | hmem
      · exact Service.eq_none_of_mem_compilationEvents hmem
      · exact absurd hmem (h.not_mem_compilation error)

end Plan.Course

/-- A refused request counts a compilation only if the filter's text is at fault. -/
theorem Session.Refusal.isClientError_of_mem {e : Failure} {os : List Observation}
    {error : Option QueryError} (h : Refusal e os) (hmem : .compilation error ∈ os) :
    ∃ fault, error = some fault ∧ fault.isClientError := by
  cases h with
  | unauthorized reason | invalid reason => cases hmem
  | @query fault hclient =>
      obtain rfl : error = some fault := by simpa using hmem
      exact ⟨fault, rfl, hclient⟩

/-! ### Responses -/

/-- The response says that there was an error of this kind. -/
def HttpResponse.Reports (response : HttpResponse) (status : Nat) (kind : String) : Prop :=
  response.status = status ∧
    ∃ value, response.content = .json value ∧ value.get? "type" = some (.str kind)

theorem Failure.get?_body (f : Failure) : f.body.get? "type" = some (.str f.kind) :=
  rfl

theorem Failure.kind_eq_compile_error_iff {f : Failure} :
    f.kind = "compile_error" ↔ ∃ e : QueryError, f = .query e ∧ e.isClientError = false := by
  cases f with
  | query e => cases e <;> simp [kind, QueryError.isClientError]
  | _ => simp [kind]

namespace App

variable {app : App} {r : HttpRequest} {route : Route} {d : Database} {ss : List Statement}
  {os : List Observation}

/-- A session that fails reports a failure to compile just if it fails so. -/
theorem reports_error_iff {f : Failure} :
    (response (.error f)).Reports 500 "compile_error" ↔
      ∃ e : QueryError, f = .query e ∧ e.isClientError = false := by
  simp only [HttpResponse.Reports, response, jsonResponse, Content.json.injEq, exists_eq_left',
    Failure.get?_body, Option.some.injEq, Json.str.injEq, Failure.kind_eq_compile_error_iff]
  refine and_iff_right_of_imp ?_
  rintro ⟨e, rfl, hclient⟩
  simp [Failure.status, hclient]

/-- A result is not reported as a failure. -/
theorem not_reports_arr (vs : List Json) (status : Nat) (kind : String) :
    ¬ (response (.ok (.json (.arr vs)))).Reports status kind := by
  rintro ⟨-, value, hvalue, htype⟩
  obtain rfl := Content.json.inj hvalue
  cases htype

/-- What is reported is what the session reports. -/
theorem reports_iff_of_runs {result : Except Failure Content} (id : String)
    (hpost : r.method = "POST") (hroute : r.route? = some route) (hreads : route.reads = false)
    (h : Runs (app.answer r route) d result ss os) (status : Nat) (kind : String) :
    (app.respond r id d).1.Reports status kind ↔ (response result).Reports status kind := by
  obtain ⟨hstatus, hcontent, -⟩ := respond_of_runs id hpost hroute hreads h
  rw [HttpResponse.Reports, HttpResponse.Reports, hstatus, hcontent]

theorem not_mem_sizeEvent (r : HttpRequest) (error : Option QueryError) :
    .compilation error ∉ sizeEvent r := by
  rw [sizeEvent]
  split <;> simp

/-- The compilations that are counted are those of the session. -/
theorem mem_observed_of_runs {result : Except Failure Content} {error : Option QueryError}
    (id : String) (hpost : r.method = "POST") (hroute : r.route? = some route)
    (hreads : route.reads = false) (h : Runs (app.answer r route) d result ss os)
    (hmem : .compilation error ∈ (app.respond r id d).2.observed) : .compilation error ∈ os := by
  simpa [respond, counted, hpost, routed_of_runs hpost hroute hreads h,
    not_mem_sizeEvent r error] using hmem

theorem not_reports_of_empty {response : HttpResponse} (h : response.content = .empty)
    (status : Nat) (kind : String) : ¬ response.Reports status kind := by
  rintro ⟨-, value, hvalue, -⟩
  cases h.symm.trans hvalue

/-- The routes that only read answer on their own, and not with a failure. -/
theorem run_answer_of_reads (app : App) (r : HttpRequest) (hreads : route.reads = true)
    (x : Exchange) : ∃ content, (app.answer r route).run.run x = (.ok content, x) ∧
      ∀ status kind, ¬ (response (.ok content)).Reports status kind := by
  cases route with
  | filter | values | variableValues => cases hreads
  | health =>
      refine ⟨_, rfl, ?_⟩
      rintro status kind ⟨-, value, hvalue, htype⟩
      obtain rfl := Content.json.inj hvalue
      cases htype
  | metrics =>
      refine ⟨_, rfl, ?_⟩
      rintro status kind ⟨-, value, hvalue, -⟩
      cases hvalue

/-- Where no operation is asked for, the routes report no failure and nothing happens. -/
theorem routed_of_not_operation (app : App)
    (h : ∀ route, r.method = "POST" → r.route? = some route → route.reads = true) (x : Exchange) :
    (app.routed r x).2 = x ∧ ∀ status kind, ¬ (app.routed r x).1.Reports status kind := by
  cases hroute : r.route? with
  | none =>
      rw [routed, hroute]
      exact ⟨rfl, not_reports_of_empty rfl⟩
  | some route =>
      by_cases hmethod : route.methods.contains r.method
      · have hreads : route.reads = true := by
          cases hreads : route.reads with
          | true => rfl
          | false =>
              have hpost : r.method = "POST" := by simpa [Route.methods, hreads] using hmethod
              exact hreads ▸ h route hpost hroute
        obtain ⟨content, hrun, hreports⟩ := app.run_answer_of_reads r hreads x
        simp only [routed, hroute, hmethod, if_true, hrun]
        refine ⟨trivial, fun status kind => ?_⟩
        split
        · exact not_reports_of_empty rfl status kind
        · exact hreports status kind
      · simp only [routed, hroute, hmethod]
        exact ⟨rfl, not_reports_of_empty rfl⟩

/-- Where no operation is asked for, nothing is compiled and no failure is reported. -/
theorem respond_of_not_operation (id : String)
    (h : ∀ route, r.method = "POST" → r.route? = some route → route.reads = true) :
    (∀ status kind, ¬ (app.respond r id d).1.Reports status kind) ∧
    ∀ error, .compilation error ∉ (app.respond r id d).2.observed := by
  by_cases hoptions : r.method = "OPTIONS"
  · simp only [respond, if_pos hoptions]
    exact ⟨not_reports_of_empty rfl, fun error => List.not_mem_nil⟩
  · obtain ⟨hexchange, hreports⟩ := routed_of_not_operation app h
      ⟨d, [], .arrival r.method (Route.label r.route?) :: sizeEvent r⟩
    refine ⟨fun status kind => ?_, fun error => ?_⟩
    · simpa [respond, counted, if_neg hoptions, HttpResponse.Reports] using hreports status kind
    · simp [respond, counted, hoptions, hexchange, not_mem_sizeEvent r error]

/-- A request for time series brings no empty intervals. -/
theorem Admits.exists_series {plan : Plan} (h : app.Admits r .values plan) :
    ∃ labels b first last, plan.followUp = some (.series labels b first last) ∧
      ∀ bucketing ∈ b, bucketing.seconds ≠ 0 := by
  cases h with
  | @values userId request first last bucketing compiled _ _ _ _ hbucketing _ =>
      exact ⟨_, bucketing, first, last, rfl, request.seconds_ne_zero hbucketing⟩

/-- Time series are asked for at one route only. -/
theorem Admits.route_eq_values {plan : Plan} {labels : List String} {b : Option Bucketing}
    {first last : Instant} (h : app.Admits r route plan)
    (hf : plan.followUp = some (.series labels b first last)) : route = .values := by
  cases h with
  | filter | variableValues => cases hf
  | values => rfl

/-- An admitted request fails to have a statement just if the database names a table with an empty
name. -/
theorem Admits.fails_iff {plan : Plan} {result : Except Failure Content} {e : QueryError}
    (h : app.Admits r route plan) (hcourse : plan.Course app.service d result ss os) :
    result = .error (.query e) ↔ route = .values ∧ d.Tells true ∧ plan.ids d ≠ [] ∧
      readAnswer Table.tableName? (d.answerAt 2) = .ok (some "") ∧ e = .invalidIdentifier "" := by
  rw [hcourse.eq_query_iff]
  constructor
  · rintro ⟨htrue, hids, labels, b, first, last, name, hf, hname, hsql⟩
    obtain rfl := h.route_eq_values hf
    obtain ⟨_, _, _, _, hf', hseconds⟩ := h.exists_series
    obtain ⟨rfl, rfl, rfl, rfl⟩ := FollowUp.series.inj (Option.some.inj (hf.symm.trans hf'))
    obtain ⟨rfl, rfl⟩ := (app.service.sql_seriesQuery_eq_error_iff hseconds).mp hsql
    exact ⟨rfl, htrue, hids, hname, rfl⟩
  · rintro ⟨rfl, htrue, hids, hname, rfl⟩
    obtain ⟨labels, b, first, last, hf, hseconds⟩ := h.exists_series
    exact ⟨htrue, hids, labels, b, first, last, "", hf, hname,
      (app.service.sql_seriesQuery_eq_error_iff hseconds).mpr ⟨rfl, rfl⟩⟩

/-- No compilation is counted as a failure that the client could not mend. -/
theorem outcome_ne_compile_error (app : App) (r : HttpRequest) (id : String) (d : Database)
    {error : Option QueryError} (hmem : .compilation error ∈ (app.respond r id d).2.observed) :
    Observation.outcome error ≠ "compile_error" := by
  by_cases hoperation : ∃ route, r.method = "POST" ∧ r.route? = some route ∧ route.reads = false
  · obtain ⟨route, hpost, hroute, hreads⟩ := hoperation
    rcases app.admits_or_refuses r hreads with ⟨plan, hplan⟩ | ⟨os, e, hrefusal, hruns⟩
    · obtain ⟨result, ss, os, hruns, hcourse⟩ := hplan.exists_course d
      have hos := mem_observed_of_runs id hpost hroute hreads hruns hmem
      rw [hcourse.eq_none_of_mem hos]
      decide
    · have hos := mem_observed_of_runs id hpost hroute hreads (hruns d) hmem
      obtain ⟨fault, rfl, hclient⟩ := hrefusal.isClientError_of_mem hos
      cases fault with
      | malformed _ | pathTooDeep _ _ => simp [Observation.outcome]
      | invalidIdentifier _ | invalidOptions _ => cases hclient
  · refine absurd hmem ((respond_of_not_operation id fun route hpost hroute => ?_).2 error)
    simpa using fun hreads => hoperation ⟨route, hpost, hroute, hreads⟩

/-- A failure to compile is reported just for time series whose table has an empty name. -/
theorem reports_compile_error_iff (app : App) (r : HttpRequest) (id : String) (d : Database) :
    (app.respond r id d).1.Reports 500 "compile_error" ↔
      r.method = "POST" ∧ r.route? = some .values ∧ ∃ plan, app.Admits r .values plan ∧
        d.Tells true ∧ plan.ids d ≠ [] ∧
        readAnswer Table.tableName? (d.answerAt 2) = .ok (some "") := by
  constructor
  · intro hreports
    by_cases hoperation : ∃ route, r.method = "POST" ∧ r.route? = some route ∧ route.reads = false
    · obtain ⟨route, hpost, hroute, hreads⟩ := hoperation
      rcases app.admits_or_refuses r hreads with ⟨plan, hplan⟩ | ⟨os, f, hrefusal, hruns⟩
      · obtain ⟨result, ss, os, hruns, hcourse⟩ := hplan.exists_course d
        rw [reports_iff_of_runs id hpost hroute hreads hruns] at hreports
        cases result with
        | ok content =>
            obtain ⟨vs, rfl⟩ := hcourse.exists_arr
            exact absurd hreports (not_reports_arr vs _ _)
        | error f =>
            obtain ⟨e, rfl, -⟩ := reports_error_iff.mp hreports
            obtain ⟨rfl, htrue, hids, hname, -⟩ := (hplan.fails_iff hcourse).mp rfl
            exact ⟨hpost, hroute, plan, hplan, htrue, hids, hname⟩
      · rw [reports_iff_of_runs id hpost hroute hreads (hruns d), reports_error_iff] at hreports
        obtain ⟨e, rfl, hclient⟩ := hreports
        cases hrefusal with
        | query htext => cases hclient.symm.trans htext
    · refine absurd hreports ((respond_of_not_operation id fun route hpost hroute => ?_).1 _ _)
      simpa using fun hreads => hoperation ⟨route, hpost, hroute, hreads⟩
  · rintro ⟨hpost, hroute, plan, hplan, htrue, hids, hname⟩
    obtain ⟨result, ss, os, hruns, hcourse⟩ := hplan.exists_course d
    have hresult := (hplan.fails_iff hcourse).mpr ⟨rfl, htrue, hids, hname, rfl⟩
    rw [reports_iff_of_runs id hpost hroute rfl hruns, hresult, reports_error_iff]
    exact ⟨_, rfl, rfl⟩

end App

/-- **Checked settings exclude all failures to compile but one.**  They make a service, for which a
filter is compiled or refused for its text, the statement for current values is always there, and
that for time series is missing only if their table has an empty name.  So no compilation is counted
as an error of the service, and a response reports one just if the database names such a table. -/
theorem Settings.check_excludes_faults (settings : Settings) (h : settings.check = .ok ()) :
    ∃ app, App.of settings = .ok app ∧ app.settings = settings ∧
      (∀ replies, App.connect settings (.replies replies) = .ok app) ∧
      (∀ userId request x,
        (∃ c, ((app.service.compile userId request).run.run x).1 = .ok c) ∨
        (∃ fault, ((app.service.compile userId request).run.run x).1 =
          .error (.query (.malformed fault))) ∨
        ∃ depth max, ((app.service.compile userId request).run.run x).1 =
          .error (.query (.pathTooDeep depth max))) ∧
      (∃ sql, CurrentValues.sql app.service.schema = .ok sql) ∧
      (∀ (request : ValuesRequest) bucketing table e, request.bucketing = .ok bucketing →
        ((app.service.seriesQuery request.labelTags bucketing table).sql = .error e ↔
          table = "" ∧ e = .invalidIdentifier "")) ∧
      ∀ r id d,
        (∀ error, .compilation error ∈ (app.respond r id d).2.observed →
          Observation.outcome error ≠ "compile_error") ∧
        ((app.respond r id d).1.Reports 500 "compile_error" ↔
          r.method = "POST" ∧ r.route? = some .values ∧ ∃ plan, app.Admits r .values plan ∧
            d.Tells true ∧ plan.ids d ≠ [] ∧
            ∃ t cells rows, d.answerAt 2 = .ok t ∧ t.rows = (.text "" :: cells) :: rows) := by
  obtain ⟨app, happ, hsettings⟩ := App.exists_of_check h
  refine ⟨app, happ, hsettings, fun _ => happ, app.service.compile_cases,
    app.service.exists_currentValues_sql, fun request bucketing table e hbucketing => ?_,
    fun r id d => ⟨fun error => app.outcome_ne_compile_error r id d, ?_⟩⟩
  · exact app.service.sql_seriesQuery_eq_error_iff (request.seconds_ne_zero hbucketing)
  · have hname : readAnswer Table.tableName? (d.answerAt 2) = .ok (some "") ↔
        ∃ t cells rows, d.answerAt 2 = .ok t ∧ t.rows = (.text "" :: cells) :: rows := by
      simp only [Session.readAnswer_eq_ok_iff, Table.tableName?_eq_some_iff, exists_and_left]
    rw [app.reports_compile_error_iff, hname]

set_option maxRecDepth 8000 in
/-- By default the settings are checked, and the failure that is left does occur. -/
theorem Settings.check_excludes_faults_by_default :
    let r : HttpRequest :=
      { target := { path := "/values" }
        headers := [("x-user-id", "7"), ("content-type", "application/json")]
        body := "\x7b\"filter\":\"a\",\"org_id\":1,\"date_from\":\"2024-01-01T00:00:00Z\"," ++
          "\"date_to\":\"2024-01-02T00:00:00Z\"\x7d" }
    let d : Database := .replies [.table ⟨["exists"], [[.bool true]]⟩,
      .table ⟨["entity_id"], [[.int 8 5]]⟩, .table ⟨["value_table"], [[.text ""]]⟩]
    Settings.check {} = .ok () ∧
      ∃ app, App.of {} = .ok app ∧ (app.respond r "1" d).1.Reports 500 "compile_error" := by
  intro r d
  have hcheck : Settings.check {} = .ok () := by rfl
  obtain ⟨app, happ, -, -, -, -, -, hall⟩ := Settings.check_excludes_faults {} hcheck
  obtain rfl : ⟨{}, ⟨.standard, "public", by decide⟩⟩ = app := Except.ok.inj happ
  refine ⟨hcheck, _, happ, (hall r "1" d).2.mpr ⟨rfl, by decide, ?_⟩⟩
  have hdraft : Draft.ofText r.body = .obj [(some "filter", .str (some "a")),
      (some "org_id", .int 1), (some "date_from", .str (some "2024-01-01T00:00:00Z")),
      (some "date_to", .str (some "2024-01-02T00:00:00Z"))] true := by cbv
  have htype : (r.plainHeader? "content-type").any Text.isJsonMediaType := by cbv
  let request : ValuesRequest :=
    ⟨⟨"a", 1, none⟩, "2024-01-01T00:00:00Z", "2024-01-02T00:00:00Z", none, none⟩
  have hbody : r.read 1048576 ValuesRequest.read = .ok request := by
    rw [HttpRequest.read, htype, hdraft]
    rfl
  have huser : r.NamesUser "x-user-id" 7 := ⟨"7", by decide, by decide, by decide⟩
  have hparse : parse "a" = .ok (.has ⟨["a"]⟩) := by cbv
  obtain ⟨c, hcompile⟩ : ∃ c, Query.compile .standard
      { filter := "a", orgId := 1, userId := 7, tags := [], schema := "public" } = .ok c :=
    ⟨_, Query.compile_eq_ok_iff.mpr ⟨by decide, _, _, hparse, rfl, rfl⟩⟩
  have hrange : request.range = .ok (⟨1704067200, 0⟩, ⟨1704153600, 0⟩) := by cbv
  have hrequest : request.check = .ok () := by cbv
  exact ⟨_, .values huser hbody hrequest hrange rfl hcompile, ⟨_, _, _, rfl, rfl⟩,
    List.cons_ne_nil 5 [], _, _, _, rfl, rfl⟩

end EntityFilter
