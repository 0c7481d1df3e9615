import EntityFilter.Proofs.Service.Accounts

/-!
# Counters agree with what happened

What the session of a request counts depends on how far it comes.  A request that does not pass the
checks of its operation (`App.Passes`) is answered without any event, one whose filter is not
compiled with that event alone, and one that is admitted has the account of its course.

**The counters agree with what happened** (`App.counters_reconcile`), for every request to an
operation and every database.
-/

namespace EntityFilter

open Session (Runs)

/-! ### Requests -/

theorem HttpRequest.NamesUser.unique {r : HttpRequest} {header : String} {userId userId' : Int}
    (h : r.NamesUser header userId) (h' : r.NamesUser header userId') : userId = userId' := by
  rw [← HttpRequest.userId_eq_ok_iff] at h h'
  exact Except.ok.inj (h.symm.trans h')

namespace App

variable {app : App} {r : HttpRequest} {op : Operation} {d : Database}

/-- A request asks for one query. -/
theorem Passes.unique {q q' : Query} (h : app.Passes r op q) (h' : app.Passes r op q') :
    q = q' := by
  cases h with
  | filter huser hbody _ =>
      cases h' with
      | filter huser' hbody' _ =>
          obtain rfl := huser.unique huser'
          cases hbody.symm.trans hbody'
          rfl
  | values huser hbody _ _ _ =>
      cases h' with
      | values huser' hbody' _ _ _ =>
          obtain rfl := huser.unique huser'
          cases hbody.symm.trans hbody'
          rfl
  | variableValues huser hbody _ =>
      cases h' with
      | variableValues huser' hbody' _ =>
          obtain rfl := huser.unique huser'
          cases hbody.symm.trans hbody'
          rfl

/-- A request has one plan. -/
theorem Admits.unique {route : Route} {p p' : Plan} (h : app.Admits r route p)
    (h' : app.Admits r route p') : p = p' := by
  cases h with
  | filter huser hbody _ hcompile =>
      cases h' with
      | filter huser' hbody' _ hcompile' =>
          obtain rfl := huser.unique huser'
          cases hbody.symm.trans hbody'
          cases hcompile.symm.trans hcompile'
          rfl
  | values huser hbody _ hrange hbucketing hcompile =>
      cases h' with
      | values huser' hbody' _ hrange' hbucketing' hcompile' =>
          obtain rfl := huser.unique huser'
          cases hbody.symm.trans hbody'
          cases hrange.symm.trans hrange'
          cases hbucketing.symm.trans hbucketing'
          cases hcompile.symm.trans hcompile'
          rfl
  | variableValues huser hbody _ hcompile =>
      cases h' with
      | variableValues huser' hbody' _ hcompile' =>
          obtain rfl := huser.unique huser'
          cases hbody.symm.trans hbody'
          cases hcompile.symm.trans hcompile'
          rfl

/-- An admitted request passes the checks, and its query is compiled. -/
theorem Admits.passes {plan : Plan} (h : app.Admits r op.route plan) :
    ∃ q, app.Passes r op q ∧ q.compile app.service.compiler = .ok plan.compiled ∧
      plan.operation = op := by
  generalize hroute : op.route = route at h
  cases h with
  | filter huser hbody hcheck hcompile =>
      cases op with
      | filter => exact ⟨_, .filter huser hbody hcheck, hcompile, rfl⟩
      | values | variableValues => cases hroute
  | values huser hbody hcheck hrange hbucketing hcompile =>
      cases op with
      | values => exact ⟨_, .values huser hbody hcheck hrange hbucketing, hcompile, rfl⟩
      | filter | variableValues => cases hroute
  | variableValues huser hbody hcheck hcompile =>
      cases op with
      | variableValues => exact ⟨_, .variableValues huser hbody hcheck, hcompile, rfl⟩
      | filter | values => cases hroute

/-- The account of a request to an operation: how far it comes, and what it leads to. -/
structure Accounts (app : App) (r : HttpRequest) (op : Operation) (d : Database)
    (result : Except Failure Content) (ss : List Statement) (a : Account) : Prop where
  runs : Runs (app.answer r op.route) d result ss (a.events app.service.compiler.options.kindSource)
  calls : a.calls = d.outcomes ss
  compiles : ∀ q, app.Passes r op q → a.compilation = some (q.compile app.service.compiler)
  rejected : (¬ ∃ q, app.Passes r op q) → a.compilation = none
  puts : ∀ plan, app.Admits r op.route plan → plan.Puts app.service d ss
  refused : (¬ ∃ plan, app.Admits r op.route plan) → ss = []
  results : result.isOk → (op ≠ .filter → ∃ plan, app.Admits r op.route plan ∧ plan.ids d ≠ []) →
    a.results.map Prod.fst = some op
  fruitless : ¬ (result.isOk ∧
    (op ≠ .filter → ∃ plan, app.Admits r op.route plan ∧ plan.ids d ≠ [])) → a.results = none

/-- A request that is not admitted has no calls and no results in its account. -/
theorem accounts_of_refused {e : Failure} {a : Account}
    (hruns : Runs (app.answer r op.route) d (.error e) []
      (a.events app.service.compiler.options.kindSource))
    (hcalls : a.calls = []) (hresults : a.results = none)
    (hcompiles : ∀ q, app.Passes r op q → a.compilation = some (q.compile app.service.compiler))
    (hrejected : (¬ ∃ q, app.Passes r op q) → a.compilation = none)
    (hplan : ¬ ∃ plan, app.Admits r op.route plan) : app.Accounts r op d (.error e) [] a where
  runs := hruns
  calls := hcalls
  compiles := hcompiles
  rejected := hrejected
  puts plan h := absurd ⟨plan, h⟩ hplan
  refused _ := rfl
  results h := by cases h
  fruitless _ := hresults

/-- **Every request to an operation has an account.** -/
theorem exists_accounts (app : App) (r : HttpRequest) (op : Operation) (d : Database) :
    ∃ result ss a, app.Accounts r op d result ss a := by
  by_cases hpasses : ∃ q, app.Passes r op q
  · obtain ⟨q, hq⟩ := hpasses
    cases hcompile : q.compile app.service.compiler with
    | error e =>
        have hplan : ¬ ∃ plan, app.Admits r op.route plan := by
          rintro ⟨plan, hadmits⟩
          obtain ⟨q', hq', hcompile', -⟩ := hadmits.passes
          rw [← hq.unique hq', hcompile] at hcompile'
          cases hcompile'
        refine ⟨_, _, ⟨some (.error e), [], none⟩, accounts_of_refused (hq.runs_error hcompile d)
          rfl rfl (fun q' hq' => ?_) (fun hnone => absurd ⟨q, hq⟩ hnone) hplan⟩
        rw [← hq.unique hq', hcompile]
    | ok c =>
        obtain ⟨plan, hadmits⟩ := hq.exists_admits hcompile
        obtain ⟨q', hq', hcompile', hop⟩ := hadmits.passes
        obtain ⟨result, ss, os, hruns, hcourse⟩ := hadmits.exists_course d
        obtain ⟨results, rfl, hresults⟩ := hcourse.events_eq
        rw [hop] at hresults
        have hids : (∃ plan, app.Admits r op.route plan ∧ plan.ids d ≠ []) ↔ plan.ids d ≠ [] := by
          refine ⟨fun h => ?_, fun h => ⟨plan, hadmits, h⟩⟩
          obtain ⟨plan', hadmits', h⟩ := h
          rwa [hadmits.unique hadmits']
        exact ⟨result, ss, _,
          { runs := hruns
            calls := rfl
            compiles := fun p hp => by rw [hp.unique hq', hcompile']
            rejected := fun hnone => absurd ⟨q, hq⟩ hnone
            puts := fun plan' hadmits' => hadmits.unique hadmits' ▸ hcourse.leads.puts
            refused := fun hnone => absurd ⟨plan, hadmits⟩ hnone
            results := fun hok hfound => by
              rw [hids] at hfound
              rw [hresults, if_pos ⟨hok, hfound⟩]
            fruitless := fun hnone => by
              rw [hids] at hnone
              rwa [if_neg hnone, Option.map_eq_none_iff] at hresults }⟩
  · obtain ⟨e, -, hruns⟩ := (app.passes_or_refuses r op).resolve_left hpasses
    have hplan : ¬ ∃ plan, app.Admits r op.route plan := by
      rintro ⟨plan, hadmits⟩
      obtain ⟨q, hq, -⟩ := hadmits.passes
      exact hpasses ⟨q, hq⟩
    exact ⟨_, _, {}, accounts_of_refused (hruns d) rfl rfl (fun q hq => absurd ⟨q, hq⟩ hpasses)
      (fun _ => rfl) hplan⟩

end App

/-! ### Agreement -/

open Observation (counter growth)

/-- The counters of an exchange agree with what happened in it. -/
structure App.Reconciled (app : App) (r : HttpRequest) (op : Operation) (d : Database)
    (p : HttpResponse) (x : Exchange) : Prop where
  /-- The request is counted once, by the status that it is answered with. -/
  requests : growth "tagql_http_requests_total" x.observed =
    [(counter "tagql_http_requests_total"
      [("method", "POST"), ("route", op.route.path), ("status", Text.natural p.status)], 1)]
  /-- No more and no fewer requests are on their way than before. -/
  inFlight : growth "tagql_http_requests_in_flight" x.observed = []
  /-- A request that passes the checks is compiled once, and the outcome says how that went. -/
  compilation : ∀ q, app.Passes r op q → ∃ outcome,
    growth "tagql_filter_compilations_total" x.observed =
      [(counter "tagql_filter_compilations_total" [("outcome", outcome)], 1)] ∧
    (outcome = "ok" ↔ ∃ c, q.compile app.service.compiler = .ok c)
  no_compilation : (¬ ∃ q, app.Passes r op q) →
    growth "tagql_filter_compilations_total" x.observed = []
  /-- Aliases are counted once if the request is compiled. -/
  aliases : (∃ q c, app.Passes r op q ∧ q.compile app.service.compiler = .ok c) →
    growth "tagql_filter_aliases_count" x.observed =
      [(counter "tagql_filter_aliases_count"
        [("kind_source", app.service.compiler.options.kindSource.name)], 1)]
  no_aliases : (¬ ∃ q c, app.Passes r op q ∧ q.compile app.service.compiler = .ok c) →
    growth "tagql_filter_aliases_count" x.observed = []
  /-- Each call to the database is counted once under its kind, and so is each error that one
  returns. -/
  calls : ∀ plan, app.Admits r op.route plan → ∃ ss, plan.Puts app.service d ss ∧
    x.sent = d.receives ss ∧
    growth "tagql_db_query_duration_seconds_count" x.observed = ss.map (fun s =>
      (counter "tagql_db_query_duration_seconds_count" [("query_type", s.kind.label)], 1)) ∧
    growth "tagql_db_query_errors_total" x.observed =
      ((d.outcomes ss).filter Prod.snd).map fun c =>
        (counter "tagql_db_query_errors_total" [("query_type", c.1.label)], 1)
  no_calls : (¬ ∃ plan, app.Admits r op.route plan) → x.sent = [] ∧
    growth "tagql_db_query_duration_seconds_count" x.observed = [] ∧
    growth "tagql_db_query_errors_total" x.observed = []
  /-- Results are counted once if the request is answered well, and not without entities where more
  is asked for these. -/
  results : p.status = 200 →
    (op ≠ .filter → ∃ plan, app.Admits r op.route plan ∧ plan.ids d ≠ []) →
    growth "tagql_filter_results_count" x.observed =
      [(counter "tagql_filter_results_count" [("endpoint", op.label)], 1)]
  no_results : ¬ (p.status = 200 ∧
      (op ≠ .filter → ∃ plan, app.Admits r op.route plan ∧ plan.ids d ≠ [])) →
    growth "tagql_filter_results_count" x.observed = []

namespace App

variable {app : App} {r : HttpRequest} {op : Operation} {d : Database}
  {result : Except Failure Content} {ss : List Statement} {a : Account}

theorem status_response_iff : (response result).status = 200 ↔ result.isOk := by
  match result with
  | .ok (.json _) | .ok .counters | .ok .empty => simp [response, jsonResponse, Except.isOk,
      Except.toBool]
  | .error f => simp [response, jsonResponse, f.status_ne_ok, Except.isOk, Except.toBool]

/-- The events of a request are those of its account. -/
theorem Accounts.observed_eq (h : app.Accounts r op d result ss a) (id : String)
    (hpost : r.method = "POST") (hroute : r.route? = some op.route) :
    (app.respond r id d).2.observed = a.requestEvents app.service.compiler.options.kindSource r
      (app.respond r id d).1.status := by
  have hrouted := routed_of_runs hpost hroute op.reads_route h.runs
  simp [respond, counted, hpost, hrouted, Account.requestEvents]

theorem Accounts.nodup_kinds (h : app.Accounts r op d result ss a) :
    (a.calls.map Prod.fst).Nodup := by
  rw [h.calls, Database.map_fst_outcomes]
  by_cases hplan : ∃ plan, app.Admits r op.route plan
  · obtain ⟨plan, hadmits⟩ := hplan
    exact (h.puts plan hadmits).nodup_kinds
  · rw [h.refused hplan]
    exact List.nodup_nil

/-- The calls of an account are those for its statements. -/
theorem Accounts.map_calls {β : Type} (h : app.Accounts r op d result ss a)
    (f : StatementKind → β) : a.calls.map (fun c => f c.1) = ss.map fun s => f s.kind := by
  have hkinds := congrArg (List.map f) (d.map_fst_outcomes ss)
  rw [List.map_map, List.map_map] at hkinds
  rw [h.calls]
  exact hkinds

/-- **The counters agree with what happened**, for every request to an operation and every
database. -/
theorem counters_reconcile (app : App) (r : HttpRequest) (id : String) (d : Database)
    {op : Operation} (hpost : r.method = "POST") (hroute : r.route? = some op.route) :
    app.Reconciled r op d (app.respond r id d).1 (app.respond r id d).2 := by
  obtain ⟨result, ss, a, h⟩ := app.exists_accounts r op d
  obtain ⟨hstatus, -, hsent⟩ := respond_of_runs id hpost hroute op.reads_route h.runs
  have hok : (app.respond r id d).1.status = 200 ↔ result.isOk :=
    hstatus ▸ status_response_iff
  have hkinds := h.nodup_kinds
  -- all totals are read off the account
  have hobserved := h.observed_eq id hpost hroute
  exact
    { requests := by
        rw [hobserved, Account.growth_requests, hpost, hroute]
        rfl
      inFlight := by rw [hobserved, Account.growth_inFlight]
      compilation := fun q hq => by
        refine ⟨Account.outcome (q.compile app.service.compiler), ?_, Account.outcome_eq_ok_iff⟩
        rw [hobserved, Account.growth_compilations, h.compiles q hq]
        rfl
      no_compilation := fun hnone => by
        rw [hobserved, Account.growth_compilations, h.rejected hnone]
        rfl
      aliases := fun hcompiled => by
        obtain ⟨q, c, hq, hcompile⟩ := hcompiled
        rw [hobserved, Account.growth_aliases, h.compiles q hq, hcompile]
        rfl
      no_aliases := fun hnone => by
        rw [hobserved, Account.growth_aliases]
        by_cases hpasses : ∃ q, app.Passes r op q
        · obtain ⟨q, hq⟩ := hpasses
          cases hcompile : q.compile app.service.compiler with
          | ok c => exact absurd ⟨q, c, hq, hcompile⟩ hnone
          | error e =>
              rw [h.compiles q hq, hcompile]
              rfl
        · rw [h.rejected hpasses]
          rfl
      calls := fun plan hplan => by
        refine ⟨ss, h.puts plan hplan, hsent, ?_, ?_⟩
        · rw [hobserved, Account.growth_durations _ _ _ _ hkinds]
          exact h.map_calls fun kind => (counter "tagql_db_query_duration_seconds_count"
            [("query_type", kind.label)], (1 : Int))
        · rw [hobserved, Account.growth_errors _ _ _ _ hkinds, h.calls]
      no_calls := fun hnone => by
        have hcalls := h.calls
        rw [h.refused hnone] at hcalls hsent
        refine ⟨hsent.trans d.receives_nil, ?_, ?_⟩
        · rw [hobserved, Account.growth_durations _ _ _ _ hkinds, hcalls]
          rfl
        · rw [hobserved, Account.growth_errors _ _ _ _ hkinds, hcalls]
          rfl
      results := fun hgood hfound => by
        have hresults := h.results (hok.mp hgood) hfound
        obtain ⟨x, hx, hop⟩ := Option.map_eq_some_iff.mp hresults
        rw [hobserved, Account.growth_results, hx, ← hop]
        rfl
      no_results := fun hnone => by
        rw [hok] at hnone
        rw [hobserved, Account.growth_results, h.fruitless hnone]
        rfl }

set_option maxRecDepth 8000 in
/-- Of three calls the last one fails, which the client is told, and only that one counts as an
error; what the other two found does not count as a result. -/
theorem counters_reconcile_of_failed_call :
    let app : App := ⟨{}, ⟨.standard, "public", by decide⟩⟩
    let r : HttpRequest :=
      { target := { path := "/variable/values" }
        headers := [("x-user-id", " 7"), ("content-type", "application/json")]
        body := "\x7b\"filter\":\"a\",\"org_id\":1,\"tag\":\"t\"\x7d" }
    let d : Database := .replies [.table ⟨["exists"], [[.bool true]]⟩,
      .table ⟨["entity_id"], [[.int 8 5]]⟩, .table ⟨["entity_id"], [[.int 8 5]]⟩]
    let observed := (app.respond r "1" d).2.observed
    r.method = "POST" ∧ r.route? = some Operation.variableValues.route ∧
      app.Reconciled r .variableValues d (app.respond r "1" d).1 (app.respond r "1" d).2 ∧
      (growth "tagql_db_query_duration_seconds_count" observed).map Prod.snd = [1, 1, 1] ∧
      growth "tagql_db_query_errors_total" observed =
        [(counter "tagql_db_query_errors_total" [("query_type", "variable_values")], 1)] := by
  intro app r d observed
  have hreconciled : app.Reconciled r .variableValues d (app.respond r "1" d).1
      (app.respond r "1" d).2 :=
    app.counters_reconcile r "1" d rfl rfl
  have hdraft : Draft.ofText r.body = .obj [(some "filter", .str (some "a")),
      (some "org_id", .int 1), (some "tag", .str (some "t"))] true := by cbv
  have htype : (r.plainHeader? "content-type").any Text.isJsonMediaType := by cbv
  have hbody : r.read app.settings.server.maxRequestBodySize VariableValuesRequest.read =
      .ok ⟨⟨"a", 1, none⟩, "t"⟩ := by
    rw [HttpRequest.read, htype, hdraft]
    rfl
  have huser : r.NamesUser app.settings.auth.userHeader 7 :=
    ⟨" 7", by decide, by decide, by decide⟩
  have hparse : parse "a" = .ok (.has ⟨["a"]⟩) := by cbv
  obtain ⟨c, hcompile⟩ : ∃ c, (app.service.query 7 ⟨"a", 1, none⟩).compile app.service.compiler =
      .ok c :=
    ⟨_, Query.compile_eq_ok_iff.mpr ⟨by decide, _, _, hparse, rfl, rfl⟩⟩
  have hplan : app.Admits r Operation.variableValues.route ⟨7, 1, c, some (.current "t")⟩ :=
    .variableValues huser hbody rfl hcompile
  obtain ⟨ss, hputs, -, hdurations, herrors⟩ := hreconciled.calls _ hplan
  have htold : d.Tells true := ⟨_, _, _, rfl, rfl⟩
  obtain rfl := hputs.rest (hputs.third_iff.mpr ⟨htold, rfl, List.cons_ne_nil 5 []⟩)
  exact ⟨rfl, rfl, hreconciled, by rw [hdurations]; rfl, by rw [herrors]; rfl⟩

end App

end EntityFilter
