import EntityFilter.Proofs.Service.Access
import EntityFilter.Proofs.Service.Totals

/-!
# The accounts of sessions

A request is counted when it comes in and when it is answered, and in between its session counts a
compilation, each call to the database and the results.  `Account` lists what a session counts, and
its events have a fixed form (`Account.events`), from which the totals of each name of counters are
read off (`Account.growth_durations` and its like).

**The course of a plan has an account** (`Plan.Course.events_eq`): one entry for every statement that
is put to the database, and one for the results if there are any to count.
-/

namespace EntityFilter

open Session (readAnswer)

/-! ### Calls -/

namespace StatementKind

/-- A call of this kind can read the result of its statement.  A truth value, the name of a table
and current values are read by the call itself, entities and time series are read behind it. -/
def reads : StatementKind → Table → Bool
  | orgVisibility, t     => t.truth?.isSome
  | valueTable, t        => t.tableName?.isSome
  | variableValues, t    => (t.rows.mapM (Service.variableValue? t)).isSome
  | filter, _ | values, _ => true

/-- A call of this kind returns an error if the database answers so. -/
def failsOn (kind : StatementKind) : Except DatabaseFault Table → Bool
  | .error _ => true
  | .ok t    => !kind.reads t

end StatementKind

/-- The calls that put statements to the database, by their kinds and whether they return an
error. -/
def Database.outcomes (d : Database) (ss : List Statement) : List (StatementKind × Bool) :=
  ss.mapIdx fun i s => (s.kind, s.kind.failsOn (d.answerAt i))

theorem Database.outcomes_append (d : Database) (ss ts : List Statement) :
    d.outcomes (ss ++ ts) = d.outcomes ss ++ (d.after ss.length).outcomes ts := by
  rw [outcomes, outcomes, outcomes, List.mapIdx_append]
  simp only [answerAt_after, Nat.add_comm]

theorem Database.map_fst_outcomes (d : Database) (ss : List Statement) :
    (d.outcomes ss).map Prod.fst = ss.map Statement.kind := by
  refine List.ext_getElem? fun i => ?_
  simp [outcomes, Function.comp_def]

/-! ### Accounts -/

/-- What a session counts. -/
structure Account where
  /-- The compilation of the filter, if it comes to one. -/
  compilation : Option (Except QueryError CompiledQuery) := none
  /-- The calls to the database, and whether they return an error. -/
  calls : List (StatementKind × Bool) := []
  /-- The results of an operation. -/
  results : Option (Operation × Nat) := none

namespace Account

open Observation (counter growth growth_eq growth_eq_map posts post post_self post_of_ne sumAt sumUp
  posts_compilation posts_aliases posts_statement posts_results posts_arrival posts_requestSize
  posts_request)

/-- What is counted of a compilation. -/
def compilationEvents (source : KindSource) : Except QueryError CompiledQuery → List Observation
  | .ok c    => [.compilation none, .aliases source c.aliases]
  | .error e => [.compilation (some e)]

/-- The events of a session. -/
def events (a : Account) (source : KindSource) : List Observation :=
  (a.compilation.toList.flatMap (compilationEvents source)) ++
    a.calls.map (fun c => .statement c.1 c.2) ++
    a.results.toList.map fun f => .results f.1 f.2

/-- The events of a request: those of its session, between its arrival and its answer. -/
def requestEvents (a : Account) (source : KindSource) (r : HttpRequest) (status : Nat) :
    List Observation :=
  .arrival r.method (Route.label r.route?) :: App.sizeEvent r ++ a.events source ++
    [.request r.method (Route.label r.route?) status]

/-- The outcome that a compilation is counted by. -/
def outcome : Except QueryError CompiledQuery → String
  | .ok _    => Observation.outcome none
  | .error e => Observation.outcome (some e)

theorem outcome_eq_ok_iff {result : Except QueryError CompiledQuery} :
    outcome result = "ok" ↔ ∃ c, result = .ok c := by
  cases result with
  | ok c => simp [outcome, Observation.outcome]
  | error e =>
      have hne : Observation.outcome (some e) ≠ "ok" := by
        cases e <;> simp [Observation.outcome]
      simp [outcome, hne]

theorem flatMap_const_nil {β γ : Type} (l : List β) : l.flatMap (fun _ => ([] : List γ)) = [] :=
  List.flatMap_eq_nil_iff.mpr fun _ _ => rfl

theorem flatMap_sizeEvent {name : String} (r : HttpRequest)
    (hcount : "tagql_http_request_size_bytes_count" ≠ name)
    (hsum : "tagql_http_request_size_bytes_sum" ≠ name) :
    (App.sizeEvent r).flatMap (posts name) = [] := by
  rw [App.sizeEvent]
  split
  · rw [List.flatMap_singleton, posts_requestSize, post_of_ne hcount, post_of_ne hsum]
    rfl
  · rfl

/-- The changes of the counters of a name by the events of a request. -/
theorem flatMap_requestEvents {name : String} (a : Account) (source : KindSource) (r : HttpRequest)
    (status : Nat) (hcount : "tagql_http_request_size_bytes_count" ≠ name)
    (hsum : "tagql_http_request_size_bytes_sum" ≠ name) :
    let labels := [("method", r.method), ("route", Route.label r.route?)]
    (a.requestEvents source r status).flatMap (posts name) =
      post name "tagql_http_requests_in_flight" labels 1 ++
      a.compilation.toList.flatMap (fun c =>
        post name "tagql_filter_compilations_total" [("outcome", outcome c)] 1 ++
          c.toOption.toList.flatMap fun query =>
            post name "tagql_filter_aliases_count" [("kind_source", source.name)] 1 ++
              post name "tagql_filter_aliases_sum" [("kind_source", source.name)] query.aliases) ++
      a.calls.flatMap (fun c =>
        post name "tagql_db_query_duration_seconds_count" [("query_type", c.1.label)] 1 ++
          if c.2 then post name "tagql_db_query_errors_total" [("query_type", c.1.label)] 1
          else []) ++
      a.results.toList.flatMap (fun x =>
        post name "tagql_filter_results_count" [("endpoint", x.1.label)] 1 ++
          post name "tagql_filter_results_sum" [("endpoint", x.1.label)] x.2) ++
      (post name "tagql_http_requests_total" (labels ++ [("status", Text.natural status)]) 1 ++
        (post name "tagql_http_request_duration_seconds_count" labels 1 ++
          post name "tagql_http_requests_in_flight" labels (-1))) := by
  intro labels
  have hcompilation : ∀ c, (compilationEvents source c).flatMap (posts name) =
      post name "tagql_filter_compilations_total" [("outcome", outcome c)] 1 ++
        c.toOption.toList.flatMap fun query =>
          post name "tagql_filter_aliases_count" [("kind_source", source.name)] 1 ++
            post name "tagql_filter_aliases_sum" [("kind_source", source.name)] query.aliases := by
    intro c
    cases c with
    | ok query =>
        simp only [compilationEvents, List.flatMap_cons, List.flatMap_nil, posts_compilation,
          posts_aliases, Except.toOption, Option.toList_some, outcome]
    | error e =>
        simp only [compilationEvents, List.flatMap_cons, List.flatMap_nil, posts_compilation,
          Except.toOption, Option.toList_none, outcome]
  simp only [requestEvents, events, List.flatMap_append, List.flatMap_cons, List.flatMap_nil,
    flatMap_sizeEvent r hcount hsum, List.flatMap_assoc, List.flatMap_map, List.append_nil,
    List.append_assoc, List.nil_append, List.cons_append, posts_arrival, hcompilation,
    posts_statement, posts_results, posts_request, labels]

theorem flatMap_ite {β γ : Type} (p : β → Bool) (f : β → γ) (l : List β) :
    l.flatMap (fun b => if p b then [f b] else []) = (l.filter p).map f := by
  induction l with
  | nil => rfl
  | cons b l ih =>
      rw [List.flatMap_cons, ih, List.filter_cons]
      split <;> rfl

theorem nodup_map_toList {β γ : Type} (f : β → γ) (o : Option β) : (o.toList.map f).Nodup := by
  cases o <;> simp

/-- Kinds of statements are told apart by their labels. -/
theorem counter_kind_injective (name : String) : Function.Injective fun kind : StatementKind =>
    counter name [("query_type", kind.label)] := by
  intro kind kind' h
  have hlabel : kind.label = kind'.label := by simpa [counter] using h
  cases kind <;> cases kind' <;> simp [StatementKind.label] at hlabel ⊢

section Totals

variable (a : Account) (source : KindSource) (r : HttpRequest) (status : Nat)

theorem growth_requests :
    growth "tagql_http_requests_total" (a.requestEvents source r status) =
      [(counter "tagql_http_requests_total" [("method", r.method),
        ("route", Route.label r.route?), ("status", Text.natural status)], 1)] := by
  have hposts : (a.requestEvents source r status).flatMap (posts "tagql_http_requests_total") =
      [status].map fun n => (counter "tagql_http_requests_total" [("method", r.method),
        ("route", Route.label r.route?), ("status", Text.natural n)], 1) := by
    rw [flatMap_requestEvents _ _ _ _ (by decide) (by decide)]
    simp (disch := decide) only [post_self, post_of_ne, ite_self, flatMap_const_nil,
      List.append_nil, List.nil_append, List.cons_append, List.map_cons, List.map_nil]
  exact growth_eq_map hposts (List.nodup_singleton _)

/-- The gauge goes up and down again. -/
theorem growth_inFlight :
    growth "tagql_http_requests_in_flight" (a.requestEvents source r status) = [] := by
  rw [growth_eq, flatMap_requestEvents _ _ _ _ (by decide) (by decide)]
  simp (disch := decide) only [post_self, post_of_ne, ite_self, flatMap_const_nil, List.append_nil,
    List.nil_append, List.cons_append]
  simp [sumUp, sumAt, List.eraseDups_cons]

theorem growth_compilations :
    growth "tagql_filter_compilations_total" (a.requestEvents source r status) =
      a.compilation.toList.map fun c =>
        (counter "tagql_filter_compilations_total" [("outcome", outcome c)], 1) := by
  refine growth_eq_map ?_ (nodup_map_toList _ _)
  rw [flatMap_requestEvents _ _ _ _ (by decide) (by decide)]
  simp (disch := decide) only [post_self, post_of_ne, ite_self, flatMap_const_nil, List.append_nil,
    List.nil_append, List.map_eq_flatMap]

theorem growth_aliases :
    growth "tagql_filter_aliases_count" (a.requestEvents source r status) =
      (a.compilation.bind Except.toOption).toList.map fun _ =>
        (counter "tagql_filter_aliases_count" [("kind_source", source.name)], 1) := by
  refine growth_eq_map ?_ (nodup_map_toList _ _)
  rw [flatMap_requestEvents _ _ _ _ (by decide) (by decide)]
  simp (disch := decide) only [post_self, post_of_ne, ite_self, flatMap_const_nil, List.append_nil,
    List.nil_append, List.map_eq_flatMap]
  cases a.compilation with
  | none => rfl
  | some c => exact List.append_nil _

theorem growth_durations (h : (a.calls.map Prod.fst).Nodup) :
    growth "tagql_db_query_duration_seconds_count" (a.requestEvents source r status) =
      a.calls.map fun c =>
        (counter "tagql_db_query_duration_seconds_count" [("query_type", c.1.label)], 1) := by
  have hkinds := h.map (counter_kind_injective "tagql_db_query_duration_seconds_count")
  rw [List.map_map] at hkinds
  refine growth_eq_map ?_ hkinds
  rw [flatMap_requestEvents _ _ _ _ (by decide) (by decide)]
  simp (disch := decide) only [post_self, post_of_ne, ite_self, flatMap_const_nil,
    List.append_nil, List.nil_append, List.map_eq_flatMap]

theorem growth_errors (h : (a.calls.map Prod.fst).Nodup) :
    growth "tagql_db_query_errors_total" (a.requestEvents source r status) =
      (a.calls.filter Prod.snd).map fun c =>
        (counter "tagql_db_query_errors_total" [("query_type", c.1.label)], 1) := by
  have hfailed : ((a.calls.filter Prod.snd).map Prod.fst).Nodup :=
    h.sublist (List.filter_sublist.map Prod.fst)
  have hkinds := hfailed.map (counter_kind_injective "tagql_db_query_errors_total")
  rw [List.map_map] at hkinds
  refine growth_eq_map ?_ hkinds
  rw [flatMap_requestEvents _ _ _ _ (by decide) (by decide)]
  simp (disch := decide) only [post_self, post_of_ne, flatMap_const_nil, List.append_nil,
    List.nil_append, flatMap_ite]

theorem growth_results :
    growth "tagql_filter_results_count" (a.requestEvents source r status) =
      a.results.toList.map fun x =>
        (counter "tagql_filter_results_count" [("endpoint", x.1.label)], 1) := by
  refine growth_eq_map ?_ (nodup_map_toList _ _)
  rw [flatMap_requestEvents _ _ _ _ (by decide) (by decide)]
  simp (disch := decide) only [post_self, post_of_ne, ite_self, flatMap_const_nil, List.append_nil,
    List.nil_append, List.map_eq_flatMap]

end Totals

end Account

/-! ### Accounts of courses -/

namespace StatementKind

/-- A call fails if nothing is read from the answer. -/
theorem failsOn_eq {α : Type} {kind : StatementKind} {read? : Table → Option α}
    {answer : Except DatabaseFault Table} {result : Except DatabaseFault α}
    (hreads : ∀ t, kind.reads t = (read? t).isSome) (h : readAnswer read? answer = result) :
    kind.failsOn answer = !result.isOk := by
  subst h
  cases answer with
  | error fault => rfl
  | ok t =>
      rw [failsOn, hreads, readAnswer, Except.bind]
      cases read? t <;> rfl

theorem failsOn_orgVisibility {answer : Except DatabaseFault Table}
    {result : Except DatabaseFault Bool} (h : readAnswer Table.truth? answer = result) :
    orgVisibility.failsOn answer = !result.isOk :=
  failsOn_eq (fun _ => rfl) h

theorem failsOn_valueTable {answer : Except DatabaseFault Table}
    {result : Except DatabaseFault (Option String)}
    (h : readAnswer Table.tableName? answer = result) : valueTable.failsOn answer = !result.isOk :=
  failsOn_eq (fun _ => rfl) h

theorem failsOn_variableValues {answer : Except DatabaseFault Table}
    {result : Except DatabaseFault (List Json)}
    (h : readAnswer (fun t => t.rows.mapM (Service.variableValue? t)) answer = result) :
    variableValues.failsOn answer = !result.isOk :=
  failsOn_eq (fun _ => rfl) h

@[simp]
theorem failsOn_filter (answer : Except DatabaseFault Table) :
    filter.failsOn answer = !answer.isOk := by
  cases answer <;> rfl

@[simp]
theorem failsOn_values (answer : Except DatabaseFault Table) :
    values.failsOn answer = !answer.isOk := by
  cases answer <;> rfl

end StatementKind

/-- The operation that reads what is asked for the entities. -/
def FollowUp.operation : FollowUp → Operation
  | series _ _ _ _ => .values
  | current _      => .variableValues

theorem FollowUp.operation_ne_filter (f : FollowUp) : f.operation ≠ .filter := by
  cases f <;> simp [operation]

/-- The operation of a plan. -/
def Plan.operation (p : Plan) : Operation :=
  (p.followUp.map FollowUp.operation).getD .filter

/-- What is counted of calls. -/
def Database.callEvents (d : Database) (ss : List Statement) : List Observation :=
  (d.outcomes ss).map fun c => .statement c.1 c.2

theorem Database.callEvents_append (d : Database) (ss ts : List Statement) :
    d.callEvents (ss ++ ts) = d.callEvents ss ++ (d.after ss.length).callEvents ts := by
  rw [callEvents, outcomes_append, List.map_append]
  rfl

theorem Database.callEvents_one (d : Database) (s : Statement) :
    d.callEvents [s] = [.statement s.kind (s.kind.failsOn (d.answerAt 0))] := rfl

theorem Database.callEvents_two (d : Database) (s t : Statement) :
    d.callEvents [s, t] = [.statement s.kind (s.kind.failsOn (d.answerAt 0)),
      .statement t.kind (t.kind.failsOn (d.answerAt 1))] := rfl

namespace Service

open StatementKind (failsOn_orgVisibility failsOn_valueTable failsOn_variableValues failsOn_filter
  failsOn_values)

variable {s : Service} {userId orgId : Int} {c : CompiledQuery} {d : Database}
  {ss : List Statement} {os : List Observation}

/-- To find the entities, calls are counted and nothing else. -/
theorem Matches.events_eq {result : Except Failure (List Entity)}
    (h : s.Matches userId orgId c d result ss os) : os = d.callEvents ss := by
  cases h with
  | untold h | denied h =>
      rw [Database.callEvents_one, visibilityStatement, failsOn_orgVisibility h]
      rfl
  | failed h hanswer | unreadable h hanswer _ | found h hanswer _ =>
      rw [Database.callEvents_two, visibilityStatement, CompiledQuery.statement,
        failsOn_orgVisibility h, failsOn_filter, hanswer]
      rfl

/-- To read more for the entities, calls are counted, and then what is found. -/
theorem Follows.events_eq {ids : List Int} {f : FollowUp} {result : Except Failure (List Json)}
    (h : s.Follows orgId d ids f result ss os) :
    os = d.callEvents ss ++ resultEvents f.operation result := by
  cases h with
  | untold h | unnamed h | unusable h _ =>
      rw [Database.callEvents_one, tableStatement, failsOn_valueTable h]
      rfl
  | seriesFailed h _ hanswer | seriesUnreadable h _ hanswer _ | series h _ hanswer _ =>
      rw [Database.callEvents_two, tableStatement, seriesStatement, failsOn_valueTable h,
        failsOn_values, hanswer]
      rfl
  | currentFailed h | current h =>
      rw [Database.callEvents_one, currentStatement, failsOn_variableValues h]
      rfl

end Service

namespace Plan

variable {p : Plan} {s : Service} {d : Database}

/-- No two statements of a plan are of one kind. -/
theorem nodup_kinds (p : Plan) (s : Service) (d : Database) :
    ((p.statements s d).map Statement.kind).Nodup := by
  obtain ⟨userId, orgId, c, followUp⟩ := p
  match followUp with
  | none => simp [statements, Service.visibilityStatement, CompiledQuery.statement]
  | some (.current tag) =>
      simp [statements, followUpStatements, Service.visibilityStatement, CompiledQuery.statement,
        Service.currentStatement]
  | some (.series labels b first last) =>
      rw [statements, Option.map_some, Option.getD_some, followUpStatements]
      split
      · split <;> simp [Service.visibilityStatement, CompiledQuery.statement,
          Service.tableStatement, Service.seriesStatement]
      · simp [Service.visibilityStatement, CompiledQuery.statement, Service.tableStatement]

theorem Puts.nodup_kinds {ss : List Statement} (h : p.Puts s d ss) :
    (ss.map Statement.kind).Nodup :=
  (p.nodup_kinds s d).sublist (h.isPrefix.sublist.map Statement.kind)

/-- The account of a course: its calls, and the results if the plan ends well with them. -/
theorem Course.events_eq {result : Except Failure Content} {ss : List Statement}
    {os : List Observation} (h : p.Course s d result ss os) :
    ∃ results, os = (Account.mk (some (.ok p.compiled)) (d.outcomes ss) results).events
        s.compiler.options.kindSource ∧
      results.map Prod.fst = if result.isOk ∧ (p.operation ≠ .filter → p.ids d ≠ []) then
        some p.operation else none := by
  cases h with
  | @entities _ _ _ found _ _ h =>
      obtain rfl := h.events_eq
      cases found with
      | error e => exact ⟨none, by rfl, rfl⟩
      | ok found => exact ⟨some (.filter, found.length), by rfl, rfl⟩
  | @followed _ _ _ f result _ _ h =>
      cases h with
      | unmatched h =>
          obtain rfl := h.events_eq
          exact ⟨none, (List.append_nil _).symm, rfl⟩
      | empty h hids =>
          obtain rfl := h.events_eq
          obtain ⟨-, -, t, rows, hanswer, hrows, rfl⟩ := h.of_ok
          exact ⟨none, (List.append_nil _).symm, by
            simp [ids, hanswer, hrows, hids, operation, f.operation_ne_filter]⟩
      | followed h hids hfollows =>
          obtain rfl := h.events_eq
          obtain rfl := hfollows.events_eq
          obtain ⟨-, -, t, rows, hanswer, hrows, rfl⟩ := h.of_ok
          rw [← List.append_assoc, ← List.append_assoc, List.append_assoc _ (d.callEvents _),
            ← Database.callEvents_append]
          cases result with
          | error e => exact ⟨none, by rfl, rfl⟩
          | ok values =>
              refine ⟨some (f.operation, values.length), by rfl, ?_⟩
              simp [ids, hanswer, hrows, hids, operation, Except.map, Except.isOk, Except.toBool]

end Plan

end EntityFilter
