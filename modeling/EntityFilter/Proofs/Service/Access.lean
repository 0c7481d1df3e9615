import Mathlib
import EntityFilter.Proofs.Query.Statements
import EntityFilter.Proofs.Service.Courses
import EntityFilter.Proofs.Service.Grouping
import EntityFilter.Service.Http

/-!
# The database is asked by a plan

A request passes the checks of its operation (`App.Passes`), or is refused without the database
(`App.passes_or_refuses`); if its filter is compiled as well, it is admitted (`App.Admits`).

A request that is admitted has a plan: whether the user belongs to the organisation is asked first,
then the filter's statement is sent, and then what is asked for the entities.  `Plan.statements`
lists all of it, with what the earlier answers put into the later statements.

**What is sent follows the plan** (`App.access_planned`).  Nothing is sent for a request that is not
admitted, and each statement of the plan only if the answers before it allow it; so whatever a
client gets to see of entities was asked for by a user who belongs to their organisation.
-/

namespace EntityFilter

open Session (Refusal Refuses Runs readAnswer)

/-! ### Plans -/

/-- The user that a header names: a plain text which is an integer of 64 bits, with blanks around
it. -/
def HttpRequest.NamesUser (r : HttpRequest) (header : String) (userId : Int) : Prop :=
  ∃ value, r.header? header = some value ∧ Text.isPlainValue value ∧
    Text.int64? (Text.trim value).toList = some userId

/-- What the database is asked for a request. -/
structure Plan where
  userId : Int
  orgId : Int
  compiled : CompiledQuery
  /-- What is asked for the entities. -/
  followUp : Option FollowUp

/-- The request is good at the route: it names a user, its body is read and checked, and its filter
is compiled for the user and the organisation. -/
inductive App.Admits (app : App) (r : HttpRequest) : Route → Plan → Prop
  | filter {userId : Int} {request : FilterRequest} {compiled : CompiledQuery}
      (huser : r.NamesUser app.settings.auth.userHeader userId)
      (hbody : r.read app.settings.server.maxRequestBodySize FilterRequest.read = .ok request)
      (hcheck : request.check = .ok ())
      (hcompile : (app.service.query userId request).compile app.service.compiler = .ok compiled) :
      Admits app r .filter ⟨userId, request.orgId, compiled, none⟩
  | values {userId : Int} {request : ValuesRequest} {first last : Instant}
      {bucketing : Option Bucketing} {compiled : CompiledQuery}
      (huser : r.NamesUser app.settings.auth.userHeader userId)
      (hbody : r.read app.settings.server.maxRequestBodySize ValuesRequest.read = .ok request)
      (hcheck : request.check = .ok ()) (hrange : request.range = .ok (first, last))
      (hbucketing : request.bucketing = .ok bucketing)
      (hcompile : (app.service.query userId request.filter.untagged).compile
        app.service.compiler = .ok compiled) :
      Admits app r .values ⟨userId, request.filter.orgId, compiled,
        some (.series request.labelTags bucketing first last)⟩
  | variableValues {userId : Int} {request : VariableValuesRequest} {compiled : CompiledQuery}
      (huser : r.NamesUser app.settings.auth.userHeader userId)
      (hbody : r.read app.settings.server.maxRequestBodySize VariableValuesRequest.read =
        .ok request)
      (hcheck : request.check = .ok ())
      (hcompile : (app.service.query userId request.filter.untagged).compile
        app.service.compiler = .ok compiled) :
      Admits app r .variableValues ⟨userId, request.filter.orgId, compiled,
        some (.current request.tag)⟩

/-- The route of an operation. -/
def Operation.route : Operation → Route
  | filter         => .filter
  | values         => .values
  | variableValues => .variableValues

theorem Operation.reads_route (op : Operation) : op.route.reads = false := by
  cases op <;> rfl

theorem Operation.exists_route {route : Route} (h : route.reads = false) :
    ∃ op : Operation, op.route = route := by
  cases route with
  | health | metrics => cases h
  | filter => exact ⟨.filter, rfl⟩
  | values => exact ⟨.values, rfl⟩
  | variableValues => exact ⟨.variableValues, rfl⟩

/-- The request passes all checks of the operation: it names a user, its body is read and checked,
and for time series so are its dates and how they are aggregated.  The query that it asks for is
then to be compiled. -/
inductive App.Passes (app : App) (r : HttpRequest) : Operation → Query → Prop
  | filter {userId : Int} {request : FilterRequest}
      (huser : r.NamesUser app.settings.auth.userHeader userId)
      (hbody : r.read app.settings.server.maxRequestBodySize FilterRequest.read = .ok request)
      (hcheck : request.check = .ok ()) :
      Passes app r .filter (app.service.query userId request)
  | values {userId : Int} {request : ValuesRequest} {range : Instant × Instant}
      {bucketing : Option Bucketing} (huser : r.NamesUser app.settings.auth.userHeader userId)
      (hbody : r.read app.settings.server.maxRequestBodySize ValuesRequest.read = .ok request)
      (hcheck : request.check = .ok ()) (hrange : request.range = .ok range)
      (hbucketing : request.bucketing = .ok bucketing) :
      Passes app r .values (app.service.query userId request.filter.untagged)
  | variableValues {userId : Int} {request : VariableValuesRequest}
      (huser : r.NamesUser app.settings.auth.userHeader userId)
      (hbody : r.read app.settings.server.maxRequestBodySize VariableValuesRequest.read =
        .ok request)
      (hcheck : request.check = .ok ()) :
      Passes app r .variableValues (app.service.query userId request.filter.untagged)

/-- The first statement is answered with a truth value. -/
def Database.Tells (d : Database) (visible : Bool) : Prop :=
  ∃ t cells rows, d.answerAt 0 = .ok t ∧ t.rows = (.bool visible :: cells) :: rows

namespace Plan

/-- The numbers of the entities in the answer to the filter's statement. -/
def ids (p : Plan) (d : Database) : List Int :=
  match d.answerAt 1 with
  | .error _ => []
  | .ok t    =>
    match t.toJson? with
    | none      => []
    | some rows =>
      (Entity.ofRows p.compiled.selection p.compiled.columns rows).filterMap Entity.number?

/-- The statements for what is asked of the entities with the numbers `ids`.  That for time series
needs the table that the database names. -/
def followUpStatements (s : Service) (orgId : Int) (ids : List Int) (d : Database) :
    FollowUp → List Statement
  | .current tag => [s.currentStatement tag ids]
  | .series labelTags bucketing first last =>
    s.tableStatement orgId :: match readAnswer Table.tableName? (d.answerAt 0) with
      | .ok (some name) =>
        match (s.seriesQuery labelTags bucketing name).sql with
        | .ok sql  => [Service.seriesStatement sql ids first last]
        | .error _ => []
      | _ => []

/-- All statements of the plan, in their order. -/
def statements (p : Plan) (s : Service) (d : Database) : List Statement :=
  s.visibilityStatement p.userId p.orgId :: p.compiled.statement ::
    (p.followUp.map (followUpStatements s p.orgId (p.ids d) (d.after 2))).getD []

end Plan

/-! ### Answers -/

theorem Session.readAnswer_eq_ok_iff {α : Type} {read? : Table → Option α}
    {answer : Except DatabaseFault Table} {a : α} :
    readAnswer read? answer = .ok a ↔ ∃ t, answer = .ok t ∧ read? t = some a := by
  cases answer with
  | error fault => simp [readAnswer, Except.bind]
  | ok t => cases h : read? t <;> simp [readAnswer, Except.bind, h]

theorem Table.truth?_eq_some_iff {t : Table} {b : Bool} :
    t.truth? = some b ↔ ∃ cells rows, t.rows = (.bool b :: cells) :: rows := by
  obtain ⟨columns, rows⟩ := t
  match rows with
  | [] | [] :: rows => simp [truth?]
  | (cell :: cells) :: rows => cases cell <;> simp [truth?, Cell.asBool?]

theorem Table.tableName?_eq_some_iff {t : Table} {name : String} :
    t.tableName? = some (some name) ↔ ∃ cells rows, t.rows = (.text name :: cells) :: rows := by
  obtain ⟨columns, rows⟩ := t
  match rows with
  | [] | [] :: rows => simp [tableName?]
  | (cell :: cells) :: rows => cases cell <;> simp [tableName?, Cell.asText?]

theorem Database.tells_iff {d : Database} {b : Bool} :
    d.Tells b ↔ readAnswer Table.truth? (d.answerAt 0) = .ok b := by
  rw [Session.readAnswer_eq_ok_iff]
  simp only [Table.truth?_eq_some_iff]
  constructor
  · rintro ⟨t, cells, rows, hanswer, hrows⟩
    exact ⟨t, hanswer, cells, rows, hrows⟩
  · rintro ⟨t, hanswer, cells, rows, hrows⟩
    exact ⟨t, cells, rows, hanswer, hrows⟩

theorem Database.Tells.unique {d : Database} {a b : Bool} (ha : d.Tells a) (hb : d.Tells b) :
    a = b :=
  Except.ok.inj ((tells_iff.mp ha).symm.trans (tells_iff.mp hb))

theorem Database.not_tells_of_refuses {e : DatabaseError} {b : Bool} : ¬ (refuses e).Tells b := by
  rintro ⟨t, cells, rows, hanswer, -⟩
  cases hanswer

theorem Database.length_receives {rs : List Reply} (ss : List Statement) :
    ((replies rs).receives ss).length = ss.length := by
  rw [receives, List.length_mapIdx]

theorem Database.receives_prefix {ss ts : List Statement} (d : Database) (h : ss <+: ts) :
    d.receives ss <+: d.receives ts := by
  obtain ⟨rest, rfl⟩ := h
  rw [receives_append]
  exact List.prefix_append _ _

/-! ### Entities and their rows -/

theorem Entity.number?_eq_some_iff {e : Entity} {n : Int} :
    e.number? = some n ↔ e.id = .int n ∧ Text.isInt64 n := by
  obtain ⟨id, tags⟩ := e
  cases id with
  | int m =>
      rw [number?]
      simp only [Option.ite_none_right_eq_some, Option.some.injEq, Json.int.injEq]
      constructor
      · rintro ⟨hrange, rfl⟩
        exact ⟨rfl, hrange⟩
      · rintro ⟨rfl, hrange⟩
        exact ⟨hrange, rfl⟩
  | _ => simp [number?]

/-- Entities with numbers come from rows whose first cells are integers of 64 bits. -/
theorem Plan.exists_row_of_ids {p : Plan} {d : Database} (h : p.ids d ≠ []) :
    ∃ t rows, d.answerAt 1 = .ok t ∧ t.toJson? = some rows ∧
      ∃ row ∈ rows, ∃ n, row.head? = some (.int n) ∧ Text.isInt64 n := by
  rw [ids] at h
  split at h
  · exact absurd rfl h
  · rename_i t hanswer
    split at h
    · exact absurd rfl h
    · rename_i rows hrows
      obtain ⟨n, hn⟩ := List.exists_mem_of_ne_nil _ h
      obtain ⟨e, he, hnumber⟩ := List.mem_filterMap.mp hn
      obtain ⟨row, hrow, hhead⟩ := (Entity.grouped_ofRows _ _ rows).exists_row he
      obtain ⟨hid, hrange⟩ := Entity.number?_eq_some_iff.mp hnumber
      exact ⟨t, rows, hanswer, hrows, row, hrow, n, hid ▸ hhead, hrange⟩

/-! ### Statements that are put to the database -/

/-- The statements `ss` are put to the database, as far as the answers allow it. -/
structure Plan.Puts (p : Plan) (s : Service) (d : Database) (ss : List Statement) : Prop where
  isPrefix : ss <+: p.statements s d
  ne_nil : ss ≠ []
  second_iff : 2 ≤ ss.length ↔ d.Tells true
  third_iff : 3 ≤ ss.length ↔ d.Tells true ∧ p.followUp.isSome ∧ p.ids d ≠ []
  rest : 3 ≤ ss.length → ss = p.statements s d

namespace Plan

variable {p : Plan} {s : Service} {d : Database}

theorem puts_first (h : ¬ d.Tells true) :
    p.Puts s d [s.visibilityStatement p.userId p.orgId] where
  isPrefix := ⟨_, rfl⟩
  ne_nil := List.cons_ne_nil _ _
  second_iff := by simp [h]
  third_iff := by simp [h]
  rest hlength := by simp at hlength

theorem puts_second (h : d.Tells true) (hrest : p.followUp = none ∨ p.ids d = []) :
    p.Puts s d [s.visibilityStatement p.userId p.orgId, p.compiled.statement] where
  isPrefix := ⟨_, rfl⟩
  ne_nil := List.cons_ne_nil _ _
  second_iff := by simp [h]
  third_iff := by rcases hrest with hrest | hrest <;> simp [h, hrest]
  rest hlength := by simp at hlength

theorem followUpStatements_ne_nil (s : Service) (orgId : Int) (ids : List Int) (d : Database)
    (f : FollowUp) : followUpStatements s orgId ids d f ≠ [] := by
  cases f <;> simp [followUpStatements]

theorem puts_all {f : FollowUp} (h : d.Tells true) (hf : p.followUp = some f)
    (hids : p.ids d ≠ []) : p.Puts s d (p.statements s d) where
  isPrefix := List.prefix_refl _
  ne_nil := List.cons_ne_nil _ _
  second_iff := by simp [h, statements]
  third_iff := by
    have hpos := List.length_pos_iff.mpr
      (followUpStatements_ne_nil s p.orgId (p.ids d) (d.after 2) f)
    have hlength : 3 ≤ (p.statements s d).length := by
      simpa [statements, hf, Nat.succ_le_iff] using hpos
    exact ⟨fun _ => ⟨h, by simp [hf], hids⟩, fun _ => hlength⟩
  rest _ := rfl

/-- Nothing follows a first answer that is no. -/
theorem Puts.length_eq_one {ss : List Statement} (h : p.Puts s d ss) (hfalse : d.Tells false) :
    ss.length = 1 := by
  have hshort : ¬ 2 ≤ ss.length := fun hlong => nomatch hfalse.unique (h.second_iff.mp hlong)
  have hpos := List.length_pos_iff.mpr h.ne_nil
  omega

end Plan

namespace Service

variable {s : Service} {userId orgId : Int} {c : CompiledQuery} {d : Database} {f : FollowUp}
  {ss : List Statement} {os : List Observation}

theorem Follows.statements_eq {ids : List Int} {result : Except Failure (List Json)}
    (h : s.Follows orgId d ids f result ss os) : ss = Plan.followUpStatements s orgId ids d f := by
  cases h with
  | untold h | unnamed h => simp [Plan.followUpStatements, h]
  | unusable h hsql | seriesFailed h hsql _ | seriesUnreadable h hsql _ _ | series h hsql _ _ =>
      simp [Plan.followUpStatements, h, hsql]
  | currentFailed h | current h => rfl

/-- Entities are found only if the user belongs to the organisation, and in the rows that the
filter's statement is answered with. -/
theorem Matches.of_ok {found : List Entity} (h : s.Matches userId orgId c d (.ok found) ss os) :
    d.Tells true ∧ ss = [s.visibilityStatement userId orgId, c.statement] ∧
      ∃ t rows, d.answerAt 1 = .ok t ∧ t.toJson? = some rows ∧
        found = Entity.ofRows c.selection c.columns rows := by
  cases h with
  | found h hanswer hrows => exact ⟨Database.tells_iff.mpr h, rfl, _, _, hanswer, hrows, rfl⟩

/-- Where none are found, either nothing is asked behind the first answer or the second one has no
entities. -/
theorem Matches.of_error {e : Failure} (h : s.Matches userId orgId c d (.error e) ss os) :
    (¬ d.Tells true ∧ ss = [s.visibilityStatement userId orgId]) ∨
    (d.Tells true ∧ ss = [s.visibilityStatement userId orgId, c.statement] ∧
      ∀ followUp, (Plan.mk userId orgId c followUp).ids d = []) := by
  simp only [Database.tells_iff, Plan.ids]
  cases h with
  | untold h => exact .inl ⟨by simp [h], rfl⟩
  | denied h => exact .inl ⟨by simp [h], rfl⟩
  | failed h hanswer => exact .inr ⟨h, rfl, by simp [hanswer]⟩
  | unreadable h hanswer hrows => exact .inr ⟨h, rfl, by simp [hanswer, hrows]⟩

/-- A user who does not belong to the organisation is denied access. -/
theorem Matches.of_tells_false {result : Except Failure (List Entity)}
    (h : s.Matches userId orgId c d result ss os) (hfalse : d.Tells false) :
    result = .error (.accessDenied userId orgId) := by
  rw [Database.tells_iff] at hfalse
  cases h with
  | denied h => rfl
  | untold h | failed h _ | unreadable h _ _ | found h _ _ => cases h.symm.trans hfalse

theorem Matches.puts {result : Except Failure (List Entity)}
    (h : s.Matches userId orgId c d result ss os) : (Plan.mk userId orgId c none).Puts s d ss := by
  cases result with
  | ok found =>
      obtain ⟨htrue, rfl, -⟩ := h.of_ok
      exact Plan.puts_second htrue (.inl rfl)
  | error e =>
      rcases h.of_error with ⟨hfalse, rfl⟩ | ⟨htrue, rfl, -⟩
      · exact Plan.puts_first hfalse
      · exact Plan.puts_second htrue (.inl rfl)

theorem Answers.puts {result : Except Failure (List Json)}
    (h : s.Answers userId orgId c d f result ss os) :
    (Plan.mk userId orgId c (some f)).Puts s d ss := by
  cases h with
  | unmatched h =>
      rcases h.of_error with ⟨hfalse, rfl⟩ | ⟨htrue, rfl, hids⟩
      · exact Plan.puts_first hfalse
      · exact Plan.puts_second htrue (.inr (hids _))
  | empty h hids =>
      obtain ⟨htrue, rfl, t, rows, hanswer, hrows, rfl⟩ := h.of_ok
      exact Plan.puts_second htrue (.inr (by simpa [Plan.ids, hanswer, hrows] using hids))
  | followed h hids hfollows =>
      obtain ⟨htrue, rfl, t, rows, hanswer, hrows, rfl⟩ := h.of_ok
      obtain rfl := hfollows.statements_eq
      have hsome : (Plan.mk userId orgId c (some f)).ids d =
          (Entity.ofRows c.selection c.columns rows).filterMap Entity.number? := by
        simp [Plan.ids, hanswer, hrows]
      rw [← hsome] at hids ⊢
      exact Plan.puts_all htrue rfl hids

/-- A result that is not empty takes entities with numbers. -/
theorem Answers.of_cons {v : Json} {vs : List Json}
    (h : s.Answers userId orgId c d f (.ok (v :: vs)) ss os) :
    d.Tells true ∧ (Plan.mk userId orgId c (some f)).ids d ≠ [] := by
  cases h with
  | followed h hids _ =>
      obtain ⟨htrue, -, t, rows, hanswer, hrows, rfl⟩ := h.of_ok
      exact ⟨htrue, by simpa [Plan.ids, hanswer, hrows] using hids⟩

theorem Answers.of_tells_false {result : Except Failure (List Json)}
    (h : s.Answers userId orgId c d f result ss os) (hfalse : d.Tells false) :
    result = .error (.accessDenied userId orgId) := by
  cases h with
  | unmatched h => exact congrArg _ (Except.error.inj (h.of_tells_false hfalse))
  | empty h _ | followed h _ _ => cases h.of_tells_false hfalse

end Service

/-- Where the plan leads to: what is put to the database, and what comes of it. -/
structure Plan.Leads (p : Plan) (s : Service) (d : Database) (ss : List Statement)
    (result : Except Failure Content) : Prop where
  puts : p.Puts s d ss
  denied : d.Tells false → result = .error (.accessDenied p.userId p.orgId)
  found : ∀ v vs, result = .ok (.json (.arr (v :: vs))) → d.Tells true ∧
    (∃ t rows, d.answerAt 1 = .ok t ∧ t.toJson? = some rows ∧ rows ≠ []) ∧ ss = p.statements s d

namespace Service

variable {s : Service} {userId orgId : Int} {c : CompiledQuery} {d : Database} {f : FollowUp}
  {ss : List Statement} {os : List Observation}

theorem Matches.leads {result : Except Failure (List Entity)}
    (h : s.Matches userId orgId c d result ss os) : (Plan.mk userId orgId c none).Leads s d ss
      ((result.map (List.map Entity.toJson)).map fun vs => .json (.arr vs)) where
  puts := h.puts
  denied hfalse := by
    rw [h.of_tells_false hfalse]
    rfl
  found v vs hresult := by
    cases result with
    | error e => cases hresult
    | ok entities =>
        obtain ⟨htrue, rfl, t, rows, hanswer, hrows, rfl⟩ := h.of_ok
        refine ⟨htrue, ⟨t, rows, hanswer, hrows, ?_⟩, rfl⟩
        rintro rfl
        cases hresult

theorem Answers.leads {result : Except Failure (List Json)}
    (h : s.Answers userId orgId c d f result ss os) :
    (Plan.mk userId orgId c (some f)).Leads s d ss
      (result.map fun vs => .json (.arr vs)) where
  puts := h.puts
  denied hfalse := by
    rw [h.of_tells_false hfalse]
    rfl
  found v vs hresult := by
    cases result with
    | error e => cases hresult
    | ok values =>
        cases hresult
        obtain ⟨htrue, hids⟩ := h.of_cons
        obtain ⟨t, rows, hanswer, hrows, row, hrow, -⟩ := Plan.exists_row_of_ids hids
        exact ⟨htrue, ⟨t, rows, hanswer, hrows, List.ne_nil_of_mem hrow⟩,
          h.puts.rest (h.puts.third_iff.mpr ⟨htrue, rfl, hids⟩)⟩

end Service

/-! ### Requests -/

theorem Failure.status_ne_ok (f : Failure) : f.status ≠ 200 := by
  cases f with
  | query e =>
      rw [status]
      split <;> decide
  | _ => simp [status]

theorem HttpRequest.userId_eq_ok_iff {r : HttpRequest} {header : String} {userId : Int} :
    r.userId header = .ok userId ↔ r.NamesUser header userId := by
  rw [HttpRequest.userId, NamesUser]
  cases r.header? header with
  | none => simp
  | some value =>
      by_cases hplain : Text.isPlainValue value
      · cases hnumber : Text.int64? (Text.trim value).toList <;> simp [hplain, hnumber]
      · simp [hplain]

/-- Where no user is named, the failure is that the user is not known. -/
theorem HttpRequest.userId_eq_error {r : HttpRequest} {header : String}
    (h : ¬ ∃ userId, r.NamesUser header userId) :
    ∃ reason, r.userId header = .error (.unauthorized reason) := by
  simp only [← userId_eq_ok_iff] at h
  rw [HttpRequest.userId] at h ⊢
  split
  · exact ⟨_, rfl⟩
  · rename_i value hvalue
    simp only [hvalue] at h
    split
    · rename_i hplain
      dsimp only
      split
      · rename_i userId hnumber
        exact absurd ⟨userId, by simp [hplain, hnumber]⟩ h
      · exact ⟨_, rfl⟩
    · exact ⟨_, rfl⟩

theorem HttpRequest.refusal_of_userId {r : HttpRequest} {header : String} {e : Failure}
    (h : r.userId header = .error e) : Refusal e [] := by
  obtain ⟨reason, hreason⟩ : ∃ reason, r.userId header = .error (.unauthorized reason) := by
    refine userId_eq_error fun hnamed => ?_
    obtain ⟨userId, huser⟩ := hnamed
    cases h.symm.trans (userId_eq_ok_iff.mpr huser)
  exact Except.error.inj (hreason.symm.trans h) ▸ .unauthorized reason

theorem HttpRequest.refusal_of_read {α : Type} {r : HttpRequest} {limit : Nat}
    {decode : Draft → Except BodyFault α} {e : Failure} (h : r.read limit decode = .error e) :
    Refusal e [] := by
  rw [HttpRequest.read] at h
  split at h
  · exact Except.error.inj h ▸ .invalid _
  · split at h
    · exact Except.error.inj h ▸ .invalid _
    · cases hdecode : decode (Draft.ofText r.body) with
      | error fault =>
          rw [hdecode] at h
          exact Except.error.inj h ▸ .invalid _
      | ok request =>
          rw [hdecode] at h
          cases h

/-- How an admitted request is answered, by what the database answers: the result, the statements
that are put to it and the events. -/
inductive Plan.Course (s : Service) (d : Database) :
    Plan → Except Failure Content → List Statement → List Observation → Prop
  | entities {userId orgId : Int} {c : CompiledQuery} {found : Except Failure (List Entity)}
      {ss : List Statement} {os : List Observation} (h : s.Matches userId orgId c d found ss os) :
      Course s d ⟨userId, orgId, c, none⟩
        ((found.map (List.map Entity.toJson)).map fun vs => .json (.arr vs)) ss
        (s.compilationEvents c ++ os ++ Service.resultEvents .filter found)
  | followed {userId orgId : Int} {c : CompiledQuery} {f : FollowUp}
      {result : Except Failure (List Json)} {ss : List Statement} {os : List Observation}
      (h : s.Answers userId orgId c d f result ss os) :
      Course s d ⟨userId, orgId, c, some f⟩ (result.map fun vs => .json (.arr vs)) ss
        (s.compilationEvents c ++ os)

theorem Plan.Course.leads {p : Plan} {s : Service} {d : Database}
    {result : Except Failure Content} {ss : List Statement} {os : List Observation}
    (h : p.Course s d result ss os) : p.Leads s d ss result := by
  cases h with
  | entities h => exact h.leads
  | followed h => exact h.leads

namespace App

variable {app : App} {r : HttpRequest} {route : Route} {op : Operation} {d : Database}
  {ss : List Statement} {os : List Observation}

theorem runs_operate {α : Type} {decode : Draft → Except BodyFault α}
    {answer : Int → α → Session (List Json)} {userId : Int} {request : α}
    {result : Except Failure (List Json)}
    (huser : r.NamesUser app.settings.auth.userHeader userId)
    (hbody : r.read app.settings.server.maxRequestBodySize decode = .ok request)
    (h : Runs (answer userId request) d result ss os) :
    Runs (Content.json <$> app.operate r decode answer) d
      (result.map fun vs => Content.json (.arr vs)) ss os := by
  have huser := HttpRequest.userId_eq_ok_iff.mpr huser
  have hoperate : Runs (app.operate r decode answer) d (result.map Json.arr) ss os :=
    (Runs.lift huser).bind_offline ((Runs.lift hbody).bind_offline (h.map Json.arr))
  cases result with
  | ok vs => exact hoperate.map Content.json
  | error e => exact hoperate.map Content.json

/-- **An admitted request runs the course of its plan.** -/
theorem Admits.exists_course {plan : Plan} (h : app.Admits r route plan) (d : Database) :
    ∃ result ss os, Runs (app.answer r route) d result ss os ∧
      plan.Course app.service d result ss os := by
  cases h with
  | @filter userId request compiled huser hbody hcheck hcompile =>
      obtain ⟨found, ss, os, hmatches⟩ :=
        app.service.exists_matches userId request.orgId compiled d
      have hfilter := (hmatches.runs_filter hcheck hcompile).map (List.map Entity.toJson)
      exact ⟨_, ss, _, runs_operate huser hbody hfilter, .entities hmatches⟩
  | @values userId request first last bucketing compiled huser hbody hcheck hrange hbucketing
      hcompile =>
      obtain ⟨result, ss, os, hanswers⟩ := app.service.exists_answers userId request.filter.orgId
        compiled d (.series request.labelTags bucketing first last)
      exact ⟨_, ss, _, runs_operate huser hbody
        (hanswers.runs_values hcheck hrange hbucketing hcompile), .followed hanswers⟩
  | @variableValues userId request compiled huser hbody hcheck hcompile =>
      obtain ⟨result, ss, os, hanswers⟩ := app.service.exists_answers userId request.filter.orgId
        compiled d (.current request.tag)
      exact ⟨_, ss, _, runs_operate huser hbody (hanswers.runs_variableValues hcheck hcompile),
        .followed hanswers⟩

/-- An admitted request leads where its plan does. -/
theorem Admits.runs {plan : Plan} (h : app.Admits r route plan) (d : Database) :
    ∃ result ss os, Runs (app.answer r route) d result ss os ∧
      plan.Leads app.service d ss result := by
  obtain ⟨result, ss, os, hruns, hcourse⟩ := h.exists_course d
  exact ⟨result, ss, os, hruns, hcourse.leads⟩

/-- A request whose query is compiled is admitted. -/
theorem Passes.exists_admits {q : Query} {c : CompiledQuery} (h : app.Passes r op q)
    (hcompile : q.compile app.service.compiler = .ok c) : ∃ plan, app.Admits r op.route plan := by
  cases h with
  | filter huser hbody hcheck => exact ⟨_, .filter huser hbody hcheck hcompile⟩
  | values huser hbody hcheck hrange hbucketing =>
      exact ⟨_, .values huser hbody hcheck hrange hbucketing hcompile⟩
  | variableValues huser hbody hcheck =>
      exact ⟨_, .variableValues huser hbody hcheck hcompile⟩

/-- If the query is not compiled, nothing but that is counted. -/
theorem Passes.runs_error {q : Query} {e : QueryError} (h : app.Passes r op q)
    (hcompile : q.compile app.service.compiler = .error e) (d : Database) :
    Runs (app.answer r op.route) d (.error (.query e)) [] [.compilation (some e)] := by
  cases h with
  | @filter userId request huser hbody hcheck =>
      have hfilter : Runs (app.service.filter userId request) d (.error (.query e)) []
          [.compilation (some e)] :=
        (Service.runs_matching_error hcheck hcompile).bind_error
      have hanswer : Runs (app.answer r .filter) d _ [] _ :=
        runs_operate huser hbody (hfilter.map (List.map Entity.toJson))
      exact hanswer
  | @values userId request range bucketing huser hbody hcheck hrange hbucketing =>
      have hvalues : Runs (app.service.values userId request) d (.error (.query e)) []
          [.compilation (some e)] := by
        rw [Service.values_eq]
        exact (Runs.lift hcheck).bind_offline ((Runs.lift hrange).bind_offline
          ((Runs.lift hbucketing).bind_offline
            (Service.runs_pursue_error (request.check_filter hcheck) hcompile)))
      exact runs_operate huser hbody hvalues
  | @variableValues userId request huser hbody hcheck =>
      have hvalues : Runs (app.service.variableValues userId request) d (.error (.query e)) []
          [.compilation (some e)] := by
        rw [Service.variableValues_eq]
        exact (Runs.lift hcheck).bind_offline
          (Service.runs_pursue_error (request.check_filter hcheck) hcompile)
      exact runs_operate huser hbody hvalues

/-- The schema of a service is an identifier, so a query that is not compiled is refused. -/
theorem Passes.refuses {q : Query} {e : QueryError} (h : app.Passes r op q)
    (hcompile : q.compile app.service.compiler = .error e) :
    Refuses (app.answer r op.route) [.compilation (some e)] := by
  have hschema : Sql.isIdentifier q.schema := by
    cases h <;> exact app.service.isIdentifier
  exact ⟨_, .query (Query.isClientError_of_compile hschema hcompile), h.runs_error hcompile⟩

/-- What comes behind the user and the body decides, or the operation is refused. -/
theorem or_refuses_operate {P : Prop} {α : Type} {decode : Draft → Except BodyFault α}
    {answer : Int → α → Session (List Json)}
    (h : ∀ userId request, r.NamesUser app.settings.auth.userHeader userId →
      r.read app.settings.server.maxRequestBodySize decode = .ok request →
        P ∨ Refuses (answer userId request) []) :
    P ∨ Refuses (Content.json <$> app.operate r decode answer) [] := by
  cases huser : r.userId app.settings.auth.userHeader with
  | error e =>
      exact .inr (Refuses.lift huser (HttpRequest.refusal_of_userId huser)).bind.bind
  | ok userId =>
      cases hbody : r.read app.settings.server.maxRequestBodySize decode with
      | error e =>
          exact .inr (.bind (.behind huser
            (Refuses.lift hbody (HttpRequest.refusal_of_read hbody)).bind))
      | ok request =>
          refine (h userId request (HttpRequest.userId_eq_ok_iff.mp huser) hbody).imp_right ?_
          exact fun hrefused => .bind (.behind huser (.behind hbody hrefused.bind))

/-- **A request passes the checks, or is refused with nothing counted.** -/
theorem passes_or_refuses (app : App) (r : HttpRequest) (op : Operation) :
    (∃ q, app.Passes r op q) ∨ Refuses (app.answer r op.route) [] := by
  cases op with
  | filter =>
      refine or_refuses_operate fun userId request huser hbody => ?_
      cases hcheck : request.check with
      | error e => exact .inr (Refuses.lift hcheck (refusal_of_complain hcheck)).bind.bind.bind
      | ok => exact .inl ⟨_, .filter huser hbody hcheck⟩
  | values =>
      refine or_refuses_operate fun userId request huser hbody => ?_
      cases hcheck : request.check with
      | error e => exact .inr (Refuses.lift hcheck (refusal_of_complain hcheck)).bind
      | ok =>
          cases hrange : request.range with
          | error e =>
              exact .inr (.behind hcheck
                (Refuses.lift hrange (ValuesRequest.refusal_of_range hrange)).bind)
          | ok range =>
              cases hbucketing : request.bucketing with
              | error e =>
                  exact .inr (.behind hcheck (.behind hrange
                    (Refuses.lift hbucketing (ValuesRequest.refusal_of_bucketing hbucketing)).bind))
              | ok bucketing => exact .inl ⟨_, .values huser hbody hcheck hrange hbucketing⟩
  | variableValues =>
      refine or_refuses_operate fun userId request huser hbody => ?_
      cases hcheck : request.check with
      | error e => exact .inr (Refuses.lift hcheck (refusal_of_complain hcheck)).bind
      | ok => exact .inl ⟨_, .variableValues huser hbody hcheck⟩

/-- **A request is admitted, or refused without the database.** -/
theorem admits_or_refuses (app : App) (r : HttpRequest) (hroute : route.reads = false) :
    (∃ plan, app.Admits r route plan) ∨ ∃ os, Refuses (app.answer r route) os := by
  obtain ⟨op, rfl⟩ := Operation.exists_route hroute
  rcases app.passes_or_refuses r op with ⟨q, hq⟩ | hrefused
  · cases hcompile : q.compile app.service.compiler with
    | ok c => exact .inl (hq.exists_admits hcompile)
    | error e => exact .inr ⟨_, hq.refuses hcompile⟩
  · exact .inr ⟨[], hrefused⟩

theorem runs_answer_of_unnamed (hroute : route.reads = false)
    (h : ¬ ∃ userId, r.NamesUser app.settings.auth.userHeader userId) :
    ∃ reason, ∀ d, Runs (app.answer r route) d (.error (.unauthorized reason)) [] [] := by
  obtain ⟨reason, hreason⟩ := HttpRequest.userId_eq_error h
  refine ⟨reason, fun d => ?_⟩
  cases route with
  | health | metrics => cases hroute
  | filter | values | variableValues => exact (Runs.lift hreason).bind_error.map Content.json

/-- The routes hand the request on to the session. -/
theorem routed_of_runs {result : Except Failure Content} (hpost : r.method = "POST")
    (hroute : r.route? = some route) (hreads : route.reads = false)
    (h : Runs (app.answer r route) d result ss os) (seen : List Observation) :
    app.routed r ⟨d, [], seen⟩ =
      (response result, ⟨d.after ss.length, d.receives ss, seen ++ os⟩) := by
  have hmethods : "POST" ∈ route.methods := by
    simp [Route.methods, hreads]
  have hrun := h [] seen
  rw [List.nil_append] at hrun
  simp [routed, hroute, hpost, hmethods, hrun]

/-- The response is that of the session, and what was sent is what the session put. -/
theorem respond_of_runs {result : Except Failure Content} (id : String)
    (hpost : r.method = "POST") (hroute : r.route? = some route) (hreads : route.reads = false)
    (h : Runs (app.answer r route) d result ss os) :
    (app.respond r id d).1.status = (response result).status ∧
    (app.respond r id d).1.content = (response result).content ∧
    (app.respond r id d).2.sent = d.receives ss := by
  simp [respond, counted, hpost, routed_of_runs hpost hroute hreads h]

end App

/-! ### The plan is followed -/

/-- What is sent for a request follows its plan, and so does the response. -/
structure Plan.Governs (p : Plan) (s : Service) (d : Database) (response : HttpResponse)
    (sent : List SentStatement) : Prop where
  /-- Statements are sent in the order of the plan. -/
  sent_prefix : sent <+: d.receives (p.statements s d)
  /-- Every database that lets somebody in is asked. -/
  first_iff : sent ≠ [] ↔ ∃ replies, d = .replies replies
  /-- The filter's statement is sent only if the user belongs to the organisation. -/
  second_iff : 2 ≤ sent.length ↔ d.Tells true
  /-- If not, access is denied and nothing more is sent. -/
  denied : d.Tells false → response.status = 403 ∧ sent.length = 1
  /-- More is asked only for entities with numbers. -/
  third_iff : 3 ≤ sent.length ↔ d.Tells true ∧ p.followUp.isSome ∧ p.ids d ≠ []
  /-- Such numbers are integers of 64 bits in the first cells of rows that the filter's statement is
  answered with. -/
  third_rows : 3 ≤ sent.length → ∃ t rows, d.answerAt 1 = .ok t ∧ t.toJson? = some rows ∧
    ∃ row ∈ rows, ∃ n, row.head? = some (.int n) ∧ Text.isInt64 n
  /-- Then all of the plan is sent. -/
  rest : 3 ≤ sent.length → sent = d.receives (p.statements s d)
  /-- Time series are asked for only if the database names their table. -/
  fourth_named : 4 ≤ sent.length →
    ∃ t name cells rows, d.answerAt 2 = .ok t ∧ t.rows = (.text name :: cells) :: rows
  /-- A response with something found takes the whole plan: the user belongs to the organisation and
  the filter's statement is answered with rows. -/
  found : ∀ v vs, response.content = .json (.arr (v :: vs)) → response.status = 200 ∧
    d.Tells true ∧ (∃ t rows, d.answerAt 1 = .ok t ∧ t.toJson? = some rows ∧ rows ≠ []) ∧
    sent = d.receives (p.statements s d)

/-- The fourth statement takes the name of a table. -/
theorem Plan.named_of_four {p : Plan} {s : Service} {d : Database}
    (h : 4 ≤ (p.statements s d).length) :
    ∃ t name cells rows, d.answerAt 2 = .ok t ∧ t.rows = (.text name :: cells) :: rows := by
  rw [statements] at h
  match hf : p.followUp with
  | none => simp [hf] at h
  | some (.current tag) => simp [hf, followUpStatements] at h
  | some (.series labelTags bucketing first last) =>
      rw [hf, Option.map_some, Option.getD_some, followUpStatements] at h
      split at h
      · rename_i name hname
        obtain ⟨t, hanswer, hread⟩ := Session.readAnswer_eq_ok_iff.mp hname
        obtain ⟨cells, rows, hrows⟩ := Table.tableName?_eq_some_iff.mp hread
        exact ⟨t, name, cells, rows, d.answerAt_after 2 0 ▸ hanswer, hrows⟩
      · simp at h

/-- A response with an array is that of a session with this array. -/
theorem App.eq_ok_of_response {result : Except Failure Content} {vs : List Json}
    (h : (response result).content = .json (.arr vs)) : result = .ok (.json (.arr vs)) := by
  match result with
  | .ok (.json value) => exact congrArg _ h
  | .ok .counters | .ok .empty | .error f => cases h

/-- A database that lets nobody in is sent nothing. -/
theorem Plan.governs_of_refuses {p : Plan} {s : Service} {e : DatabaseError}
    {response : HttpResponse} (hfound : ∀ v vs, response.content ≠ .json (.arr (v :: vs))) :
    p.Governs s (.refuses e) response [] := by
  have htells : ∀ b, ¬ (Database.refuses e).Tells b := fun b => Database.not_tells_of_refuses
  exact
    { sent_prefix := List.nil_prefix
      first_iff := by simp
      second_iff := by simp [htells]
      denied := fun hfalse => absurd hfalse (htells false)
      third_iff := by simp [htells]
      third_rows := by simp
      rest := by simp
      fourth_named := by simp
      found := fun v vs hvs => absurd hvs (hfound v vs) }

theorem Plan.Leads.governs {p : Plan} {s : Service} {d : Database} {ss : List Statement}
    {result : Except Failure Content} {response : HttpResponse} (h : p.Leads s d ss result)
    (hstatus : response.status = (App.response result).status)
    (hcontent : response.content = (App.response result).content) :
    p.Governs s d response (d.receives ss) := by
  have hfound : ∀ v vs, response.content = .json (.arr (v :: vs)) → response.status = 200 ∧
      result = .ok (.json (.arr (v :: vs))) := by
    intro v vs hvs
    have hresult := App.eq_ok_of_response (hcontent ▸ hvs)
    exact ⟨by rw [hstatus, hresult]; rfl, hresult⟩
  cases d with
  | refuses e =>
      refine Plan.governs_of_refuses fun v vs hvs => ?_
      exact Database.not_tells_of_refuses (h.found v vs (hfound v vs hvs).2).1
  | replies rs =>
      -- every statement that is put is sent, so the gates on what is put are gates on what is sent
      have hlength : ((Database.replies rs).receives ss).length = ss.length :=
        Database.length_receives ss
      exact
        { sent_prefix := Database.receives_prefix _ h.puts.isPrefix
          first_iff := by
            rw [← List.length_pos_iff, hlength, List.length_pos_iff]
            exact ⟨fun _ => ⟨rs, rfl⟩, fun _ => h.puts.ne_nil⟩
          second_iff := hlength ▸ h.puts.second_iff
          denied := fun hfalse =>
            ⟨by rw [hstatus, h.denied hfalse]; rfl, hlength.trans (h.puts.length_eq_one hfalse)⟩
          third_iff := hlength ▸ h.puts.third_iff
          third_rows := fun hthird =>
            Plan.exists_row_of_ids (h.puts.third_iff.mp (hlength ▸ hthird)).2.2
          rest := fun hthird => congrArg _ (h.puts.rest (hlength ▸ hthird))
          fourth_named := fun hfourth =>
            Plan.named_of_four (Nat.le_trans (hlength ▸ hfourth) h.puts.isPrefix.length_le)
          found := fun v vs hvs => by
            obtain ⟨hok, hresult⟩ := hfound v vs hvs
            obtain ⟨htrue, hrows, rfl⟩ := h.found v vs hresult
            exact ⟨hok, htrue, hrows, rfl⟩ }

/-- **The database is asked by the plan of a request, and not at all without one.**  Where the
header names no user, the response says so whatever the body is. -/
theorem App.access_planned (app : App) (r : HttpRequest) (id : String) (d : Database)
    {route : Route} (hpost : r.method = "POST") (hroute : r.route? = some route)
    (hoperation : route ∈ [.filter, .values, .variableValues]) :
    ((¬ ∃ userId, r.NamesUser app.settings.auth.userHeader userId) →
      (app.respond r id d).1.status = 401 ∧ (app.respond r id d).2.sent = []) ∧
    ((¬ ∃ plan, app.Admits r route plan) →
      (app.respond r id d).1.status ≠ 200 ∧ (app.respond r id d).2.sent = []) ∧
    ∀ plan, app.Admits r route plan →
      plan.Governs app.service d (app.respond r id d).1 (app.respond r id d).2.sent := by
  have hall : ∀ operation ∈ [Route.filter, .values, .variableValues], operation.reads = false := by
    decide
  have hreads := hall route hoperation
  refine ⟨fun hnone => ?_, fun hnone => ?_, fun plan hplan => ?_⟩
  · obtain ⟨reason, hruns⟩ := runs_answer_of_unnamed hreads hnone
    obtain ⟨hstatus, -, hsent⟩ := respond_of_runs id hpost hroute hreads (hruns d)
    exact ⟨hstatus, hsent.trans d.receives_nil⟩
  · obtain ⟨os, e, -, hruns⟩ := (app.admits_or_refuses r hreads).resolve_left hnone
    obtain ⟨hstatus, -, hsent⟩ := respond_of_runs id hpost hroute hreads (hruns d)
    exact ⟨hstatus ▸ e.status_ne_ok, hsent.trans d.receives_nil⟩
  · obtain ⟨result, ss, os, hruns, hleads⟩ := hplan.runs d
    obtain ⟨hstatus, hcontent, hsent⟩ := respond_of_runs id hpost hroute hreads hruns
    exact hsent ▸ hleads.governs hstatus hcontent

set_option maxRecDepth 8000 in
/-- A user who does not belong to the organisation is denied access, and for one who does all three
statements are sent. -/
theorem App.access_planned_for_current_values :
    let app : App := ⟨{}, ⟨.standard, "public", by decide⟩⟩
    let r : HttpRequest :=
      { target := { path := "/variable/values" }
        headers := [("x-user-id", " 7"), ("content-type", "application/json")]
        body := "\x7b\"filter\":\"a\",\"org_id\":1,\"tag\":\"t\"\x7d" }
    let denied : Database := .replies [.table ⟨["exists"], [[.bool false]]⟩]
    let found : Database := .replies [.table ⟨["exists"], [[.bool true]]⟩,
      .table ⟨["entity_id"], [[.int 8 5]]⟩]
    ∃ plan, app.Admits r .variableValues plan ∧ plan.userId = 7 ∧ plan.orgId = 1 ∧
      plan.Governs app.service denied (app.respond r "1" denied).1
        (app.respond r "1" denied).2.sent ∧
      (app.respond r "1" denied).1.status = 403 ∧
      (app.respond r "1" found).2.sent.length = 3 := by
  intro app r denied found
  have hdraft : Draft.ofText r.body = .obj [(some "filter", .str (some "a")),
      (some "org_id", .int 1), (some "tag", .str (some "t"))] true := by cbv
  have htype : (r.plainHeader? "content-type").any Text.isJsonMediaType := by cbv
  have hbody : r.read app.settings.server.maxRequestBodySize VariableValuesRequest.read =
      .ok ⟨⟨"a", 1, none⟩, "t"⟩ := by
    rw [HttpRequest.read, htype, hdraft]
    rfl
  have huser : r.NamesUser app.settings.auth.userHeader 7 :=
    ⟨" 7", by decide, by decide, by decide⟩
  have hparse : parse "a" = .ok (.has ⟨["a"]⟩) := by cbv
  obtain ⟨c, hcompile⟩ : ∃ c, (app.service.query 7 ⟨"a", 1, none⟩).compile app.service.compiler =
      .ok c :=
    ⟨_, Query.compile_eq_ok_iff.mpr ⟨by decide, _, _, hparse, rfl, rfl⟩⟩
  have hplan : app.Admits r .variableValues ⟨7, 1, c, some (.current "t")⟩ :=
    .variableValues huser hbody rfl hcompile
  have hdenied := (app.access_planned r "1" denied rfl rfl (by decide)).2.2 _ hplan
  have hfound := (app.access_planned r "1" found rfl rfl (by decide)).2.2 _ hplan
  have htold : found.Tells true := ⟨_, _, _, rfl, rfl⟩
  have hall := hfound.rest (hfound.third_iff.mpr ⟨htold, rfl, List.cons_ne_nil 5 []⟩)
  exact ⟨_, hplan, rfl, rfl, hdenied, (hdenied.denied ⟨_, _, _, rfl, rfl⟩).1, by rw [hall]; rfl⟩

end EntityFilter
