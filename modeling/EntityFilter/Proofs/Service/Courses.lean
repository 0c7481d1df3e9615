import EntityFilter.Proofs.Query.Statements
import EntityFilter.Proofs.Service.Sessions
import EntityFilter.Service.Operations

/-!
# The courses of operations

Once a request is checked and its filter compiled, only the answers of the database decide how it
goes on.  A course lists the answers that matter, and says what they lead to: the result, the
statements that are put to the database and the events that are counted.  There are courses for the
entities that match (`Service.Matches`), for what is read for these (`Service.Follows`) and for both
together (`Service.Answers`).

**Operations run their courses** (`Service.Matches.runs_filter`, `Service.Answers.runs_values`,
`Service.Answers.runs_variableValues`), for every database there is one, and a request that is not
good is refused before the database is asked.
-/

namespace EntityFilter

open Session (Refusal Runs needed readAnswer readAnswer_some)

/-! ### Checks -/

/-- The request, with no tags that it asks for. -/
def FilterRequest.untagged (r : FilterRequest) : FilterRequest :=
  { r with tags := none }

theorem complain_eq_ok_iff {complaints : List String} :
    complain complaints = .ok () ↔ complaints = [] := by
  rw [complain]
  split <;> simp_all

theorem lengthComplaint_eq_nil_iff {field complaint : String} {least greatest length : Nat} :
    lengthComplaint field least greatest length complaint = [] ↔
      least ≤ length ∧ length ≤ greatest := by
  rw [lengthComplaint]
  split <;> simp_all

/-- A request that is checked as part of another one would pass the check on its own. -/
theorem FilterRequest.check_untagged {path : String} {r : FilterRequest}
    (h : r.complaints path = []) : r.untagged.check = .ok () := by
  rw [complaints, List.append_eq_nil_iff, lengthComplaint_eq_nil_iff] at h
  rw [check, complain_eq_ok_iff, complaints, List.append_eq_nil_iff, lengthComplaint_eq_nil_iff,
    lengthComplaint_eq_nil_iff]
  exact ⟨h.1, by simp [untagged]⟩

theorem ValuesRequest.check_filter (r : ValuesRequest) (h : r.check = .ok ()) :
    r.filter.untagged.check = .ok () :=
  FilterRequest.check_untagged (complain_eq_ok_iff.mp h)

theorem VariableValuesRequest.check_filter (r : VariableValuesRequest) (h : r.check = .ok ()) :
    r.filter.untagged.check = .ok () :=
  FilterRequest.check_untagged (List.append_eq_nil_iff.mp (complain_eq_ok_iff.mp h)).1

theorem refusal_of_complain {complaints : List String} {e : Failure}
    (h : complain complaints = .error e) : Refusal e [] := by
  rw [complain] at h
  split at h
  · cases h
  · exact Except.error.inj h ▸ .invalid _

theorem ValuesRequest.refusal_of_range {r : ValuesRequest} {e : Failure}
    (h : r.range = .error e) : Refusal e [] := by
  have hinstant : ∀ {field value : String} {e : Failure}, instant field value = .error e →
      Refusal e [] := by
    intro field value e h
    simp only [instant] at h
    split at h
    · cases h
    · exact Except.error.inj h ▸ .invalid _
  rw [range] at h
  cases hfirst : instant "date_from" r.dateFrom with
  | error fault =>
      rw [hfirst] at h
      exact Except.error.inj h ▸ hinstant hfirst
  | ok first =>
      cases hlast : instant "date_to" r.dateTo with
      | error fault =>
          rw [hfirst, hlast] at h
          exact Except.error.inj h ▸ hinstant hlast
      | ok last =>
          simp only [hfirst, hlast, bind, Except.bind] at h
          split at h
          · cases h
          · exact Except.error.inj h ▸ .invalid _

/-- How values are aggregated is said completely, or not at all, or the request is not valid. -/
theorem ValuesRequest.bucketing_cases (r : ValuesRequest) :
    (∃ reason, r.bucketing = .error (.invalid reason)) ∨
      ∃ b, r.bucketing = .ok b ∧ ∀ bucketing ∈ b, bucketing.seconds ≠ 0 := by
  rw [bucketing]
  split
  · exact .inr ⟨none, rfl, by simp⟩
  · dsimp only
    split
    · exact .inr ⟨none, rfl, by simp⟩
    · split
      · exact .inl ⟨_, rfl⟩
      · exact .inr ⟨none, rfl, by simp⟩
      · exact .inl ⟨_, rfl⟩
      · exact .inr ⟨_, rfl, by simp⟩

theorem ValuesRequest.seconds_ne_zero (r : ValuesRequest) {b : Option Bucketing}
    (h : r.bucketing = .ok b) : ∀ bucketing ∈ b, bucketing.seconds ≠ 0 := by
  rcases r.bucketing_cases with ⟨reason, hreason⟩ | ⟨b', hb, hseconds⟩
  · cases hreason.symm.trans h
  · exact Except.ok.inj (hb.symm.trans h) ▸ hseconds

theorem ValuesRequest.refusal_of_bucketing {r : ValuesRequest} {e : Failure}
    (h : r.bucketing = .error e) : Refusal e [] := by
  rcases r.bucketing_cases with ⟨reason, hreason⟩ | ⟨b, hb, -⟩
  · exact Except.error.inj (hreason.symm.trans h) ▸ .invalid reason
  · cases hb.symm.trans h

/-! ### Statements and their answers -/

/-- The truth value that a result is: the first cell of its first row. -/
def Table.truth? (t : Table) : Option Bool := do
  (← (← t.rows.head?).head?).asBool?

/-- The name of a table, which may be missing, or may not be there at all. -/
def Table.tableName? (t : Table) : Option (Option String) :=
  match t.rows with
  | []       => some none
  | row :: _ => do (← row.head?).asText?

namespace Service

/-- The question whether a user belongs to an organisation. -/
def visibilityStatement (s : Service) (userId orgId : Int) : Statement where
  kind := .orgVisibility
  sql := s!"SELECT EXISTS (SELECT 1 FROM {s.schema}.org_user WHERE user_id = $1 AND org_id = $2)"
  parameters := [.int userId, .int orgId]

/-- The question for the table of an organisation's time series. -/
def tableStatement (s : Service) (orgId : Int) : Statement where
  kind := .valueTable
  sql := s!"SELECT value_table FROM {s.schema}.org WHERE id = $1"
  parameters := [.int orgId]

end Service

/-- The statement of a compiled filter. -/
def CompiledQuery.statement (c : CompiledQuery) : Statement where
  kind := .filter
  sql := c.sql
  parameters := []

/-- What is asked for the entities that match a filter. -/
inductive FollowUp
  /-- Time series between two instants. -/
  | series (labelTags : List String) (bucketing : Option Bucketing) (first last : Instant)
  /-- The current values of a tag. -/
  | current (tag : String)

namespace Service

/-- The question for time series of entities. -/
def seriesQuery (s : Service) (labelTags : List String) (bucketing : Option Bucketing)
    (valueTable : String) : SeriesQuery :=
  { schema := s.schema, valueTable, labelTags, bucketing }

/-- The statement for time series of entities. -/
def seriesStatement (sql : String) (ids : List Int) (first last : Instant) : Statement where
  kind := .values
  sql := sql
  parameters := [.ints ids, .instant first, .instant last]

/-- The statement for the current values of a tag. -/
def currentStatement (s : Service) (tag : String) (ids : List Int) : Statement where
  kind := .variableValues
  sql := Sql.text (CurrentValues.pieces s.schema)
  parameters := [.text (Text.trim tag), .ints ids]

/-- The query of a request. -/
def query (s : Service) (userId : Int) (r : FilterRequest) : Query :=
  { filter := r.filter, orgId := r.orgId, userId, tags := r.tags.getD [], schema := s.schema }

/-- Reads what is asked for the entities with the numbers `ids`. -/
def follow (s : Service) (orgId : Int) (ids : List Int) : FollowUp → Session (List Json)
  | .series labelTags bucketing first last => do
    let some valueTable ← s.valueTable orgId
      | throw (.internal s!"organization {Text.integer orgId} has no value table")
    let sql ← (s.seriesQuery labelTags bucketing valueTable).sql.mapError Failure.query
    let t ← Session.ask .values sql [.ints ids, .instant first, .instant last] some
    let rows ← Session.expect t.objects?
    Session.observe (.results .values rows.length)
    pure rows
  | .current tag => do
    let sql ← (CurrentValues.sql s.schema).mapError Failure.query
    let rows ← Session.ask .variableValues sql [.text (Text.trim tag), .ints ids] fun t =>
      t.rows.mapM (variableValue? t)
    Session.observe (.results .variableValues rows.length)
    pure rows

/-- Reads what is asked for the entities that match a filter. -/
def pursue (s : Service) (userId : Int) (r : FilterRequest) (f : FollowUp) :
    Session (List Json) := do
  let ids ← s.matchingIds userId r
  if ids.isEmpty then return []
  s.follow r.orgId ids f

theorem values_eq (s : Service) (userId : Int) (r : ValuesRequest) :
    s.values userId r = (do
      r.check
      let (first, last) ← r.range
      let bucketing ← r.bucketing
      s.pursue userId r.filter (.series r.labelTags bucketing first last)) := rfl

theorem variableValues_eq (s : Service) (userId : Int) (r : VariableValuesRequest) :
    s.variableValues userId r = (do
      r.check
      s.pursue userId r.filter (.current r.tag)) := rfl

/-- What is counted of a compilation. -/
def compilationEvents (s : Service) (c : CompiledQuery) : List Observation :=
  [.compilation none, .aliases s.compiler.options.kindSource c.aliases]

/-- What is counted of a result. -/
def resultEvents {α : Type} (operation : Operation) : Except Failure (List α) → List Observation
  | .ok found => [.results operation found.length]
  | .error _  => []

/-! ### Courses -/

section Courses

variable (s : Service) (userId orgId : Int) (c : CompiledQuery) (d : Database)

/-- How the entities of a compiled filter are found. -/
inductive Matches :
    Except Failure (List Entity) → List Statement → List Observation → Prop
  | untold {fault : DatabaseFault}
      (h : readAnswer Table.truth? (d.answerAt 0) = .error fault) :
      Matches (.error (.database fault)) [s.visibilityStatement userId orgId]
        [.statement .orgVisibility true]
  | denied (h : readAnswer Table.truth? (d.answerAt 0) = .ok false) :
      Matches (.error (.accessDenied userId orgId)) [s.visibilityStatement userId orgId]
        [.statement .orgVisibility false]
  | failed {fault : DatabaseFault} (h : readAnswer Table.truth? (d.answerAt 0) = .ok true)
      (hanswer : d.answerAt 1 = .error fault) :
      Matches (.error (filterFailure fault)) [s.visibilityStatement userId orgId, c.statement]
        [.statement .orgVisibility false, .statement .filter true]
  | unreadable {t : Table} (h : readAnswer Table.truth? (d.answerAt 0) = .ok true)
      (hanswer : d.answerAt 1 = .ok t) (hrows : t.toJson? = none) :
      Matches (.error (.database .unexpectedResult))
        [s.visibilityStatement userId orgId, c.statement]
        [.statement .orgVisibility false, .statement .filter false]
  | found {t : Table} {rows : List (List Json)}
      (h : readAnswer Table.truth? (d.answerAt 0) = .ok true) (hanswer : d.answerAt 1 = .ok t)
      (hrows : t.toJson? = some rows) :
      Matches (.ok (Entity.ofRows c.selection c.columns rows))
        [s.visibilityStatement userId orgId, c.statement]
        [.statement .orgVisibility false, .statement .filter false]

/-- How more is read for the entities with the numbers `ids`. -/
inductive Follows (ids : List Int) :
    FollowUp → Except Failure (List Json) → List Statement → List Observation → Prop
  | untold {labels : List String} {b : Option Bucketing} {first last : Instant}
      {fault : DatabaseFault} (h : readAnswer Table.tableName? (d.answerAt 0) = .error fault) :
      Follows ids (.series labels b first last) (.error (.database fault)) [s.tableStatement orgId]
        [.statement .valueTable true]
  | unnamed {labels : List String} {b : Option Bucketing} {first last : Instant}
      (h : readAnswer Table.tableName? (d.answerAt 0) = .ok none) :
      Follows ids (.series labels b first last)
        (.error (.internal s!"organization {Text.integer orgId} has no value table"))
        [s.tableStatement orgId] [.statement .valueTable false]
  | unusable {labels : List String} {b : Option Bucketing} {first last : Instant} {name : String}
      {e : QueryError} (h : readAnswer Table.tableName? (d.answerAt 0) = .ok (some name))
      (hsql : (s.seriesQuery labels b name).sql = .error e) :
      Follows ids (.series labels b first last) (.error (.query e)) [s.tableStatement orgId]
        [.statement .valueTable false]
  | seriesFailed {labels : List String} {b : Option Bucketing} {first last : Instant}
      {name sql : String} {fault : DatabaseFault}
      (h : readAnswer Table.tableName? (d.answerAt 0) = .ok (some name))
      (hsql : (s.seriesQuery labels b name).sql = .ok sql) (hanswer : d.answerAt 1 = .error fault) :
      Follows ids (.series labels b first last) (.error (.database fault))
        [s.tableStatement orgId, seriesStatement sql ids first last]
        [.statement .valueTable false, .statement .values true]
  | seriesUnreadable {labels : List String} {b : Option Bucketing} {first last : Instant}
      {name sql : String} {t : Table}
      (h : readAnswer Table.tableName? (d.answerAt 0) = .ok (some name))
      (hsql : (s.seriesQuery labels b name).sql = .ok sql) (hanswer : d.answerAt 1 = .ok t)
      (hrows : t.objects? = none) :
      Follows ids (.series labels b first last) (.error (.database .unexpectedResult))
        [s.tableStatement orgId, seriesStatement sql ids first last]
        [.statement .valueTable false, .statement .values false]
  | series {labels : List String} {b : Option Bucketing} {first last : Instant}
      {name sql : String} {t : Table} {rows : List Json}
      (h : readAnswer Table.tableName? (d.answerAt 0) = .ok (some name))
      (hsql : (s.seriesQuery labels b name).sql = .ok sql) (hanswer : d.answerAt 1 = .ok t)
      (hrows : t.objects? = some rows) :
      Follows ids (.series labels b first last) (.ok rows)
        [s.tableStatement orgId, seriesStatement sql ids first last]
        [.statement .valueTable false, .statement .values false, .results .values rows.length]
  | currentFailed {tag : String} {fault : DatabaseFault}
      (h : readAnswer (fun t => t.rows.mapM (variableValue? t)) (d.answerAt 0) = .error fault) :
      Follows ids (.current tag) (.error (.database fault)) [s.currentStatement tag ids]
        [.statement .variableValues true]
  | current {tag : String} {rows : List Json}
      (h : readAnswer (fun t => t.rows.mapM (variableValue? t)) (d.answerAt 0) = .ok rows) :
      Follows ids (.current tag) (.ok rows) [s.currentStatement tag ids]
        [.statement .variableValues false, .results .variableValues rows.length]

/-- How a request is answered that asks for more than entities: nothing follows if there are none
with a number. -/
inductive Answers (f : FollowUp) :
    Except Failure (List Json) → List Statement → List Observation → Prop
  | unmatched {e : Failure} {ss : List Statement} {os : List Observation}
      (h : s.Matches userId orgId c d (.error e) ss os) : Answers f (.error e) ss os
  | empty {found : List Entity} {ss : List Statement} {os : List Observation}
      (h : s.Matches userId orgId c d (.ok found) ss os)
      (hids : found.filterMap Entity.number? = []) : Answers f (.ok []) ss os
  | followed {found : List Entity} {result : Except Failure (List Json)} {ss ts : List Statement}
      {os ps : List Observation} (h : s.Matches userId orgId c d (.ok found) ss os)
      (hids : found.filterMap Entity.number? ≠ [])
      (hfollows : s.Follows orgId (d.after ss.length) (found.filterMap Entity.number?) f result
        ts ps) :
      Answers f result (ss ++ ts) (os ++ ps)

end Courses

/-! ### Matching entities -/

section Matching

variable {s : Service} {userId orgId : Int} {r : FilterRequest} {c : CompiledQuery} {d : Database}

theorem exists_matches (s : Service) (userId orgId : Int) (c : CompiledQuery) (d : Database) :
    ∃ result ss os, s.Matches userId orgId c d result ss os := by
  cases htruth : readAnswer Table.truth? (d.answerAt 0) with
  | error fault => exact ⟨_, _, _, .untold htruth⟩
  | ok visible =>
      cases visible with
      | false => exact ⟨_, _, _, .denied htruth⟩
      | true =>
          cases hanswer : d.answerAt 1 with
          | error fault => exact ⟨_, _, _, .failed htruth hanswer⟩
          | ok t =>
              cases hrows : t.toJson? with
              | none => exact ⟨_, _, _, .unreadable htruth hanswer hrows⟩
              | some rows => exact ⟨_, _, _, .found htruth hanswer hrows⟩

theorem runs_compile (h : (s.query userId r).compile s.compiler = .ok c) :
    Runs (s.compile userId r) d (.ok c) [] (s.compilationEvents c) := by
  rw [query] at h
  rw [Service.compile, h]
  exact (Runs.observe _).bind_offline ((Runs.observe _).bind_offline (.pure c))

theorem runs_compile_error {e : QueryError}
    (h : (s.query userId r).compile s.compiler = .error e) :
    Runs (s.compile userId r) d (.error (.query e)) [] [.compilation (some e)] := by
  rw [query] at h
  rw [Service.compile, h]
  exact (Runs.observe _).bind_offline (.throw _)

/-- A filter that is not compiled ends the matching of its request. -/
theorem runs_matching_error {e : QueryError} (hcheck : r.check = .ok ())
    (h : (s.query userId r).compile s.compiler = .error e) :
    Runs (s.matching userId r) d (.error (.query e)) [] [.compilation (some e)] :=
  (Runs.lift hcheck).bind_offline (runs_compile_error h).bind_error

theorem runs_entities_error {fault : DatabaseFault} (h : d.answerAt 0 = .error fault) :
    Runs (entities c) d (.error (filterFailure fault)) [c.statement] [.statement .filter true] :=
  (Runs.attempt c.statement some ((readAnswer_some _).trans h)).bind (.throw _)

theorem runs_entities {t : Table} {rows : Except Failure (List (List Json))}
    (h : d.answerAt 0 = .ok t) (hrows : needed t.toJson? = rows) :
    Runs (entities c) d (rows.map (Entity.ofRows c.selection c.columns)) [c.statement]
      [.statement .filter false] :=
  (Runs.attempt c.statement some ((readAnswer_some _).trans h)).bind ((Runs.expect hrows).map _)

/-- **The matching of a request runs its course.** -/
theorem Matches.runs {result : Except Failure (List Entity)} {ss : List Statement}
    {os : List Observation} (h : s.Matches userId r.orgId c d result ss os)
    (hcheck : r.check = .ok ()) (hcompile : (s.query userId r).compile s.compiler = .ok c) :
    Runs (s.matching userId r) d result ss (s.compilationEvents c ++ os) := by
  -- the database is not asked before the request is compiled; from then on it decides the case
  refine (Runs.lift hcheck).bind_offline ((runs_compile hcompile).bind_offline ?_)
  cases h with
  | untold h => exact (Runs.ask_error (s.visibilityStatement userId r.orgId) h).bind_error
  | denied h => exact (Runs.ask_ok (s.visibilityStatement userId r.orgId) h).bind (.throw _)
  | failed h hanswer =>
      rw [← Nat.add_zero 1, ← Database.answerAt_after] at hanswer
      exact (Runs.ask_ok (s.visibilityStatement userId r.orgId) h).bind
        (runs_entities_error hanswer)
  | unreadable h hanswer hrows =>
      rw [← Nat.add_zero 1, ← Database.answerAt_after] at hanswer
      exact (Runs.ask_ok (s.visibilityStatement userId r.orgId) h).bind
        (runs_entities hanswer (congrArg needed hrows))
  | found h hanswer hrows =>
      rw [← Nat.add_zero 1, ← Database.answerAt_after] at hanswer
      exact (Runs.ask_ok (s.visibilityStatement userId r.orgId) h).bind
        (runs_entities hanswer (congrArg needed hrows))

/-- A request for entities runs the course of its matching, and counts what is found. -/
theorem Matches.runs_filter {result : Except Failure (List Entity)} {ss : List Statement}
    {os : List Observation} (h : s.Matches userId r.orgId c d result ss os)
    (hcheck : r.check = .ok ()) (hcompile : (s.query userId r).compile s.compiler = .ok c) :
    Runs (s.filter userId r) d result ss
      (s.compilationEvents c ++ os ++ resultEvents .filter result) := by
  have hmatching := h.runs hcheck hcompile
  cases result with
  | error e =>
      rw [resultEvents, List.append_nil]
      exact hmatching.bind_error
  | ok found =>
      have hall : Runs (s.filter userId r) d (.ok found) (ss ++ []) _ :=
        hmatching.bind ((Runs.observe (.results .filter found.length)).bind_offline (.pure found))
      rwa [List.append_nil] at hall

end Matching

/-! ### What follows for the entities -/

theorem exists_follows (s : Service) (orgId : Int) (d : Database) (ids : List Int) (f : FollowUp) :
    ∃ result ss os, s.Follows orgId d ids f result ss os := by
  cases f with
  | series labels b first last =>
      cases hname : readAnswer Table.tableName? (d.answerAt 0) with
      | error fault => exact ⟨_, _, _, .untold hname⟩
      | ok name? =>
          cases name? with
          | none => exact ⟨_, _, _, .unnamed hname⟩
          | some name =>
              cases hsql : (s.seriesQuery labels b name).sql with
              | error e => exact ⟨_, _, _, .unusable hname hsql⟩
              | ok sql =>
                  cases hanswer : d.answerAt 1 with
                  | error fault => exact ⟨_, _, _, .seriesFailed hname hsql hanswer⟩
                  | ok t =>
                      cases hrows : t.objects? with
                      | none => exact ⟨_, _, _, .seriesUnreadable hname hsql hanswer hrows⟩
                      | some rows => exact ⟨_, _, _, .series hname hsql hanswer hrows⟩
  | current tag =>
      cases hrows : readAnswer (fun t => t.rows.mapM (variableValue? t)) (d.answerAt 0) with
      | error fault => exact ⟨_, _, _, .currentFailed hrows⟩
      | ok rows => exact ⟨_, _, _, .current hrows⟩

theorem exists_answers (s : Service) (userId orgId : Int) (c : CompiledQuery) (d : Database)
    (f : FollowUp) : ∃ result ss os, s.Answers userId orgId c d f result ss os := by
  obtain ⟨found, ss, os, h⟩ := s.exists_matches userId orgId c d
  cases found with
  | error e => exact ⟨_, _, _, .unmatched h⟩
  | ok found =>
      by_cases hids : found.filterMap Entity.number? = []
      · exact ⟨_, _, _, .empty h hids⟩
      · obtain ⟨result, ts, ps, hfollows⟩ :=
          s.exists_follows orgId (d.after ss.length) (found.filterMap Entity.number?) f
        exact ⟨_, _, _, .followed h hids hfollows⟩

section Following

variable {s : Service} {userId orgId : Int} {r : FilterRequest} {c : CompiledQuery} {d : Database}
  {f : FollowUp} {ids : List Int} {result : Except Failure (List Json)} {ss : List Statement}
  {os : List Observation}

theorem Follows.runs (h : s.Follows orgId d ids f result ss os) :
    Runs (s.follow orgId ids f) d result ss os := by
  -- the schema of a service is an identifier, so this statement does not fail to have a text
  have hcurrent : (CurrentValues.sql s.schema).mapError Failure.query =
      .ok (Sql.text (CurrentValues.pieces s.schema)) := by
    rw [CurrentValues.sql, if_neg (by simp [s.isIdentifier])]
    rfl
  cases h with
  | untold h => exact (Runs.ask_error (s.tableStatement orgId) h).bind_error
  | unnamed h => exact (Runs.ask_ok (s.tableStatement orgId) h).bind (.throw _)
  | unusable h hsql =>
      have hlift := congrArg (Except.mapError Failure.query) hsql
      exact (Runs.ask_ok (s.tableStatement orgId) h).bind (Runs.lift hlift).bind_error
  | seriesFailed h hsql hanswer =>
      have hlift := congrArg (Except.mapError Failure.query) hsql
      have hread := (readAnswer_some _).trans ((d.answerAt_after 1 0).trans hanswer)
      exact (Runs.ask_ok (s.tableStatement orgId) h).bind ((Runs.lift hlift).bind_offline
        (Runs.ask_error (seriesStatement _ ids _ _) hread).bind_error)
  | seriesUnreadable h hsql hanswer hrows =>
      have hlift := congrArg (Except.mapError Failure.query) hsql
      have hread := (readAnswer_some _).trans ((d.answerAt_after 1 0).trans hanswer)
      have hneeded := congrArg needed hrows
      exact (Runs.ask_ok (s.tableStatement orgId) h).bind ((Runs.lift hlift).bind_offline
        ((Runs.ask_ok (seriesStatement _ ids _ _) hread).bind (Runs.expect hneeded).bind_error))
  | series h hsql hanswer hrows =>
      have hlift := congrArg (Except.mapError Failure.query) hsql
      have hread := (readAnswer_some _).trans ((d.answerAt_after 1 0).trans hanswer)
      have hneeded := congrArg needed hrows
      exact (Runs.ask_ok (s.tableStatement orgId) h).bind ((Runs.lift hlift).bind_offline
        ((Runs.ask_ok (seriesStatement _ ids _ _) hread).bind ((Runs.expect hneeded).bind_offline
          ((Runs.observe _).bind_offline (.pure _)))))
  | currentFailed h =>
      exact (Runs.lift hcurrent).bind_offline
        (Runs.ask_error (s.currentStatement _ ids) h).bind_error
  | current h =>
      exact (Runs.lift hcurrent).bind_offline ((Runs.ask_ok (s.currentStatement _ ids) h).bind
        ((Runs.observe _).bind_offline (.pure _)))

theorem Matches.runs_ids {found : Except Failure (List Entity)}
    (h : s.Matches userId r.orgId c d found ss os)
    (hcheck : r.untagged.check = .ok ())
    (hcompile : (s.query userId r.untagged).compile s.compiler = .ok c) :
    Runs (s.matchingIds userId r) d (found.map (List.filterMap Entity.number?)) ss
      (s.compilationEvents c ++ os) :=
  (Matches.runs (r := r.untagged) h hcheck hcompile).map _

/-- **What is asked for the entities of a request runs its course.** -/
theorem Answers.runs (h : s.Answers userId r.orgId c d f result ss os)
    (hcheck : r.untagged.check = .ok ())
    (hcompile : (s.query userId r.untagged).compile s.compiler = .ok c) :
    Runs (s.pursue userId r f) d result ss (s.compilationEvents c ++ os) := by
  cases h with
  | unmatched h => exact (h.runs_ids hcheck hcompile).bind_error
  | empty h hids =>
      have hall : Runs (s.pursue userId r f) d _ (ss ++ []) (_ ++ []) :=
        (h.runs_ids hcheck hcompile).bind (by rw [hids]; exact .pure [])
      rwa [List.append_nil, List.append_nil] at hall
  | followed h hids hfollows =>
      rw [← List.append_assoc]
      refine (h.runs_ids hcheck hcompile).bind ?_
      rw [if_neg (by simpa using hids)]
      exact hfollows.runs

/-! ### Requests -/

/-- A filter that is not compiled ends what was asked for its entities. -/
theorem runs_pursue_error {r : FilterRequest} {e : QueryError} (hcheck : r.untagged.check = .ok ())
    (h : (s.query userId r.untagged).compile s.compiler = .error e) :
    Runs (s.pursue userId r f) d (.error (.query e)) [] [.compilation (some e)] := by
  have hids : Runs (s.matchingIds userId r) d (.error (.query e)) [] [.compilation (some e)] :=
    (runs_matching_error hcheck h).bind_error
  exact hids.bind_error

theorem Answers.runs_values {r : ValuesRequest} {first last : Instant}
    {bucketing : Option Bucketing}
    (h : s.Answers userId r.filter.orgId c d (.series r.labelTags bucketing first last) result ss
      os)
    (hcheck : r.check = .ok ()) (hrange : r.range = .ok (first, last))
    (hbucketing : r.bucketing = .ok bucketing)
    (hcompile : (s.query userId r.filter.untagged).compile s.compiler = .ok c) :
    Runs (s.values userId r) d result ss (s.compilationEvents c ++ os) := by
  rw [values_eq]
  exact (Runs.lift hcheck).bind_offline ((Runs.lift hrange).bind_offline
    ((Runs.lift hbucketing).bind_offline (h.runs (r.check_filter hcheck) hcompile)))

theorem Answers.runs_variableValues {r : VariableValuesRequest}
    (h : s.Answers userId r.filter.orgId c d (.current r.tag) result ss os)
    (hcheck : r.check = .ok ())
    (hcompile : (s.query userId r.filter.untagged).compile s.compiler = .ok c) :
    Runs (s.variableValues userId r) d result ss (s.compilationEvents c ++ os) := by
  rw [variableValues_eq]
  exact (Runs.lift hcheck).bind_offline (h.runs (r.check_filter hcheck) hcompile)

end Following

end Service

end EntityFilter
