import EntityFilter.Service.Session

/-!
# What a session sends

A session sees the database only by the answers to its statements, and whatever it does is added to
what happened before.  `Session.Runs` says how a session ends on a database, with the statements
that it puts to it and the events that it counts.

**Sessions in a row put their statements in a row** (`Session.Runs.bind`): the second one meets the
database behind the answers to the first one, and a failure ends the row
(`Session.Runs.bind_error`).
-/

namespace EntityFilter

/-- A statement with its kind and the values that are bound to it. -/
structure Statement where
  kind : StatementKind
  sql : String
  parameters : List Parameter
deriving DecidableEq, Repr

/-- The statement as it reaches a database that answers it so. -/
def Statement.sent (s : Statement) (answer : Except DatabaseFault Table) : SentStatement :=
  ⟨s.sql, if answer.isOk then some s.parameters else none⟩

/-! ### Databases -/

/-- The answer that a reply is. -/
def Reply.answer : Reply → Except DatabaseFault Table
  | table t => .ok t
  | error e => .error (.reported e)

namespace Database

/-- The answer to the statement with the number `i`, where the first one has the number 0. -/
def answerAt : Database → Nat → Except DatabaseFault Table
  | refuses e, _  => .error (.ofRefusal e)
  | replies rs, i => (rs.getD i (.error noReply)).answer

/-- The database behind the answers to `n` statements. -/
def after : Database → Nat → Database
  | refuses e, _  => refuses e
  | replies rs, n => replies (rs.drop n)

/-- What reaches the database of statements that are put to it. -/
def receives : Database → List Statement → List SentStatement
  | refuses _, _      => []
  | d@(replies _), ss => ss.mapIdx fun i s => s.sent (d.answerAt i)

@[simp]
theorem after_zero (d : Database) : d.after 0 = d := by
  cases d <;> rfl

theorem after_after (d : Database) (m n : Nat) : (d.after m).after n = d.after (m + n) := by
  cases d with
  | refuses e => rfl
  | replies rs => rw [after, after, after, List.drop_drop]

theorem answerAt_after (d : Database) (m n : Nat) :
    (d.after m).answerAt n = d.answerAt (m + n) := by
  cases d with
  | refuses e => rfl
  | replies rs => simp [after, answerAt, List.getD_eq_getElem?_getD]

@[simp]
theorem receives_nil (d : Database) : d.receives [] = [] := by
  cases d <;> rfl

theorem receives_append (d : Database) (ss ts : List Statement) :
    d.receives (ss ++ ts) = d.receives ss ++ (d.after ss.length).receives ts := by
  cases d with
  | refuses e => rfl
  | replies rs =>
      have hlater : ∀ i, (after (replies rs) ss.length).answerAt i =
          answerAt (replies rs) (i + ss.length) := fun i => by
        rw [answerAt_after, Nat.add_comm]
      rw [receives, List.mapIdx_append]
      simp only [← hlater]
      rfl

end Database

/-- A statement that is sent gets the next answer of the database. -/
theorem Exchange.send_eq (x : Exchange) (s : Statement) :
    x.send s.sql s.parameters = (x.database.answerAt 0,
      ⟨x.database.after 1, x.sent ++ x.database.receives [s], x.observed⟩) := by
  obtain ⟨d, sent, observed⟩ := x
  match d with
  | .refuses e => simp [send, Database.answerAt, Database.after, Database.receives]
  | .replies [] => rfl
  | .replies (.error e :: rest) => rfl
  | .replies (.table t :: rest) => rfl

/-! ### Runs -/

namespace Session

variable {α β : Type}

theorem run_bind (m : Session α) (f : α → Session β) (x : Exchange) :
    (m >>= f).run.run x = match m.run.run x with
      | (.ok a, y)    => (f a).run.run y
      | (.error e, y) => (.error e, y) := by
  rw [ExceptT.run_bind, StateT.run_bind]
  generalize m.run.run x = p
  obtain ⟨r, y⟩ := p
  cases r <;> rfl

/-- On the database `d` the session puts the statements `ss` to it, counts the events `os` and ends
with `result`, whatever happened before. -/
def Runs (m : Session α) (d : Database) (result : Except Failure α) (ss : List Statement)
    (os : List Observation) : Prop :=
  ∀ sent observed, m.run.run ⟨d, sent, observed⟩ =
    (result, ⟨d.after ss.length, sent ++ d.receives ss, observed ++ os⟩)

/-- A value that is needed, or the failure that it is not there. -/
def needed (value : Option α) : Except Failure α :=
  value.elim (.error (.database .unexpectedResult)) .ok

/-- What is read from an answer. -/
def readAnswer (read? : Table → Option α) (answer : Except DatabaseFault Table) :
    Except DatabaseFault α :=
  answer.bind fun t => (read? t).elim (.error .unexpectedResult) .ok

theorem readAnswer_some (answer : Except DatabaseFault Table) :
    readAnswer some answer = answer := by
  cases answer <;> rfl

theorem run_attempt (kind : StatementKind) (sql : String) (parameters : List Parameter)
    (read? : Table → Option α) (x : Exchange) :
    (attempt kind sql parameters read?).run.run x =
      let (answer, y) := x.send sql parameters
      let result := readAnswer read? answer
      (.ok result, { y with observed := y.observed ++ [.statement kind (!result.isOk)] }) :=
  rfl

namespace Runs

variable {d : Database} {m : Session α} {f : α → Session β} {a : α} {result : Except Failure β}
  {ss ts : List Statement} {os ps : List Observation} {e : Failure} {fault : DatabaseFault}

theorem pure (a : α) : Runs (pure a) d (.ok a) [] [] := by
  intro sent observed
  simp only [List.length_nil, Database.after_zero, Database.receives_nil, List.append_nil]
  rfl

theorem throw (e : Failure) : Runs (throw e : Session α) d (.error e) [] [] := by
  intro sent observed
  simp only [List.length_nil, Database.after_zero, Database.receives_nil, List.append_nil]
  rfl

/-- A computation that puts no statements is part of a session. -/
theorem lift {r r' : Except Failure α} (h : r = r') : Runs (liftM r : Session α) d r' [] [] := by
  subst h
  cases r with
  | ok a => exact .pure a
  | error e => exact .throw e

theorem bind (h₁ : Runs m d (.ok a) ss os) (h₂ : Runs (f a) (d.after ss.length) result ts ps) :
    Runs (m >>= f) d result (ss ++ ts) (os ++ ps) := by
  intro sent observed
  have hfirst : (m >>= f).run.run ⟨d, sent, observed⟩ =
      (f a).run.run ⟨d.after ss.length, sent ++ d.receives ss, observed ++ os⟩ := by
    rw [run_bind, h₁]
  rw [hfirst, h₂, Database.after_after, Database.receives_append, List.length_append,
    List.append_assoc, List.append_assoc]

theorem bind_error (h : Runs m d (.error e) ss os) : Runs (m >>= f) d (.error e) ss os := by
  intro sent observed
  rw [run_bind, h]

/-- Behind what puts no statements. -/
theorem bind_offline (h₁ : Runs m d (.ok a) [] os) (h₂ : Runs (f a) d result ss ps) :
    Runs (m >>= f) d result ss (os ++ ps) :=
  h₁.bind (by rwa [List.length_nil, Database.after_zero])

theorem map (g : α → β) {r : Except Failure α} (h : Runs m d r ss os) :
    Runs (g <$> m) d (r.map g) ss os := by
  cases r with
  | ok a =>
      have hmap := h.bind (f := fun a => Pure.pure (g a)) (.pure (g a))
      rwa [List.append_nil, List.append_nil] at hmap
  | error e => exact h.bind_error

theorem observe (event : Observation) : Runs (observe event) d (.ok ()) [] [event] := by
  intro sent observed
  simp only [List.length_nil, Database.after_zero, Database.receives_nil, List.append_nil]
  rfl

theorem expect {value : Option α} {r : Except Failure α} (h : needed value = r) :
    Runs (expect value) d r [] [] := by
  subst h
  cases value with
  | none => exact .throw _
  | some a => exact .pure a

theorem attempt (s : Statement) (read? : Table → Option α) {r : Except DatabaseFault α}
    (h : readAnswer read? (d.answerAt 0) = r) :
    Runs (attempt s.kind s.sql s.parameters read?) d (.ok r) [s] [.statement s.kind (!r.isOk)] := by
  intro sent observed
  subst h
  rw [run_attempt, Exchange.send_eq]
  rfl

theorem ask_ok (s : Statement) {read? : Table → Option α}
    (h : readAnswer read? (d.answerAt 0) = .ok a) :
    Runs (ask s.kind s.sql s.parameters read?) d (.ok a) [s] [.statement s.kind false] :=
  (attempt s read? h).bind (.pure a)

theorem ask_error (s : Statement) {read? : Table → Option α}
    (h : readAnswer read? (d.answerAt 0) = .error fault) :
    Runs (ask s.kind s.sql s.parameters read?) d (.error (.database fault)) [s]
      [.statement s.kind true] :=
  (attempt s read? h).bind (.throw _)

end Runs

/-- A failure that is up to the client, and what is counted of it: the user is not known, the
request is not valid, or its filter cannot be compiled. -/
inductive Refusal : Failure → List Observation → Prop
  | unauthorized (reason : String) : Refusal (.unauthorized reason) []
  | invalid (reason : String) : Refusal (.invalid reason) []
  | query {e : QueryError} (h : e.isClientError) : Refusal (.query e) [.compilation (some e)]

/-- The session fails in such a way before it puts any statement to a database, and counts only the
events `os`. -/
def Refuses (m : Session α) (os : List Observation) : Prop :=
  ∃ e, Refusal e os ∧ ∀ d, Runs m d (.error e) [] os

namespace Refuses

variable {m : Session α} {f : α → Session β} {os : List Observation}

theorem lift {r : Except Failure α} {e : Failure} (h : r = .error e) (he : Refusal e []) :
    Refuses (liftM r : Session α) [] :=
  ⟨e, he, fun _ => .lift h⟩

theorem bind (h : Refuses m os) : Refuses (m >>= f) os := by
  obtain ⟨e, he, hruns⟩ := h
  exact ⟨e, he, fun d => (hruns d).bind_error⟩

/-- Behind a check that is passed. -/
theorem behind {r : Except Failure α} {a : α} (h₁ : r = .ok a) (h₂ : Refuses (f a) os) :
    Refuses ((liftM r : Session α) >>= f) os := by
  obtain ⟨e, he, hruns⟩ := h₂
  exact ⟨e, he, fun d => (Runs.lift h₁).bind_offline (hruns d)⟩

end Refuses

end Session

end EntityFilter
