import EntityFilter.Proofs.Service.Access

/-!
# What responses tell of database errors

Two databases are alike if they answer the same tables to the same statements, and differ only in
the errors that they report (`Database.Alike`).  An operation takes the same course on both: it puts
the same statements and counts the same events, and where it fails on one it fails on the other
(`Service.Matches.alike`, `Service.Follows.alike`, `Service.Answers.alike`).

**A response tells nothing of an error but the column that does not exist**
(`App.errors_concealed`).  Only an error that answers the statement of a filter is looked into, and
the response depends on it by the name that is cut out of its message (`Service.NamesColumn`) and by
nothing else.
-/

namespace EntityFilter

open Session (Refuses Runs readAnswer)

/-! ### Columns in messages -/

namespace Service

/-- `mark` stands in the text between `front` and `back`, and nowhere before. -/
def FirstAt (mark text front back : List Char) : Prop :=
  text = front ++ mark ++ back ∧
    ∀ front' back', text = front' ++ mark ++ back' → front.length ≤ front'.length

theorem firstAt_of_start {mark text front back : List Char} (h : mark <+: text) :
    FirstAt mark text front back ↔ front = [] ∧ text = mark ++ back := by
  obtain ⟨rest, hrest⟩ := h
  constructor
  · rintro ⟨htext, hfirst⟩
    have hle := hfirst [] rest hrest.symm
    obtain rfl := List.eq_nil_of_length_eq_zero (Nat.le_zero.mp hle)
    exact ⟨rfl, htext⟩
  · rintro ⟨rfl, htext⟩
    exact ⟨htext, fun _ _ _ => Nat.zero_le _⟩

/-- Where no mark starts, the first one is that of the rest. -/
theorem firstAt_cons {mark rest front back : List Char} {c : Char} (h : ¬ mark <+: c :: rest) :
    FirstAt mark (c :: rest) front back ↔
      ∃ front', FirstAt mark rest front' back ∧ c :: front' = front := by
  constructor
  · rintro ⟨htext, hfirst⟩
    cases front with
    | nil => exact absurd ⟨back, htext.symm⟩ h
    | cons d front =>
        obtain ⟨rfl, rfl⟩ := List.cons.inj htext
        refine ⟨front, ⟨by simp, fun front' back' htext' => ?_⟩, rfl⟩
        have hle := hfirst (c :: front') back' (congrArg (c :: ·) htext')
        simpa using hle
  · rintro ⟨front, ⟨rfl, hfirst⟩, rfl⟩
    refine ⟨by simp, fun front' back' htext => ?_⟩
    cases front' with
    | nil => exact absurd ⟨back', htext.symm⟩ h
    | cons d front' =>
        have hle := hfirst front' back' (List.cons.inj htext).2
        simpa using hle

/-- A text is split at the first mark in it. -/
theorem splitAt?_eq_some_iff {mark text front back : List Char} :
    splitAt? mark text = some (front, back) ↔ FirstAt mark text front back := by
  induction text generalizing front with
  | nil =>
      rw [splitAt?]
      by_cases hmark : mark = []
      · rw [firstAt_of_start (by simp [hmark])]
        simp [hmark, eq_comm]
      · have hnever : ¬ FirstAt mark [] front back := by
          rintro ⟨htext, -⟩
          simp [hmark] at htext
        simpa [hmark] using hnever
  | cons c rest ih =>
      rw [splitAt?]
      split
      case isTrue h =>
        have hprefix := List.isPrefixOf_iff_prefix.mp h
        obtain ⟨others, hothers⟩ := hprefix
        rw [firstAt_of_start ⟨others, hothers⟩, ← hothers, List.drop_left]
        simp [eq_comm]
      case isFalse h =>
        rw [firstAt_cons (fun hprefix => h (List.isPrefixOf_iff_prefix.mpr hprefix))]
        simp only [Option.map_eq_some_iff, Prod.exists, Prod.mk.injEq]
        constructor
        · rintro ⟨front', _, hsplit, hfront, rfl⟩
          exact ⟨front', ih.mp hsplit, hfront⟩
        · rintro ⟨front', hfirst, hfront⟩
          exact ⟨front', back, ih.mpr hfirst, hfront, rfl⟩

/-- The name of a column without the blanks and then the quotes around it. -/
def bareName (text : List Char) : String :=
  let name := (Text.trimEnd (Text.trimStart text)).dropWhile (· == '"')
  String.ofList (name.reverse.dropWhile (· == '"')).reverse

/-- A message names a column: between the first `column ` and the next ` does not exist`. -/
def NamesColumn (message name : String) : Prop :=
  ∃ front rest between back, FirstAt "column ".toList message.toList front rest ∧
    FirstAt " does not exist".toList rest between back ∧ name = bareName between ∧ name ≠ ""

theorem unknownColumn?_eq_some_iff {message name : String} :
    unknownColumn? message = some name ↔ NamesColumn message name := by
  have hname : ∀ between, (let name := (Text.trimEnd (Text.trimStart between)).dropWhile (· == '"')
      let name := (name.reverse.dropWhile (· == '"')).reverse
      if name.isEmpty then none else some (String.ofList name)) = some name ↔
        name = bareName between ∧ name ≠ "" := by
    intro between
    simp only [bareName, List.isEmpty_iff]
    split
    case isTrue h => simp [h]
    case isFalse h =>
      rw [Option.some.injEq, eq_comm]
      refine (and_iff_left_of_imp ?_).symm
      rintro rfl hempty
      exact h (String.ofList_eq_empty_iff.mp hempty)
  simp only [unknownColumn?, NamesColumn, bind, Option.bind_eq_some_iff, Prod.exists,
    splitAt?_eq_some_iff, hname]
  constructor
  · rintro ⟨front, rest, hfirst, between, back, hnext, hbare⟩
    exact ⟨front, rest, between, back, hfirst, hnext, hbare⟩
  · rintro ⟨front, rest, between, back, hfirst, hnext, hbare⟩
    exact ⟨front, rest, hfirst, between, back, hnext, hbare⟩

end Service

/-! ### Databases that are alike -/

/-- Replies that differ at most in an error. -/
inductive Reply.Alike : Reply → Reply → Prop
  | table (t : Table) : Alike (.table t) (.table t)
  | error (e₁ e₂ : DatabaseError) : Alike (.error e₁) (.error e₂)

/-- Databases that differ at most in the errors that they report. -/
inductive Database.Alike : Database → Database → Prop
  | replies {rs₁ rs₂ : List Reply} (h : List.Forall₂ Reply.Alike rs₁ rs₂) :
      Alike (.replies rs₁) (.replies rs₂)
  | refuses (e₁ e₂ : DatabaseError) : Alike (.refuses e₁) (.refuses e₂)

/-- Answers that differ at most in an error. -/
inductive AnswersAlike {α : Type} : Except DatabaseFault α → Except DatabaseFault α → Prop
  | ok (a : α) : AnswersAlike (.ok a) (.ok a)
  | error (f₁ f₂ : DatabaseFault) : AnswersAlike (.error f₁) (.error f₂)

theorem AnswersAlike.readAnswer {a₁ a₂ : Except DatabaseFault Table} (h : AnswersAlike a₁ a₂)
    {α : Type} (read? : Table → Option α) :
    AnswersAlike (readAnswer read? a₁) (readAnswer read? a₂) := by
  cases h with
  | error f₁ f₂ => exact .error f₁ f₂
  | ok t =>
      cases hread : Session.readAnswer read? (.ok t) with
      | error f => exact .error f f
      | ok a => exact .ok a

namespace Database.Alike

variable {d₁ d₂ : Database}

theorem after (h : d₁.Alike d₂) (n : Nat) : (d₁.after n).Alike (d₂.after n) := by
  cases h with
  | refuses e₁ e₂ => exact .refuses e₁ e₂
  | replies h => exact .replies (List.forall₂_drop n h)

theorem answerAt (h : d₁.Alike d₂) (i : Nat) : AnswersAlike (d₁.answerAt i) (d₂.answerAt i) := by
  cases h with
  | refuses e₁ e₂ => exact .error _ _
  | replies h =>
      have hreply : ∀ {r₁ r₂ : Reply}, r₁.Alike r₂ → AnswersAlike r₁.answer r₂.answer := by
        rintro r₁ r₂ (t | ⟨e₁, e₂⟩)
        · exact .ok t
        · exact .error _ _
      induction h generalizing i with
      | nil => exact .error _ _
      | cons hr _ ih =>
          cases i with
          | zero => exact hreply hr
          | succ i => exact ih i

/-- Whatever is read from an answer is read on both sides, or on none. -/
theorem readAnswer (h : d₁.Alike d₂) {α : Type} (read? : Table → Option α) (i : Nat) :
    AnswersAlike (readAnswer read? (d₁.answerAt i)) (readAnswer read? (d₂.answerAt i)) :=
  (h.answerAt i).readAnswer read?

end Database.Alike

theorem AnswersAlike.of_ok {α : Type} {a₁ a₂ : Except DatabaseFault α} {a : α}
    (h : AnswersAlike a₁ a₂) (ha : a₁ = .ok a) : a₂ = .ok a := by
  cases h with
  | ok b => exact ha
  | error f₁ f₂ => cases ha

theorem AnswersAlike.of_error {α : Type} {a₁ a₂ : Except DatabaseFault α} {f : DatabaseFault}
    (h : AnswersAlike a₁ a₂) (hf : a₁ = .error f) : ∃ f', a₂ = .error f' := by
  cases h with
  | ok b => cases hf
  | error f₁ f₂ => exact ⟨f₂, rfl⟩

/-! ### Courses on databases that are alike -/

/-- Results that a client cannot tell apart: a failure of the database is worded without it. -/
inductive Concealed {α : Type} : Except Failure α → Except Failure α → Prop
  | same (result : Except Failure α) : Concealed result result
  | database (f₁ f₂ : DatabaseFault) : Concealed (.error (.database f₁)) (.error (.database f₂))

theorem Concealed.map {α β : Type} {r₁ r₂ : Except Failure α} (h : Concealed r₁ r₂) (f : α → β) :
    Concealed (r₁.map f) (r₂.map f) := by
  cases h with
  | same r => exact .same _
  | database f₁ f₂ => exact .database f₁ f₂

/-- The kind of the statement that an event is about. -/
def Observation.kind? : Observation → Option StatementKind
  | statement kind _ => some kind
  | _                => none

/-- In the course of these events the database answers the statement of a filter with the error
`e`.  The statements are numbered as they come. -/
def FilterFails (d : Database) (os : List Observation) (e : DatabaseError) : Prop :=
  ∃ i, (os.filterMap Observation.kind?)[i]? = some .filter ∧ d.answerAt i = .error (.reported e)

theorem FilterFails.congr {d : Database} {os ps : List Observation} {e : DatabaseError}
    (h : os.filterMap Observation.kind? = ps.filterMap Observation.kind?) :
    FilterFails d os e ↔ FilterFails d ps e := by
  rw [FilterFails, h, FilterFails]

/-- What becomes of the two errors that two databases answer to the statement of a filter. -/
inductive Disclosed (d₁ d₂ : Database) (os : List Observation) {α : Type} :
    Except Failure α → Except Failure α → Prop
  | concealed {r₁ r₂ : Except Failure α} (h : Concealed r₁ r₂) : Disclosed d₁ d₂ os r₁ r₂
  | filter {e₁ e₂ : DatabaseError} (h₁ : FilterFails d₁ os e₁) (h₂ : FilterFails d₂ os e₂) :
      Disclosed d₁ d₂ os (.error (Service.filterFailure (.reported e₁)))
        (.error (Service.filterFailure (.reported e₂)))

theorem Disclosed.map {d₁ d₂ : Database} {os : List Observation} {α β : Type}
    {r₁ r₂ : Except Failure α} (h : Disclosed d₁ d₂ os r₁ r₂) (f : α → β) :
    Disclosed d₁ d₂ os (r₁.map f) (r₂.map f) := by
  cases h with
  | concealed h => exact .concealed (h.map f)
  | filter h₁ h₂ => exact .filter h₁ h₂

theorem Disclosed.congr {d₁ d₂ : Database} {os ps : List Observation} {α : Type}
    {r₁ r₂ : Except Failure α} (h : Disclosed d₁ d₂ ps r₁ r₂)
    (hkinds : os.filterMap Observation.kind? = ps.filterMap Observation.kind?) :
    Disclosed d₁ d₂ os r₁ r₂ := by
  cases h with
  | concealed h => exact .concealed h
  | filter h₁ h₂ =>
      exact .filter ((FilterFails.congr hkinds).mpr h₁) ((FilterFails.congr hkinds).mpr h₂)

theorem Disclosed.of_ok {d₁ d₂ : Database} {os : List Observation} {α : Type} {a : α}
    {r : Except Failure α} (h : Disclosed d₁ d₂ os (.ok a) r) : r = .ok a := by
  cases h with
  | concealed h =>
      cases h with
      | same => rfl

theorem Disclosed.of_error {d₁ d₂ : Database} {os : List Observation} {α : Type} {e : Failure}
    {r : Except Failure α} (h : Disclosed d₁ d₂ os (.error e) r) : ∃ e', r = .error e' := by
  cases h with
  | concealed h =>
      cases h with
      | same => exact ⟨e, rfl⟩
      | database f₁ f₂ => exact ⟨_, rfl⟩
  | filter h₁ h₂ => exact ⟨_, rfl⟩

/-- A database that answers one statement answers all others too, by a table or by an error. -/
theorem Database.reported_of_answers {d : Database} {i j : Nat} {t : Table} {fault : DatabaseFault}
    (hanswer : d.answerAt i = .ok t) (hfault : d.answerAt j = .error fault) :
    ∃ e, fault = .reported e := by
  cases d with
  | refuses e => cases hanswer
  | replies rs =>
      rw [answerAt] at hfault
      generalize rs.getD j (.error noReply) = reply at hfault
      cases reply with
      | table t => cases hfault
      | error e => exact ⟨e, (Except.error.inj hfault).symm⟩

namespace Service

section Alike

variable {s : Service} {userId orgId : Int} {c : CompiledQuery} {d₁ d₂ : Database}
  {ss : List Statement} {os : List Observation}

/-- **The entities of a filter are found in the same way.** -/
theorem Matches.alike (halike : d₁.Alike d₂) {result : Except Failure (List Entity)}
    (h : s.Matches userId orgId c d₁ result ss os) :
    ∃ result', s.Matches userId orgId c d₂ result' ss os ∧ Disclosed d₁ d₂ os result result' := by
  have htruth := halike.readAnswer Table.truth? 0
  have hsecond := halike.answerAt 1
  cases h with
  | untold h =>
      obtain ⟨fault, hfault⟩ := htruth.of_error h
      exact ⟨_, .untold hfault, .concealed (.database _ _)⟩
  | denied h => exact ⟨_, .denied (htruth.of_ok h), .concealed (.same _)⟩
  | failed h hanswer =>
      obtain ⟨fault, hfault⟩ := hsecond.of_error hanswer
      have htrue := htruth.of_ok h
      obtain ⟨t₁, ht₁, -⟩ := Session.readAnswer_eq_ok_iff.mp h
      obtain ⟨t₂, ht₂, -⟩ := Session.readAnswer_eq_ok_iff.mp htrue
      obtain ⟨e₁, rfl⟩ := Database.reported_of_answers ht₁ hanswer
      obtain ⟨e₂, rfl⟩ := Database.reported_of_answers ht₂ hfault
      exact ⟨_, .failed htrue hfault, .filter ⟨1, rfl, hanswer⟩ ⟨1, rfl, hfault⟩⟩
  | unreadable h hanswer hrows =>
      exact ⟨_, .unreadable (htruth.of_ok h) (hsecond.of_ok hanswer) hrows, .concealed (.same _)⟩
  | found h hanswer hrows =>
      exact ⟨_, .found (htruth.of_ok h) (hsecond.of_ok hanswer) hrows, .concealed (.same _)⟩

/-- **What is asked for the entities is read in the same way.** -/
theorem Follows.alike (halike : d₁.Alike d₂) {ids : List Int} {f : FollowUp}
    {result : Except Failure (List Json)} (h : s.Follows orgId d₁ ids f result ss os) :
    ∃ result', s.Follows orgId d₂ ids f result' ss os ∧ Concealed result result' := by
  have hname := halike.readAnswer Table.tableName? 0
  have hsecond := halike.answerAt 1
  have hcurrent := halike.readAnswer (fun t => t.rows.mapM (variableValue? t)) 0
  cases h with
  | untold h =>
      obtain ⟨fault, hfault⟩ := hname.of_error h
      exact ⟨_, .untold hfault, .database _ _⟩
  | unnamed h => exact ⟨_, .unnamed (hname.of_ok h), .same _⟩
  | unusable h hsql => exact ⟨_, .unusable (hname.of_ok h) hsql, .same _⟩
  | seriesFailed h hsql hanswer =>
      obtain ⟨fault, hfault⟩ := hsecond.of_error hanswer
      exact ⟨_, .seriesFailed (hname.of_ok h) hsql hfault, .database _ _⟩
  | seriesUnreadable h hsql hanswer hrows =>
      exact ⟨_, .seriesUnreadable (hname.of_ok h) hsql (hsecond.of_ok hanswer) hrows, .same _⟩
  | series h hsql hanswer hrows =>
      exact ⟨_, .series (hname.of_ok h) hsql (hsecond.of_ok hanswer) hrows, .same _⟩
  | currentFailed h =>
      obtain ⟨fault, hfault⟩ := hcurrent.of_error h
      exact ⟨_, .currentFailed hfault, .database _ _⟩
  | current h => exact ⟨_, .current (hcurrent.of_ok h), .same _⟩

theorem Answers.alike (halike : d₁.Alike d₂) {f : FollowUp} {result : Except Failure (List Json)}
    (h : s.Answers userId orgId c d₁ f result ss os) :
    ∃ result', s.Answers userId orgId c d₂ f result' ss os ∧
      Disclosed d₁ d₂ os result result' := by
  cases h with
  | unmatched h =>
      obtain ⟨found, hmatches, hdisclosed⟩ := h.alike halike
      obtain ⟨e, rfl⟩ := hdisclosed.of_error
      exact ⟨_, .unmatched hmatches, hdisclosed.map fun _ => []⟩
  | empty h hids =>
      obtain ⟨found, hmatches, hdisclosed⟩ := h.alike halike
      obtain rfl := hdisclosed.of_ok
      exact ⟨_, .empty hmatches hids, .concealed (.same _)⟩
  | followed h hids hfollows =>
      obtain ⟨found, hmatches, hdisclosed⟩ := h.alike halike
      obtain rfl := hdisclosed.of_ok
      obtain ⟨result', hfollows', hconcealed⟩ := hfollows.alike (halike.after _)
      exact ⟨result', .followed hmatches hids hfollows', .concealed hconcealed⟩

end Alike

/-! ### A filter that fails -/

section Fails

variable {s : Service} {userId orgId : Int} {c : CompiledQuery} {d : Database}
  {ss : List Statement} {os : List Observation} {e : DatabaseError}

theorem Matches.of_filterFails {result : Except Failure (List Entity)}
    (h : s.Matches userId orgId c d result ss os) (hfails : FilterFails d os e) :
    result = .error (filterFailure (.reported e)) := by
  obtain ⟨i, hkind, herror⟩ := hfails
  -- the statement of the filter is the second one
  obtain rfl : i = 1 := by
    cases h with
    | untold | denied | failed | unreadable | found =>
        rcases i with _ | _ | i <;> simp_all [Observation.kind?]
  cases h with
  | untold | denied => simp [Observation.kind?] at hkind
  | failed h hanswer =>
      obtain rfl := Except.error.inj (hanswer.symm.trans herror)
      rfl
  | unreadable h hanswer hrows => cases hanswer.symm.trans herror
  | found h hanswer hrows => cases hanswer.symm.trans herror

theorem Follows.filter_notMem {ids : List Int} {f : FollowUp} {result : Except Failure (List Json)}
    (h : s.Follows orgId d ids f result ss os) : .filter ∉ os.filterMap Observation.kind? := by
  cases h <;> simp [Observation.kind?]

theorem Answers.of_filterFails {f : FollowUp} {result : Except Failure (List Json)}
    (h : s.Answers userId orgId c d f result ss os) (hfails : FilterFails d os e) :
    result = .error (filterFailure (.reported e)) := by
  cases h with
  | unmatched h =>
      obtain rfl := Except.error.inj (h.of_filterFails hfails)
      rfl
  | empty h hids => cases h.of_filterFails hfails
  | followed h hids hfollows =>
      obtain ⟨i, hkind, herror⟩ := hfails
      rw [List.filterMap_append, List.getElem?_append] at hkind
      split at hkind
      case isTrue => cases h.of_filterFails ⟨i, hkind, herror⟩
      case isFalse => exact absurd (List.mem_of_getElem? hkind) hfollows.filter_notMem

end Fails

end Service

/-- Beside statements, events tell no kind. -/
theorem Service.kinds_followed (s : Service) (c : CompiledQuery) (os : List Observation) :
    (s.compilationEvents c ++ os).filterMap Observation.kind? =
      os.filterMap Observation.kind? := by
  rw [List.filterMap_append]
  rfl

theorem Service.kinds_entities (s : Service) (c : CompiledQuery) (os : List Observation)
    (found : Except Failure (List Entity)) :
    (s.compilationEvents c ++ os ++ resultEvents .filter found).filterMap Observation.kind? =
      os.filterMap Observation.kind? := by
  rw [List.filterMap_append, kinds_followed]
  cases found <;> exact List.append_nil _

namespace Plan.Course

variable {p : Plan} {s : Service} {ss : List Statement} {os : List Observation}
  {result : Except Failure Content}

/-- **A plan takes the same course on databases that are alike.** -/
theorem alike {d₁ d₂ : Database} (halike : d₁.Alike d₂) (h : p.Course s d₁ result ss os) :
    ∃ result', p.Course s d₂ result' ss os ∧ Disclosed d₁ d₂ os result result' := by
  cases h with
  | @entities userId orgId c found ss os h =>
      obtain ⟨found', hmatches, hdisclosed⟩ := h.alike halike
      have hevents : Service.resultEvents .filter found = Service.resultEvents .filter found' := by
        cases found with
        | ok entities => rw [hdisclosed.of_ok]
        | error e =>
            obtain ⟨e', rfl⟩ := hdisclosed.of_error
            rfl
      have hcourse := Course.entities hmatches
      rw [← hevents] at hcourse
      refine ⟨_, hcourse, ?_⟩
      exact ((hdisclosed.congr (s.kinds_entities c os found)).map _).map _
  | followed h =>
      obtain ⟨result', hanswers, hdisclosed⟩ := h.alike halike
      exact ⟨_, .followed hanswers, (hdisclosed.congr (s.kinds_followed _ _)).map _⟩

/-- Of a filter that fails the error decides the result. -/
theorem of_filterFails {d : Database} {e : DatabaseError} (h : p.Course s d result ss os)
    (hfails : FilterFails d os e) :
    result = .error (Service.filterFailure (.reported e)) := by
  cases h with
  | entities h =>
      rw [h.of_filterFails ((FilterFails.congr (s.kinds_entities _ _ _)).mp hfails)]
      rfl
  | followed h =>
      rw [h.of_filterFails ((FilterFails.congr (s.kinds_followed _ _)).mp hfails)]
      rfl

end Plan.Course

/-! ### Responses -/

theorem Session.Refusal.kinds_eq_nil {e : Failure} {os : List Observation}
    (h : Session.Refusal e os) : os.filterMap Observation.kind? = [] := by
  cases h <;> rfl

/-- What a client is told of an error that answers the statement of a filter, by the column that its
message names. -/
def columnReport : Option String → Json
  | some name => .obj [
      ("detail", .str ("Invalid column name '" ++ name ++
        "'. Please correct the column name in the 'tags' list.")),
      ("type", .str "unknown_column")]
  | none => .obj [("detail", .str "Internal server error"), ("type", .str "internal_error")]

namespace App

theorem response_filterFailure (e : DatabaseError) :
    response (.error (Service.filterFailure (.reported e))) =
      jsonResponse 500 (columnReport (Service.unknownColumn? e.message)) := by
  rw [Service.filterFailure]
  cases Service.unknownColumn? e.message <;> rfl

theorem response_of_concealed {r₁ r₂ : Except Failure Content} (h : Concealed r₁ r₂) :
    response r₁ = response r₂ := by
  cases h <;> rfl

variable {app : App} {r : HttpRequest} {route : Route} {d : Database} {ss : List Statement}
  {os : List Observation}

/-- An admitted request runs every course of its plan. -/
theorem Admits.runs_course {plan : Plan} {result : Except Failure Content}
    (h : app.Admits r route plan) (hcourse : plan.Course app.service d result ss os) :
    Runs (app.answer r route) d result ss os := by
  cases h with
  | filter huser hbody hcheck hcompile =>
      cases hcourse with
      | entities hmatches =>
          exact runs_operate huser hbody
            ((hmatches.runs_filter hcheck hcompile).map (List.map Entity.toJson))
  | values huser hbody hcheck hrange hbucketing hcompile =>
      cases hcourse with
      | followed hanswers =>
          exact runs_operate huser hbody
            (hanswers.runs_values hcheck hrange hbucketing hcompile)
  | variableValues huser hbody hcheck hcompile =>
      cases hcourse with
      | followed hanswers =>
          exact runs_operate huser hbody (hanswers.runs_variableValues hcheck hcompile)

/-- The response with the headers that every response has. -/
def withHeaders (app : App) (r : HttpRequest) (id : String) (p : HttpResponse) : HttpResponse :=
  { p with headers := p.headers ++ traceHeaders r id ++ app.originHeaders r }

theorem kinds_sizeEvent (r : HttpRequest) : (sizeEvent r).filterMap Observation.kind? = [] := by
  rw [sizeEvent]
  split <;> rfl

/-- The routes make the response, which gets its headers, and the statements are theirs. -/
theorem respond_of_routed {p : HttpResponse} (id : String) (hmethod : r.method ≠ "OPTIONS")
    (h : ∀ seen, ∃ x, app.routed r ⟨d, [], seen⟩ = (p, x) ∧ x.observed = seen ++ os) :
    (app.respond r id d).1 = app.withHeaders r id p ∧
    (app.respond r id d).2.observed.filterMap Observation.kind? =
      os.filterMap Observation.kind? := by
  obtain ⟨x, hrouted, hobserved⟩ := h (.arrival r.method (Route.label r.route?) :: sizeEvent r)
  simp only [respond, counted, if_neg hmethod, List.nil_append, hrouted]
  refine ⟨rfl, ?_⟩
  rw [hobserved, List.filterMap_append, List.filterMap_append, List.filterMap_cons, kinds_sizeEvent]
  exact List.append_nil _

/-- A request that is not admitted as an operation is routed without the database. -/
theorem exists_routed_of_not_admitted
    (h : ∀ route plan, r.method = "POST" → r.route? = some route → ¬ app.Admits r route plan) :
    ∃ p os, os.filterMap Observation.kind? = [] ∧ ∀ d seen, ∃ x,
      app.routed r ⟨d, [], seen⟩ = (p, x) ∧ x.observed = seen ++ os := by
  cases hroute : r.route? with
  | none =>
      exact ⟨⟨404, [], .empty⟩, [], rfl, fun d seen => ⟨_, by rw [routed, hroute], by simp⟩⟩
  | some route =>
      by_cases hmethod : route.methods.contains r.method
      · cases hreads : route.reads with
        | true =>
            obtain ⟨content, hrun⟩ : ∃ content, ∀ x,
                (app.answer r route).run.run x = (.ok content, x) := by
              cases route with
              | health | metrics => exact ⟨_, fun x => rfl⟩
              | filter | values | variableValues => cases hreads
            let found := response (.ok content)
            refine ⟨if r.method = "HEAD" then { found with content := .empty } else found, [], rfl,
              fun d seen => ⟨⟨d, [], seen⟩, ?_, by simp⟩⟩
            simp only [routed, hroute, if_pos hmethod, hrun, found]
        | false =>
            have hpost : r.method = "POST" := by simpa [Route.methods, hreads] using hmethod
            rcases app.admits_or_refuses r hreads with ⟨plan, hplan⟩ | ⟨os, e, hrefusal, hruns⟩
            · exact absurd hplan (h route plan hpost hroute)
            · exact ⟨_, os, hrefusal.kinds_eq_nil, fun d seen =>
                ⟨_, routed_of_runs hpost hroute hreads (hruns d) seen, rfl⟩⟩
      · refine ⟨⟨405, [route.allowHeader], .empty⟩, [], rfl,
          fun d seen => ⟨⟨d, [], seen⟩, ?_, by simp⟩⟩
        simp only [routed, hroute, if_neg hmethod]

/-- A request that is not admitted as an operation is answered without the database. -/
theorem exists_respond_of_not_admitted (id : String)
    (h : ∀ route plan, r.method = "POST" → r.route? = some route → ¬ app.Admits r route plan) :
    ∃ p, ∀ d, (app.respond r id d).1 = p ∧
      (app.respond r id d).2.observed.filterMap Observation.kind? = [] := by
  by_cases hmethod : r.method = "OPTIONS"
  · exact ⟨app.preflight r, fun d => by simp [respond, hmethod]⟩
  · obtain ⟨p, os, hkinds, hrouted⟩ := exists_routed_of_not_admitted h
    refine ⟨app.withHeaders r id p, fun d => ?_⟩
    rw [← hkinds]
    exact respond_of_routed id hmethod (hrouted d)

/-- An admitted request is answered as its course ends. -/
theorem respond_of_course {plan : Plan} {result : Except Failure Content} (id : String)
    (hpost : r.method = "POST") (hroute : r.route? = some route) (h : app.Admits r route plan)
    (hcourse : plan.Course app.service d result ss os) :
    (app.respond r id d).1 = app.withHeaders r id (response result) ∧
    (app.respond r id d).2.observed.filterMap Observation.kind? =
      os.filterMap Observation.kind? := by
  have hreads : route.reads = false := by cases h <;> rfl
  exact respond_of_routed id (by simp [hpost]) fun seen =>
    ⟨_, routed_of_runs hpost hroute hreads (h.runs_course hcourse) seen, rfl⟩

/-- A response to a filter that fails depends on the error by the column that it names. -/
theorem respond_of_filterFails (id : String) {e : DatabaseError}
    (h : FilterFails d (app.respond r id d).2.observed e) :
    (app.respond r id d).1 = app.withHeaders r id
      (jsonResponse 500 (columnReport (Service.unknownColumn? e.message))) := by
  by_cases hplan : ∃ route plan, r.method = "POST" ∧ r.route? = some route ∧ app.Admits r route plan
  · obtain ⟨route, plan, hpost, hroute, hadmits⟩ := hplan
    obtain ⟨result, ss, os, -, hcourse⟩ := hadmits.exists_course d
    obtain ⟨hrespond, hkinds⟩ := respond_of_course id hpost hroute hadmits hcourse
    rw [hrespond, hcourse.of_filterFails ((FilterFails.congr hkinds).mp h), response_filterFailure]
  · obtain ⟨p, hp⟩ := exists_respond_of_not_admitted id fun route plan hpost hroute hadmits =>
      hplan ⟨route, plan, hpost, hroute, hadmits⟩
    obtain ⟨i, hkind, -⟩ := h
    rw [(hp d).2] at hkind
    cases hkind

/-- On databases that are alike a request is answered alike, or errors answer its filter. -/
theorem respond_eq_or_filterFails (id : String) {d₁ d₂ : Database} (h : d₁.Alike d₂) :
    (app.respond r id d₁).1 = (app.respond r id d₂).1 ∨
      ∃ e₁ e₂, FilterFails d₁ (app.respond r id d₁).2.observed e₁ ∧
        FilterFails d₂ (app.respond r id d₂).2.observed e₂ := by
  by_cases hplan : ∃ route plan, r.method = "POST" ∧ r.route? = some route ∧ app.Admits r route plan
  · obtain ⟨route, plan, hpost, hroute, hadmits⟩ := hplan
    obtain ⟨result, ss, os, -, hcourse⟩ := hadmits.exists_course d₁
    obtain ⟨result', hcourse', hdisclosed⟩ := hcourse.alike h
    obtain ⟨hrespond₁, hkinds₁⟩ := respond_of_course id hpost hroute hadmits hcourse
    obtain ⟨hrespond₂, hkinds₂⟩ := respond_of_course id hpost hroute hadmits hcourse'
    cases hdisclosed with
    | concealed hconcealed =>
        left
        rw [hrespond₁, hrespond₂, response_of_concealed hconcealed]
    | filter h₁ h₂ =>
        exact .inr ⟨_, _, (FilterFails.congr hkinds₁).mpr h₁, (FilterFails.congr hkinds₂).mpr h₂⟩
  · obtain ⟨p, hp⟩ := exists_respond_of_not_admitted id fun route plan hpost hroute hadmits =>
      hplan ⟨route, plan, hpost, hroute, hadmits⟩
    exact .inl ((hp d₁).1.trans (hp d₂).1.symm)

/-- **Responses tell nothing of database errors but the column that does not exist.**  On databases
that differ only in the errors that they report, a request is answered with the same status and the
same headers.  The bodies are the same as well, unless errors answer the statement of the filter and
their messages do not name the same column.  The answer to such an error depends on its message only
by the column: the name between the first `column ` and the next ` does not exist`. -/
theorem errors_concealed (app : App) (r : HttpRequest) (id : String) {d₁ d₂ : Database}
    (h : d₁.Alike d₂) :
    let p₁ := (app.respond r id d₁).1
    let p₂ := (app.respond r id d₂).1
    let fails₁ := FilterFails d₁ (app.respond r id d₁).2.observed
    let fails₂ := FilterFails d₂ (app.respond r id d₂).2.observed
    p₁.status = p₂.status ∧ p₁.headers = p₂.headers ∧
    (p₁.content = p₂.content ∨ ∃ e₁ e₂, fails₁ e₁ ∧ fails₂ e₂ ∧
      Service.unknownColumn? e₁.message ≠ Service.unknownColumn? e₂.message) ∧
    (∀ e, fails₁ e → p₁.status = 500 ∧
      p₁.content = .json (columnReport (Service.unknownColumn? e.message))) ∧
    (∀ e, fails₂ e → p₂.status = 500 ∧
      p₂.content = .json (columnReport (Service.unknownColumn? e.message))) ∧
    ∀ message name, Service.unknownColumn? message = some name ↔
      Service.NamesColumn message name := by
  intro p₁ p₂ fails₁ fails₂
  have hfails₁ : ∀ e, fails₁ e → p₁ = _ := fun e => respond_of_filterFails id
  have hfails₂ : ∀ e, fails₂ e → p₂ = _ := fun e => respond_of_filterFails id
  have hsame : p₁.status = p₂.status ∧ p₁.headers = p₂.headers ∧ (p₁.content = p₂.content ∨
      ∃ e₁ e₂, fails₁ e₁ ∧ fails₂ e₂ ∧
        Service.unknownColumn? e₁.message ≠ Service.unknownColumn? e₂.message) := by
    rcases respond_eq_or_filterFails id h with heq | ⟨e₁, e₂, h₁, h₂⟩
    · have heq : p₁ = p₂ := heq
      rw [heq]
      exact ⟨rfl, rfl, .inl rfl⟩
    · rw [hfails₁ e₁ h₁, hfails₂ e₂ h₂]
      refine ⟨rfl, rfl, ?_⟩
      by_cases hcolumn : Service.unknownColumn? e₁.message = Service.unknownColumn? e₂.message
      · rw [hcolumn]
        exact .inl rfl
      · exact .inr ⟨e₁, e₂, h₁, h₂, hcolumn⟩
  refine ⟨hsame.1, hsame.2.1, hsame.2.2, fun e he => ?_, fun e he => ?_, fun message name =>
    Service.unknownColumn?_eq_some_iff⟩
  · rw [hfails₁ e he]
    exact ⟨rfl, rfl⟩
  · rw [hfails₂ e he]
    exact ⟨rfl, rfl⟩

set_option maxRecDepth 8000 in
/-- Of two errors that answer the same filter, the one names a column and is told, and the other one
is not. -/
theorem errors_concealed_but_column :
    let app : App := ⟨{}, ⟨.standard, "public", by decide⟩⟩
    let r : HttpRequest :=
      { target := { path := "/filter" }
        headers := [("x-user-id", "7"), ("content-type", "application/json")]
        body := "\x7b\"filter\":\"a\",\"org_id\":1\x7d" }
    let named : DatabaseError := ⟨"42703", "column \"x\" does not exist"⟩
    let unnamed : DatabaseError := ⟨"42P01", "relation \"x\" does not exist"⟩
    let database (e : DatabaseError) : Database :=
      .replies [.table ⟨["exists"], [[.bool true]]⟩, .error e]
    (database named).Alike (database unnamed) ∧
    (app.respond r "1" (database named)).1.content = .json (columnReport (some "x")) ∧
    (app.respond r "1" (database unnamed)).1.content = .json (columnReport none) := by
  intro app r named unnamed database
  have hdraft : Draft.ofText r.body =
      .obj [(some "filter", .str (some "a")), (some "org_id", .int 1)] true := by cbv
  have htype : (r.plainHeader? "content-type").any Text.isJsonMediaType := by cbv
  have hbody : r.read app.settings.server.maxRequestBodySize FilterRequest.read =
      .ok ⟨"a", 1, none⟩ := by
    rw [HttpRequest.read, htype, hdraft]
    rfl
  have huser : r.NamesUser app.settings.auth.userHeader 7 := ⟨"7", by decide, by decide, by decide⟩
  have hparse : parse "a" = .ok (.has ⟨["a"]⟩) := by cbv
  obtain ⟨c, hcompile⟩ : ∃ c, (app.service.query 7 ⟨"a", 1, none⟩).compile app.service.compiler =
      .ok c :=
    ⟨_, Query.compile_eq_ok_iff.mpr ⟨by decide, _, _, hparse, rfl, rfl⟩⟩
  have hfails : ∀ e, FilterFails (database e) (app.respond r "1" (database e)).2.observed e := by
    intro e
    have hmatches : app.service.Matches 7 1 c (database e) _ _ _ := .failed rfl rfl
    have hadmits : app.Admits r .filter _ := .filter huser hbody rfl hcompile
    rw [FilterFails.congr (respond_of_course "1" rfl rfl hadmits (.entities hmatches)).2]
    exact ⟨1, rfl, rfl⟩
  have halike : (database named).Alike (database unnamed) :=
    .replies (.cons (.table _) (.cons (.error named unnamed) .nil))
  obtain ⟨-, -, -, hnamed, hunnamed, -⟩ := app.errors_concealed r "1" halike
  have hx : Service.unknownColumn? named.message = some "x" := by decide
  have hnone : Service.unknownColumn? unnamed.message = none := by decide
  exact ⟨halike, hx ▸ (hnamed named (hfails named)).2,
    hnone ▸ (hunnamed unnamed (hfails unnamed)).2⟩

end App

end EntityFilter
