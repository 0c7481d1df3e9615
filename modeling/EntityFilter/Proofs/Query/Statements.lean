import EntityFilter.Proofs.Query.Rendering

/-!
# Statements are well rendered

The parts of a statement are well rendered, whatever the filter is (`Query.renders_rows`,
`Query.renders_access`, `Query.renders_closing`): up to the access conditions the statement opens one
parenthesis that it does not close, and behind them it closes it.
-/

namespace EntityFilter

open Sql (Piece Item Renders marks outline)
open Sql.Piece (code literal identifier)

/-- The names of tags that a selection asks for. -/
def TagSelection.names : TagSelection → List String
  | .named tags     => tags
  | .entityIds | .all => []

section Parts

variable {schema : String} {free : Bool} {m : Nat}

theorem Closure.renders_sqlAll (hschema : Sql.Unmarked schema) (found : List Closure) :
    Renders free m m (Closure.sqlAll schema found) (found.map (·.tag)) := by
  cases found with
  | nil => exact .nil free m
  | cons c rest =>
      have hwalks : Renders true m m
          (Sql.between [code ", "] ((c :: rest).map (Closure.sql schema)))
          ((c :: rest).flatMap fun c => [c.tag]) :=
        .between (by decide) (by decide) fun c _ => Closure.renders_sql hschema c
      have hend : Renders false m m [code "\n"] [] := .unmarked (by decide) (by decide)
      have hall : Renders free m m (code "WITH RECURSIVE " :: (_ ++ [code "\n"])) _ :=
        .code_cons (by decide) (.nil m) (hwalks.append hend)
      simpa [Closure.sqlAll, List.map_eq_flatMap] using hall

namespace Query

theorem renders_columnList {columns : List String} (h : ∀ c ∈ columns, Sql.Unmarked c)
    {row : String} (hrow : Sql.Unmarked row) : Renders false m m (columnList columns row) [] := by
  induction columns with
  | nil => exact .nil false m
  | cons c columns ih =>
      obtain ⟨hc, hcolumns⟩ := List.forall_mem_cons.mp h
      have hcolumn : Sql.Unmarked s!", {row}.{c}" :=
        Sql.unmarked_append (Sql.unmarked_append (Sql.unmarked_append (by decide) hrow)
          (by decide)) hc
      exact (Renders.unmarked (by simp [toString]) hcolumn).append (ih hcolumns)

/-- One level of a statement selects columns from the rows in its parentheses. -/
theorem renders_level {columns : List String} (h : ∀ c ∈ columns, Sql.Unmarked c)
    {t row : String} (ht : t ≠ "") (hmarks : Sql.Unmarked t) (hrow : Sql.Unmarked row) :
    Renders false m (m + 1) ([code t] ++ columnList columns row ++ [code " FROM (\n"]) [] := by
  have hopen : Renders false m (m + 1) [code " FROM (\n"] [] :=
    .fixed (by decide) (.opening (.nil _))
  exact ((Renders.unmarked ht hmarks).append (renders_columnList h hrow)).append hopen

theorem renders_tagRestriction (selection : TagSelection) :
    Renders false m m (tagRestriction selection) selection.names := by
  cases selection with
  | entityIds => exact .unmarked (by decide) (by decide)
  | all => exact .nil false m
  | named tags =>
      have htags : Renders true (m + 1) (m + 1)
          (Sql.between [code ", "] (tags.map fun t => [literal t])) (tags.flatMap fun t => [t]) :=
        .between (by decide) (by decide) fun t _ => .literal_cons t (.nil false _)
      rw [← List.map_eq_flatMap, List.map_id'] at htags
      exact .group (by decide) (by decide) htags

/-- The literals of the lookups that stand beside a predicate. -/
def lookupLiterals (lookups : List Lookup) : List String :=
  lookups.flatMap fun l => l.source.literals l.tag

theorem renders_candidates (hschema : Sql.Unmarked schema) (f : CompiledFilter) :
    Renders free m (m + 1) (candidates schema f) (lookupLiterals f.lookups) := by
  have hentity : Renders free m m
      ([code s!"SELECT e.id FROM {schema}.", identifier "entity", code " e, "] ++
        Sql.table schema "entity_tag" ++ [code " et"]) [] := by
    refine ⟨by simp [Sql.table, Sql.Spaced, Piece.quote?, Piece.text, toString,
      Sql.quoteIdentifier, Sql.quoted], ?_⟩
    simpa [Sql.table, toString, hschema, marks, Sql.isMark, Sql.quoteIdentifier, Sql.quoted] using
      .nil m
  have hlookups : Renders false m m
      (f.lookups.flatMap fun l => [code ", "] ++ l.sql schema) (lookupLiterals f.lookups) :=
    .flatMap fun l _ =>
      (Renders.unmarked (by decide) (by decide)).append (Lookup.renders_sql hschema l)
  have hopen : Renders false m (m + 1) [code " WHERE e.id = et.entity_id AND ("] [] :=
    .fixed (by decide) (.opening (.nil _))
  simpa [candidates] using (hentity.append hlookups).append hopen

/-- What the innermost level selects. -/
theorem renders_values {columns : List String} (hcolumns : ∀ c ∈ columns, Sql.Unmarked c)
    (selection : TagSelection) : Renders false m m ([code "SELECT "] ++
      (if selection.includesTags then [] else [code "DISTINCT ON (et.entity_id) "]) ++
      [code "et.entity_id AS id"] ++ columnList columns "et") [] := by
  have hdistinct : Renders false m m (if selection.includesTags then []
      else [code "DISTINCT ON (et.entity_id) "]) [] := by
    split
    · exact .nil _ _
    · exact .fixed (by decide) (.opening (.closing (.nil _)))
  exact (((Renders.unmarked (by decide) (by decide)).append hdistinct).append
    (.unmarked (by decide) (by decide))).append (renders_columnList hcolumns (by decide))

/-- What the innermost level selects from. -/
theorem renders_tables (hschema : Sql.Unmarked schema) :
    Renders false m (m + 1) ([code " FROM "] ++ Sql.table schema "entity_tag" ++
      [code " et JOIN "] ++ Sql.table schema "tag_def" ++
      [code " td ON et.tag_id = td.id WHERE et.entity_id IN (\n"]) [] := by
  refine ⟨by simp [Sql.table, Sql.Spaced, Piece.quote?, Piece.text, toString], ?_⟩
  simpa [Sql.table, toString, hschema, marks, Sql.isMark] using .opening (.nil (m + 1))

theorem renders_opening (hschema : Sql.Unmarked schema) {columns : List String}
    (hcolumns : ∀ c ∈ columns, Sql.Unmarked c) (selection : TagSelection) (f : CompiledFilter) :
    Renders free m (m + 4) (opening schema columns selection f)
      (f.closures.map (·.tag) ++ lookupLiterals f.lookups) := by
  have hshown : ∀ c ∈ (if selection.includesTags then columns else []), Sql.Unmarked c := by
    split
    · exact hcolumns
    · simp
  have hwalks : Renders free m m (Closure.sqlAll schema f.closures) (f.closures.map (·.tag)) :=
    Closure.renders_sqlAll hschema f.closures
  have hroot : Renders false m (m + 1) ([code "SELECT root.id AS entity_id"] ++ _ ++ _) [] :=
    renders_level hshown (by decide) (by decide) (show Sql.Unmarked "root" by decide)
  have hentity : Renders false (m + 1) (m + 2) ([code "SELECT a.id"] ++ _ ++ _) [] :=
    renders_level hshown (by decide) (by decide) (show Sql.Unmarked "a" by decide)
  have hall := ((((hwalks.append hroot).append hentity).append
    (renders_values hcolumns selection)).append (renders_tables hschema)).append
    (renders_candidates hschema f)
  simpa only [opening, List.append_nil, List.append_assoc] using hall

/-- Behind the predicate its parenthesis and that of the candidates are closed. -/
theorem renders_behindPredicate (selection : TagSelection) :
    Renders false (m + 2) m ([code ")\n)"] ++ tagRestriction selection) selection.names := by
  have hclose : Renders false (m + 2) m [code ")\n)"] [] :=
    .fixed (by decide) (.closing (.closing (.nil m)))
  exact hclose.append (renders_tagRestriction selection)

theorem renders_libraries (hschema : Sql.Unmarked schema) :
    Renders false (m + 1) m (libraries schema) [] := by
  refine ⟨by simp [libraries, Sql.table, Sql.Spaced, Piece.quote?, Piece.text, toString], ?_⟩
  simpa [libraries, Sql.table, toString, hschema, marks, Sql.isMark] using .closing (.nil m)

theorem renders_libraryOfTag : Renders false m m libraryOfTag ["lib"] := by
  refine ⟨by simp [libraryOfTag, Sql.Spaced, Piece.quote?, Piece.text], ?_⟩
  simpa [libraryOfTag, marks, Sql.isMark] using .literal "lib" (.nil m)

/-! ### Access -/

/-- The names of a permission are identifiers. -/
structure Permission.Plain (p : Permission) : Prop where
  table : Sql.isIdentifier p.table
  row : Sql.isIdentifier p.row
  key : Sql.isIdentifier p.key
  owner : Sql.isIdentifier p.owner

theorem Permission.Plain.renders_sql (hschema : Sql.Unmarked schema) {p : Permission}
    (h : p.Plain) (owner : Int) {subject : String} (hsubject : Sql.Unmarked subject) :
    Renders free m m (p.sql schema owner subject) [] := by
  have htable := Sql.unmarked_of_isIdentifier h.table
  have hrow := Sql.unmarked_of_isIdentifier h.row
  have hkey := Sql.unmarked_of_isIdentifier h.key
  have howner := Sql.unmarked_of_isIdentifier h.owner
  refine ⟨by simp [Permission.sql, Sql.table, Sql.Spaced, Piece.quote?, Piece.text, toString], ?_⟩
  simpa [Permission.sql, Sql.table, toString, hschema, htable, hrow, hkey, howner, hsubject,
    marks, Sql.isMark] using .opening (.closing (.nil m))

/-- The names of all permissions of an axis are identifiers. -/
structure AccessAxis.Plain (axis : AccessAxis) : Prop where
  orgGrant : axis.orgGrant.Plain
  userGrant : axis.userGrant.Plain
  userRevocation : axis.userRevocation.Plain

theorem plain_entityAxis : entityAxis.Plain := by
  constructor <;> constructor <;> decide

theorem plain_tagAxis : tagAxis.Plain := by
  constructor <;> constructor <;> decide

/-- The condition of an axis stands in parentheses, and the outer ones stay open up to its end. -/
theorem AccessAxis.Plain.exists_sql_eq (hschema : Sql.Unmarked schema) {axis : AccessAxis}
    (h : axis.Plain) (orgId userId : Int) {subject : String} (hsubject : Sql.Unmarked subject) :
    ∃ inner, axis.sql schema orgId userId subject = [code "(("] ++ inner ++ [code ")"] ∧
      ∀ m, Renders false (m + 1) m inner [] := by
  refine ⟨axis.orgGrant.sql schema orgId subject ++ [code " OR "] ++
    axis.userGrant.sql schema userId subject ++ [code ") AND NOT "] ++
    axis.userRevocation.sql schema userId subject, by simp [AccessAxis.sql], fun m => ?_⟩
  have hor : Renders false (m + 1) (m + 1) [code " OR "] [] := .unmarked (by decide) (by decide)
  have hnot : Renders false (m + 1) m [code ") AND NOT "] [] :=
    .fixed (by decide) (.closing (.nil _))
  exact ((((h.orgGrant.renders_sql hschema orgId hsubject).append hor).append
    (h.userGrant.renders_sql hschema userId hsubject)).append hnot).append
    (h.userRevocation.renders_sql hschema userId hsubject)

theorem AccessAxis.Plain.renders_sql (hschema : Sql.Unmarked schema) {axis : AccessAxis}
    (h : axis.Plain) (orgId userId : Int) {subject : String} (hsubject : Sql.Unmarked subject) :
    Renders free m m (axis.sql schema orgId userId subject) [] := by
  obtain ⟨inner, heq, hinner⟩ := h.exists_sql_eq hschema orgId userId hsubject
  have hopen : Renders free m (m + 2) [code "(("] [] :=
    .fixed (by decide) (.opening (.opening (.nil _)))
  rw [heq]
  exact (hopen.append (hinner (m + 1))).append .close

theorem renders_access (hschema : Sql.Unmarked schema) (orgId userId : Int) :
    Renders free m m (access schema orgId userId) [] :=
  ((plain_entityAxis.renders_sql hschema orgId userId (by decide)).append
    (.unmarked (by decide) (by decide))).append
    (plain_tagAxis.renders_sql hschema orgId userId (by decide))

theorem renders_closing (selection : TagSelection) :
    Renders false (m + 1) m (closing selection) [] := by
  have hclose : Renders false (m + 1) m [code "\n) root"] [] :=
    .fixed (by decide) (.closing (.nil m))
  rw [closing]
  split
  · exact hclose
  · exact hclose.append (.unmarked (by decide) (by decide))

end Query

end Parts

/-! ### Whole statements -/

namespace Reference

/-- The literals of the walks from the tags of a mention upward. -/
def walkLiterals (options : CompileOptions) (r : Reference) : List String :=
  if r.condition.isSome ∧ options.kindSource = .hierarchy then r.path.mentions else []

/-- The literals of the lookup of a tag that is tested on the entity's own rows. -/
def lookupLiterals (options : CompileOptions) (r : Reference) : List String :=
  if r.condition.isSome ∧ !r.path.isChain then options.kindSource.literals r.path.terminal else []

end Reference

/-- What is gathered for each mention, when only a part of it that has no alias matters. -/
theorem flatMap_gather {γ δ : Type} {f : Nat → Reference → List γ} {g : γ → List δ}
    {h : Reference → List δ} (hfg : ∀ k r, (f k r).flatMap g = h r) (k : Nat)
    (rs : List Reference) : (gather f k rs).flatMap g = rs.flatMap h := by
  induction rs generalizing k with
  | nil => rfl
  | cons r rs ih => rw [gather, List.flatMap_append, hfg, ih, List.flatMap_cons]

theorem flatMap_closures (options : CompileOptions) (k : Nat) (r : Reference) :
    (r.closures options k).flatMap (fun c => [c.tag]) = r.walkLiterals options := by
  rw [Reference.closures, closuresFrom, Reference.walkLiterals, ← List.map_eq_flatMap]
  split
  · rw [List.map_map]
    exact List.zipIdx_map_fst _ _
  · rfl

theorem flatMap_lookups (options : CompileOptions) (k : Nat) (r : Reference) :
    (r.lookups options k).flatMap (fun l => l.source.literals l.tag) =
      r.lookupLiterals options := by
  rw [Reference.lookups, Reference.lookupLiterals]
  split <;> simp

namespace Query

/-- The literals of a statement: those of walks, of lookups and of the filter itself, then the names
of the tags that are asked for. -/
def literals (options : CompileOptions) (e : Expr) (selection : TagSelection) : List String :=
  e.references.flatMap (Reference.walkLiterals options) ++
  e.references.flatMap (Reference.lookupLiterals options) ++
  e.references.flatMap (Reference.literals options) ++ selection.names

theorem compile_eq_ok_iff {compiler : QueryCompiler} {q : Query} {c : CompiledQuery} :
    compile compiler q = .ok c ↔ Sql.isIdentifier q.schema ∧
      ∃ e f, parse q.filter = .ok e ∧ compileExpr compiler.options e = .ok f ∧
        let selection := TagSelection.ofRequested q.tags
        c = ⟨rows q.schema compiler.columns.names selection f ++
            access q.schema q.orgId q.userId ++ closing selection, selection,
          resultColumns compiler.columns.names selection, f.aliases⟩ := by
  rw [compile]
  by_cases hschema : Sql.isIdentifier q.schema
  · cases hparse : parse q.filter with
    | error fault => simp [hschema, Except.mapError, bind, Except.bind]
    | ok e =>
        cases hcompile : compileExpr compiler.options e with
        | error fault => simp [hschema, hcompile, Except.mapError, bind, Except.bind]
        | ok f =>
            simp [hschema, hcompile, Except.mapError, bind, Except.bind, pure, Except.pure, eq_comm]
  · simp [hschema, bind, Except.bind, throw, throwThe, MonadExceptOf.throw]

/-- In a schema that is an identifier, only the filter's text keeps a query from being compiled. -/
theorem isClientError_of_compile {compiler : QueryCompiler} {q : Query} {error : QueryError}
    (hschema : Sql.isIdentifier q.schema) (h : compile compiler q = .error error) :
    error.isClientError := by
  simp only [compile, hschema, bind, Except.bind, Bool.not_true, Bool.false_eq_true,
    if_false] at h
  cases hparse : parse q.filter with
  | error fault =>
      rw [hparse] at h
      obtain rfl := Except.error.inj h
      rfl
  | ok e =>
      cases hcompile : compileExpr compiler.options e with
      | error fault =>
          simp only [hparse, Except.mapError, hcompile] at h
          obtain rfl := Except.error.inj h
          obtain ⟨r, -, -, rfl⟩ := exists_tooDeep_of_compileExpr compiler.validated hcompile
          rfl
      | ok f =>
          simp only [hparse, Except.mapError, hcompile] at h
          cases h

end Query

theorem ite_error_eq_ok_iff {ε α : Type} {p : Prop} [Decidable p] {e : ε} {r : Except ε α} {a : α} :
    (if p then .error e else r) = .ok a ↔ ¬ p ∧ r = .ok a := by
  split <;> simp [*]

namespace ValueColumns

theorem checkEach_eq_ok_iff {earlier names : List String} :
    checkEach earlier names = .ok () ↔ names.Nodup ∧
      ∀ c ∈ names, Sql.isIdentifier c ∧ c ≠ "id" ∧ c ≠ "entity_id" ∧ c ∉ earlier := by
  induction names generalizing earlier with
  | nil => simp [checkEach]
  | cons name rest ih =>
      rw [checkEach, ite_error_eq_ok_iff, ite_error_eq_ok_iff, ite_error_eq_ok_iff, ih]
      simp only [List.nodup_cons, List.forall_mem_cons, List.mem_append, List.mem_singleton]
      grind

/-- What is accepted as columns. -/
theorem check_eq_ok_iff {names : List String} :
    check names = .ok () ↔ "tag_id" ∈ names ∧ names.Nodup ∧
      ∀ c ∈ names, Sql.isIdentifier c ∧ c ≠ "id" ∧ c ≠ "entity_id" := by
  have heach : checkEach [] names = .ok () ↔ _ := checkEach_eq_ok_iff
  simp only [List.not_mem_nil, not_false_eq_true, and_true] at heach
  rw [check, ite_error_eq_ok_iff, ← heach]
  cases checkEach [] names with
  | error e => simp
  | ok u => grind

theorem isIdentifier (columns : ValueColumns) : ∀ c ∈ columns.names, Sql.isIdentifier c :=
  fun c hc => ((check_eq_ok_iff.mp columns.checked).2.2 c hc).1

theorem unmarked (columns : ValueColumns) : ∀ c ∈ columns.names, Sql.Unmarked c :=
  fun c hc => Sql.unmarked_of_isIdentifier (columns.isIdentifier c hc)

end ValueColumns

section Compiled

variable {schema : String} {options : CompileOptions} {e : Expr} {f : CompiledFilter} {free : Bool}
  {m : Nat}

theorem CompiledFilter.renders_predicate (hschema : Sql.Unmarked schema) (hwell : e.WellFormed)
    (hf : compileExpr options e = .ok f) : Renders free m m (f.predicate.sql schema)
      (e.references.flatMap (Reference.literals options)) := by
  obtain ⟨-, -, rfl⟩ := compileExpr_eq_ok_iff.mp hf
  exact Expr.renders_numbered hschema e 0 hwell

namespace Query

theorem renders_found (hschema : Sql.Unmarked schema) (columns : ValueColumns)
    (selection : TagSelection) (hwell : e.WellFormed) (hf : compileExpr options e = .ok f) :
    Renders free m (m + 2) (found schema columns.names selection f)
      (literals options e selection) := by
  have hopening : Renders free m (m + 4) (opening schema columns.names selection f) _ :=
    renders_opening hschema columns.unmarked selection f
  have hpredicate : Renders false (m + 4) (m + 4) (f.predicate.sql schema) _ :=
    CompiledFilter.renders_predicate hschema hwell hf
  have hall := (hopening.append hpredicate).append (renders_behindPredicate selection)
  obtain ⟨-, -, rfl⟩ := compileExpr_eq_ok_iff.mp hf
  rwa [List.map_eq_flatMap, flatMap_gather (flatMap_closures options), lookupLiterals,
    flatMap_gather (flatMap_lookups options), ← List.append_assoc] at hall

theorem renders_rows (hschema : Sql.Unmarked schema) (columns : ValueColumns)
    (selection : TagSelection) (hwell : e.WellFormed) (hf : compileExpr options e = .ok f) :
    Renders free m (m + 1) (rows schema columns.names selection f)
      (literals options e selection ++ ["lib"]) := by
  have hwhere : Renders false (m + 1) (m + 1) [code "WHERE "] [] :=
    .unmarked (by decide) (by decide)
  have hand : Renders false (m + 1) (m + 1) [code "\nAND "] [] :=
    .unmarked (by decide) (by decide)
  simpa [rows] using ((((renders_found hschema columns selection hwell hf).append
    (renders_libraries hschema)).append hwhere).append renders_libraryOfTag).append hand

/-- **A statement is well rendered, and its literals are those of the filter and the request.** -/
theorem renders_compiled {compiler : QueryCompiler} {q : Query} {c : CompiledQuery}
    (h : compile compiler q = .ok c) (he : parse q.filter = .ok e) : Renders true 0 0 c.pieces
      (literals compiler.options e (.ofRequested q.tags) ++ ["lib"]) := by
  obtain ⟨hidentifier, e', f, he', hf, rfl⟩ := compile_eq_ok_iff.mp h
  obtain rfl : e' = e := Except.ok.inj (he'.symm.trans he)
  have hschema := Sql.unmarked_of_isIdentifier hidentifier
  have hrows : Renders true 0 1 (rows q.schema compiler.columns.names _ f) _ :=
    renders_rows hschema compiler.columns (.ofRequested q.tags) (wellFormed_of_parse he) hf
  simpa using (hrows.append (renders_access hschema q.orgId q.userId)).append
    (renders_closing (.ofRequested q.tags))

end Query

end Compiled

end EntityFilter
