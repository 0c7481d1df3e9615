import EntityFilter.Proofs.Filter.Shape
import EntityFilter.Proofs.Query.Numbering
import EntityFilter.Proofs.Query.Outline
import EntityFilter.Query.Statement

/-!
# Predicates are well rendered

Every renderer writes well rendered text (`Sql.Renders`), and it is said here which literals it
writes: for a condition the patterns of its kinds and its own texts (`Condition.literals`), for a
mention of a tag the names along its path and the literals of its condition (`Reference.literals`).
Aliases, the schema and numbers are written without quotes and parentheses, so they do not matter.
-/

namespace EntityFilter

open Sql (Piece Item Renders marks outline)
open Sql.Piece (code literal identifier)

/-! ### The literals of a filter -/

/-- The text that stands in SQL for a literal, if it does so between quotes. -/
def Literal.texts : Literal → List String
  | .str t | .uri t | .dateTime t => [t]
  | .date d                       => [d.text]
  | .time t                       => [t.text]
  | .number _ | .ref _ | .bool _  => []

/-- The texts that a condition compares with. -/
def Condition.texts : Condition → List String
  | .compare _ value => value.texts
  | .member values   => values.flatMap Literal.texts

/-- The patterns that tell a kind. -/
def ValueKind.patterns (kind : ValueKind) : List String :=
  kind.markers.map fun marker => s!"%,{marker},%"

/-- The literals of a condition: for each kind its patterns, then the texts. -/
def Condition.literals (c : Condition) : List String :=
  c.kinds.flatMap fun kind => kind.patterns ++ c.texts

/-- The literals of a lookup of the ancestors of a tag. -/
def KindSource.literals (tag : String) : KindSource → List String
  | .hierarchy   => [",", ",", ","]
  | .parentsView => [tag]

/-- The literals of a mention of a tag. -/
def Reference.literals (options : CompileOptions) (r : Reference) : List String :=
  let tag := r.path.terminal
  r.path.segments.dropLast ++ match r.condition with
    | none   => [tag]
    | some c =>
      (if r.path.isChain then options.kindSource.literals tag else []) ++ tag :: c.literals

/-! ### Parts of filters -/

theorem Text.natural_ne_empty (n : Nat) : Text.natural n ≠ "" := by
  simp [Text.natural, Nat.toDigits_ne_nil]

theorem Text.integer_ne_empty (n : Int) : Text.integer n ≠ "" := by
  cases n with
  | ofNat n => exact natural_ne_empty n
  | negSucc n => simp [Text.integer]

section Parts

variable {schema : String} {free : Bool} {m : Nat}

theorem Closure.renders_sql (hschema : Sql.Unmarked schema) (c : Closure) :
    Renders free m m (c.sql schema) [c.tag] := by
  refine ⟨by simp [Closure.sql, Sql.table, Sql.Spaced, Piece.quote?, Piece.text, toString], ?_⟩
  simpa [Closure.sql, Sql.table, toString, hschema, marks, Sql.isMark] using
    .opening (.literal _ (.closing (.nil m)))

theorem Lookup.renders_sql (hschema : Sql.Unmarked schema) (l : Lookup) :
    Renders free m m (l.sql schema) (l.source.literals l.tag) := by
  obtain ⟨mention, tag, source⟩ := l
  cases source with
  | hierarchy =>
      refine ⟨by simp [Lookup.sql, Sql.table, Sql.Spaced, Piece.quote?, Piece.text, toString], ?_⟩
      simpa [Lookup.sql, Sql.table, toString, hschema, marks, Sql.isMark] using
        .opening (.literal _ (.opening (.literal _ (.closing (.literal _ (.closing (.nil m)))))))
  | parentsView =>
      refine ⟨by simp [Lookup.sql, Sql.table, Sql.Spaced, Piece.quote?, Piece.text, toString], ?_⟩
      simpa [Lookup.sql, Sql.table, toString, hschema, marks, Sql.isMark] using
        .opening (.opening (.closing (.literal _ (.closing (.nil m)))))

theorem Literal.renders_sql {value : Literal} (h : value.WellFormed) :
    Renders true m m value.toSql.sql value.texts := by
  cases value with
  | number t => exact .unmarked h.1 (Sql.unmarked_of_all h.2 (by decide))
  | ref id => exact .unmarked (Text.integer_ne_empty id) (Sql.unmarked_integer id)
  | bool b => cases b <;> exact .unmarked (by decide) (by decide)
  | str t | uri t | dateTime t | date d | time t => exact .literal_cons _ (.nil false m)

theorem Condition.renders_test {c : Condition} (h : c.WellFormed) :
    Renders free m m c.test.sql c.texts := by
  cases c with
  | compare op value =>
      refine .code_cons ?_ ?_ (Literal.renders_sql h)
      · cases op <;> decide
      · have : marks (op.sql ++ " ") = [] := by cases op <;> decide
        rw [this]
        exact .nil m
  | member values =>
      have hvalues : Renders true (m + 1) (m + 1)
          (Sql.between [code ", "] (values.map fun v => v.toSql.sql))
          (values.flatMap Literal.texts) :=
        .between (by decide) (by decide) fun v hv => Literal.renders_sql (h.2.1 v hv)
      have hlist : Renders free m m ([code "IN ("] ++ _ ++ [code ")"]) _ :=
        .group (by decide) (by decide) hvalues
      simpa [test, texts, Test.sql, Function.comp_def] using hlist

theorem Condition.renders_branch {c : Condition} (h : c.WellFormed) (n : Nat) (kind : ValueKind) :
    Renders free m m ((c.dispatch n).branch kind) (kind.patterns ++ c.texts) := by
  have hmarkers : Renders true m m (Sql.between [code " OR "] (kind.markers.map fun marker =>
      [code s!"hq{Text.natural n}.parent_id LIKE ", literal s!"%,{marker},%"]))
      (kind.markers.flatMap fun marker => [s!"%,{marker},%"]) := by
    refine .between (by decide) (by decide) fun marker _ => ⟨?_, ?_⟩
    · simp [Sql.Spaced, Piece.quote?, Piece.text, toString]
    · simpa [toString, marks, Sql.isMark] using .literal _ (.nil m)
  have hcolumn : Renders false m m [code s!" THEN et{Text.natural n}.{kind.column} "] [] := by
    refine ⟨by simp [Sql.Spaced, Piece.quote?, Piece.text, toString], ?_⟩
    cases kind <;> simpa [ValueKind.column, toString, marks, Sql.isMark] using .nil m
  have hbranch : Renders free m m (code " WHEN " :: _) _ :=
    .code_cons (by decide) (.nil m) (hmarkers.append (hcolumn.append (renders_test h)))
  simpa [Dispatch.branch, Condition.dispatch, ValueKind.patterns, List.map_eq_flatMap] using hbranch

theorem Condition.renders_dispatch {c : Condition} (h : c.WellFormed) (n : Nat) :
    Renders free m m (c.dispatch n).sql c.literals := by
  have hcase : Renders free m m [code "CASE"] [] := .unmarked (by decide) (by decide)
  have hend : Renders false m m [code " END"] [] := .unmarked (by decide) (by decide)
  have hbranches : Renders false m m (c.kinds.flatMap (c.dispatch n).branch) c.literals :=
    .flatMap fun kind _ => renders_branch h n kind
  simpa [Dispatch.sql, Condition.dispatch] using (hcase.append hbranches).append hend

theorem Sql.renders_tagRows (hschema : Sql.Unmarked schema) (n : Nat) (tag : String) :
    Renders free m m (Sql.tagRows schema n tag) [tag] := by
  refine ⟨by simp [Sql.tagRows, Sql.table, Sql.Spaced, Piece.quote?, Piece.text, toString], ?_⟩
  simpa [Sql.tagRows, Sql.table, toString, hschema, marks, Sql.isMark] using .literal tag (.nil m)

theorem RowSource.renders_valued (hschema : Sql.Unmarked schema) {c : Condition}
    (h : c.WellFormed) (n : Nat) (tag : String) (source : KindSource) :
    Renders free m m ((valued tag ⟨n, tag, source⟩ (c.dispatch n)).sql schema)
      (source.literals tag ++ tag :: c.literals) := by
  let a := Text.natural n
  have hrows : Renders free m m ([code s!"SELECT et{a}.entity_id FROM "] ++
      Sql.table schema "entity_tag" ++ [code s!" et{a}, "]) [] := by
    refine ⟨by simp [Sql.table, Sql.Spaced, Piece.quote?, Piece.text, toString], ?_⟩
    simpa [a, Sql.table, toString, hschema, marks, Sql.isMark] using .nil m
  have hlookup : Renders false m m ((⟨n, tag, source⟩ : Lookup).sql schema) (source.literals tag) :=
    Lookup.renders_sql hschema _
  have htag : Renders false m m ([code ", "] ++ Sql.table schema "tag_def" ++
      [code s!" td{a} WHERE et{a}.tag_id = td{a}.id AND td{a}.name = ", literal tag,
        code " AND "]) [tag] := by
    refine ⟨by simp [Sql.table, Sql.Spaced, Piece.quote?, Piece.text, toString], ?_⟩
    simpa [a, Sql.table, toString, hschema, marks, Sql.isMark] using .literal _ (.nil m)
  have hgroup : Renders false m m [code s!" GROUP BY et{a}.entity_id"] [] := by
    refine ⟨by simp [Sql.Spaced, Piece.quote?, Piece.text, toString], ?_⟩
    simpa [a, toString, marks, Sql.isMark] using .nil m
  simpa [RowSource.sql] using (((hrows.append hlookup).append htag).append
    (Condition.renders_dispatch h n)).append hgroup

theorem RowSource.renders_tagged (hschema : Sql.Unmarked schema) (n : Nat) (tag : String) :
    Renders free m m ((tagged n tag).sql schema) [tag] :=
  Sql.renders_tagRows hschema n tag

theorem RowSource.renders_linked (hschema : Sql.Unmarked schema) {inner : RowSource}
    {ls : List String} (h : Renders false (m + 1) (m + 1) (inner.sql schema) ls) (n : Nat)
    (tag : String) : Renders free m m ((linked n tag inner).sql schema) (tag :: ls) := by
  have hopen : Renders false m (m + 1) [code s!" AND et{Text.natural n}.value_ref IN ("] [] := by
    refine ⟨by simp [Sql.Spaced, Piece.quote?, Piece.text, toString], ?_⟩
    simpa [toString, marks, Sql.isMark] using .opening (.nil (m + 1))
  simpa [RowSource.sql] using
    (((Sql.renders_tagRows hschema n tag).append hopen).append h).append .close

/-- References in front of a source write their names from the first to the last. -/
theorem RowSource.renders_behind (hschema : Sql.Unmarked schema) {inner : RowSource}
    {ls : List String} (h : ∀ {m}, Renders false m m (inner.sql schema) ls) (first : Nat)
    (tags : List String) :
    Renders false m m ((inner.behind first tags).sql schema) (tags.reverse ++ ls) := by
  induction tags generalizing inner first ls with
  | nil => exact h
  | cons tag tags ih =>
      rw [behind, List.reverse_cons, List.append_assoc]
      exact ih (renders_linked hschema h first tag) (first + 1)

/-! ### Filters -/

theorem Predicate.renders_entityIn {source : RowSource} {ls : List String}
    (h : Renders false (m + 1) (m + 1) (source.sql schema) ls) :
    Renders free m m ((entityIn source).sql schema) ls := by
  rw [Predicate.sql]
  exact .group (by decide) (by decide) h.of_false

theorem Predicate.renders_rowPasses (hschema : Sql.Unmarked schema) {c : Condition}
    (h : c.WellFormed) (n : Nat) (tag : String) :
    Renders free m m ((rowPasses n tag (c.dispatch n)).sql schema) (tag :: c.literals) := by
  let a := Text.natural n
  have hrows : Renders free m (m + 1) ([code "EXISTS (SELECT 1 FROM "] ++
      Sql.table schema "entity_tag" ++ [code s!" et{a}, "] ++ Sql.table schema "tag_def" ++
      [code s!" td{a} WHERE et{a}.entity_id = e.id AND et{a}.tag_id = td{a}.id AND td{a}.name = ",
        literal tag, code " AND "]) [tag] := by
    refine ⟨by simp [Sql.table, Sql.Spaced, Piece.quote?, Piece.text, toString], ?_⟩
    simpa [a, Sql.table, toString, hschema, marks, Sql.isMark] using
      .opening (.literal _ (.nil (m + 1)))
  simpa [Predicate.sql] using (hrows.append (Condition.renders_dispatch h n)).append .close

theorem Predicate.renders_grouped {ps : List Piece} {ls : List String}
    (h : ∀ {free m}, Renders free m m ps ls) (group : Bool) :
    Renders free m m (grouped group ps) ls := by
  rw [grouped]
  split
  · exact .group (by decide) (by decide) h
  · exact h

/-- What a reference stands for needs no parentheses. -/
theorem Reference.isAnd_numbered (options : CompileOptions) (k : Nat) (r : Reference) :
    (r.numbered options k).isAnd = false := by
  rw [numbered]
  split
  · rfl
  · split <;> rfl

theorem Reference.renders_numbered (hschema : Sql.Unmarked schema) {options : CompileOptions}
    {r : Reference} (h : r.WellFormed) (k : Nat) :
    Renders free m m ((r.numbered options k).sql schema) (r.literals options) := by
  obtain ⟨path, condition⟩ := r
  by_cases hchain : path.isChain
  · rw [numbered, if_pos hchain, literals]
    cases condition with
    | none =>
        -- tags are linked from the last to the first, so that the text has them in order
        have hsource := RowSource.renders_behind (m := m + 1) hschema
          (RowSource.renders_tagged hschema (k + 1) path.terminal) (k + 2)
          path.segments.dropLast.reverse
        rw [List.reverse_reverse] at hsource
        exact Predicate.renders_entityIn hsource
    | some c =>
        have hsource := RowSource.renders_behind (m := m + 1) hschema
          (RowSource.renders_valued hschema (h.2 c rfl) (k + 1) path.terminal options.kindSource)
          (k + 2) path.segments.dropLast.reverse
        rw [List.reverse_reverse] at hsource
        simp only [hchain, if_true]
        exact Predicate.renders_entityIn hsource
  · rw [numbered, if_neg hchain, literals, Path.dropLast_of_not_isChain hchain, List.nil_append]
    cases condition with
    | none => exact Predicate.renders_entityIn (RowSource.renders_tagged hschema _ _)
    | some c =>
        simp only [hchain]
        exact Predicate.renders_rowPasses hschema (h.2 c rfl) _ _

end Parts

namespace Expr

variable {schema : String} {options : CompileOptions}

mutual

/-- **A filter writes the literals of its mentions of tags, from left to right.** -/
theorem renders_numbered (hschema : Sql.Unmarked schema) : ∀ (e : Expr) (k : Nat), e.WellFormed →
    ∀ {free m}, Renders free m m ((e.numbered options k).sql schema)
      (e.references.flatMap (Reference.literals options))
  | .or operands, k, hwell, _, _ => by
      rw [WellFormed, references] at hwell
      rw [numbered, Predicate.sql, references]
      exact renders_sqlAny hschema operands k hwell
  | .and operands, k, hwell, _, _ => by
      rw [WellFormed, references] at hwell
      rw [numbered, Predicate.sql, references]
      exact renders_sqlAll hschema operands k hwell
  | .paren inner, k, hwell, _, _ => by
      rw [WellFormed, references] at hwell
      rw [numbered, Predicate.sql, references]
      exact Predicate.renders_grouped (renders_numbered hschema inner k hwell) true
  | .has path, k, hwell, _, _ | .compare path op value, k, hwell, _, _
  | .member path values, k, hwell, _, _ => by
      rw [numbered, references, List.flatMap_singleton]
      exact Reference.renders_numbered hschema (hwell _ (by simp [references])) k
  | .missing path, k, hwell, _, _ => by
      rw [numbered, references, List.flatMap_singleton, Predicate.sql]
      exact (Renders.unmarked (by decide) (by decide)).append
        (Reference.renders_numbered hschema (hwell _ (by simp [references])) k)

theorem renders_sqlAny (hschema : Sql.Unmarked schema) : ∀ (es : List Expr) (k : Nat),
    (∀ r ∈ referencesOfAll es, r.WellFormed) →
    ∀ {free m}, Renders free m m (Predicate.sqlAny schema (numberedAll options k es))
      ((referencesOfAll es).flatMap (Reference.literals options))
  | [], k, _, _, m => .nil _ m
  | [e], k, hwell, _, _ => by
      rw [referencesOfAll, referencesOfAll, List.append_nil] at hwell ⊢
      exact Predicate.renders_grouped (renders_numbered hschema e k hwell) _
  | e :: next :: rest, k, hwell, free, m => by
      rw [referencesOfAll, List.forall_mem_append] at hwell
      rw [referencesOfAll, List.flatMap_append, numberedAll]
      have hfirst : Renders free m m (Predicate.grouped (e.numbered options k).isAnd _) _ :=
        Predicate.renders_grouped (renders_numbered hschema e k hwell.1) _
      have hor : Renders false m m [code " OR "] [] := .unmarked (by decide) (by decide)
      have hrest : Renders false m m (Predicate.sqlAny schema (numberedAll options _ _)) _ :=
        renders_sqlAny hschema (next :: rest) (k + widthOf e.references) hwell.2
      simpa [numberedAll, Predicate.sqlAny] using (hfirst.append hor).append hrest

theorem renders_sqlAll (hschema : Sql.Unmarked schema) : ∀ (es : List Expr) (k : Nat),
    (∀ r ∈ referencesOfAll es, r.WellFormed) →
    ∀ {free m}, Renders free m m (Predicate.sqlAll schema (numberedAll options k es))
      ((referencesOfAll es).flatMap (Reference.literals options))
  | [], k, _, _, m => .nil _ m
  | [e], k, hwell, _, _ => by
      rw [referencesOfAll, referencesOfAll, List.append_nil] at hwell ⊢
      exact renders_numbered hschema e k hwell
  | e :: next :: rest, k, hwell, free, m => by
      rw [referencesOfAll, List.forall_mem_append] at hwell
      rw [referencesOfAll, List.flatMap_append, numberedAll]
      have hfirst : Renders free m m ((e.numbered options k).sql schema) _ :=
        renders_numbered hschema e k hwell.1
      have hand : Renders false m m [code " AND "] [] := .unmarked (by decide) (by decide)
      have hrest : Renders false m m (Predicate.sqlAll schema (numberedAll options _ _)) _ :=
        renders_sqlAll hschema (next :: rest) (k + widthOf e.references) hwell.2
      simpa [numberedAll, Predicate.sqlAll] using (hfirst.append hand).append hrest

end

end Expr

end EntityFilter
