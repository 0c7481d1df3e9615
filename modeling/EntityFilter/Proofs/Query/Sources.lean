import EntityFilter.Proofs.Query.Aliases
import EntityFilter.Query.Statement

/-!
# Where ancestors are found shows in lookups only

Ancestors of tags are found by walking the hierarchy or in a view.  Which of them it is reaches the
predicate of a filter as the `source` of its lookups, and reaches the state of compilation as the
closures.  So a compiled filter for one source is that for the other one with its lookups moved over
(`Expr.withSource_numbered`), and the two fail on the same mention.

A statement is written from the predicate, and its text is compared without the lookups:
`Sql.NamesLookups` relates pieces to the same pieces in which every lookup is replaced by its name.

**The two sources give one statement up to the lookups** (`CompiledFilter.agree_up_to_lookups`), and
the closures in front of it.
-/

namespace EntityFilter

open Sql (Piece)
open Sql.Piece (code literal identifier)

/-! ### Moving lookups to a source -/

/-- The lookup of the same ancestors in `source`. -/
def Lookup.withSource (source : KindSource) (l : Lookup) : Lookup :=
  { l with source }

@[simp]
theorem Lookup.mention_withSource (source : KindSource) (l : Lookup) :
    (l.withSource source).mention = l.mention := rfl

/-- The selection with its lookups in `source`. -/
def RowSource.withSource (source : KindSource) : RowSource → RowSource
  | tagged mention tag         => tagged mention tag
  | valued tag lookup dispatch => valued tag (lookup.withSource source) dispatch
  | linked mention tag inner   => linked mention tag (inner.withSource source)

namespace Predicate

mutual

/-- The predicate with its lookups in `source`. -/
def withSource (source : KindSource) : Predicate → Predicate
  | or operands                    => or (withSourceAll source operands)
  | and operands                   => and (withSourceAll source operands)
  | paren inner                    => paren (inner.withSource source)
  | not inner                      => not (inner.withSource source)
  | entityIn rows                  => entityIn (rows.withSource source)
  | rowPasses mention tag dispatch => rowPasses mention tag dispatch

def withSourceAll (source : KindSource) : List Predicate → List Predicate
  | []        => []
  | p :: rest => p.withSource source :: withSourceAll source rest

end

theorem isAnd_withSource (source : KindSource) (p : Predicate) :
    (p.withSource source).isAnd = p.isAnd := by
  cases p <;> rfl

end Predicate

/-- The options with another source. -/
def CompileOptions.withSource (source : KindSource) (options : CompileOptions) : CompileOptions :=
  { options with kindSource := source }

theorem RowSource.withSource_behind (source : KindSource) (inner : RowSource) (first : Nat)
    (tags : List String) :
    (inner.behind first tags).withSource source = (inner.withSource source).behind first tags := by
  induction tags generalizing inner first with
  | nil => rfl
  | cons tag tags ih => rw [behind, behind, ih, withSource]

namespace Reference

variable (source : KindSource) (options : CompileOptions) (k : Nat) (r : Reference)

theorem withSource_last :
    (r.last options k).withSource source = r.last (options.withSource source) k := by
  unfold last
  split <;> rfl

theorem withSource_numbered :
    (r.numbered options k).withSource source = r.numbered (options.withSource source) k := by
  rw [numbered, numbered]
  split
  · rw [Predicate.withSource, RowSource.withSource_behind, withSource_last]
  · split <;> rfl

theorem withSource_lookups :
    (r.lookups options k).map (Lookup.withSource source) =
      r.lookups (options.withSource source) k := by
  rw [lookups, lookups]
  split <;> rfl

end Reference

theorem withSource_gather_lookups (source : KindSource) (options : CompileOptions) (k : Nat)
    (rs : List Reference) :
    (gather (Reference.lookups options) k rs).map (Lookup.withSource source) =
      gather (Reference.lookups (options.withSource source)) k rs := by
  induction rs generalizing k with
  | nil => rfl
  | cons r rs ih => rw [gather, gather, List.map_append, Reference.withSource_lookups, ih]

/-- No closures are needed where ancestors are found in a view. -/
theorem gather_closures_parentsView {options : CompileOptions}
    (h : options.kindSource = .parentsView) (k : Nat) (rs : List Reference) :
    gather (Reference.closures options) k rs = [] := by
  induction rs generalizing k with
  | nil => rfl
  | cons r rs ih =>
      have hnone : r.closures options k = [] := by simp [Reference.closures, closuresFrom, h]
      rw [gather, hnone, ih, List.append_nil]

namespace Expr

variable (source : KindSource) (options : CompileOptions)

mutual

/-- **A numbered predicate with its lookups moved is numbered with the other source.** -/
theorem withSource_numbered : ∀ (e : Expr) (k : Nat),
    (e.numbered options k).withSource source = e.numbered (options.withSource source) k
  | .or operands, k | .and operands, k => by
      rw [numbered, numbered, Predicate.withSource, withSource_numberedAll operands]
  | .paren inner, k => by
      rw [numbered, numbered, Predicate.withSource, withSource_numbered inner]
  | .missing path, k => by
      rw [numbered, numbered, Predicate.withSource, Reference.withSource_numbered]
  | .has path, k | .compare path op value, k | .member path values, k => by
      rw [numbered, numbered, Reference.withSource_numbered]

theorem withSource_numberedAll : ∀ (es : List Expr) (k : Nat),
    Predicate.withSourceAll source (numberedAll options k es) =
      numberedAll (options.withSource source) k es
  | [], k => rfl
  | e :: rest, k => by
      rw [numberedAll, numberedAll, Predicate.withSourceAll, withSource_numbered e,
        withSource_numberedAll rest]

end

end Expr

/-! ### Failures -/

/-- Whether mentions can be gone through is told by the first one that is too deep. -/
theorem CompileState.drawAll_fst (options : CompileOptions) (s : CompileState)
    (rs : List Reference) :
    (s.drawAll options rs).1 = match rs.find? fun r => r.TooDeep options with
      | some r => .error (.pathTooDeep r.path.depth options.maxPathDepth)
      | none   => .ok () := by
  induction rs generalizing s with
  | nil => rfl
  | cons r rs ih =>
      rw [drawAll, List.find?_cons]
      by_cases h : r.TooDeep options
      · simp [h]
      · simp [h, ih]

theorem compileExpr_eq_error_iff {options : CompileOptions} {e : Expr} {error : QueryError} :
    compileExpr options e = .error error ↔ options.validate = .error error ∨
      options.validate = .ok () ∧ ∃ r, e.references.find? (fun r => r.TooDeep options) = some r ∧
        .pathTooDeep r.path.depth options.maxPathDepth = error := by
  have hdraw := CompileState.drawAll_fst options {} e.references
  rw [compileExpr, Compile.run_expr]
  cases hvalid : options.validate with
  | error fault => simp [bind, Except.bind]
  | ok =>
      generalize CompileState.drawAll options {} e.references = drawn at hdraw
      obtain ⟨result, later⟩ := drawn
      obtain rfl := hdraw
      cases e.references.find? fun r => r.TooDeep options <;>
        simp [Compile.outcome, bind, Except.bind, pure, Except.pure, throw, throwThe,
          MonadExceptOf.throw]

/-! ### Statements without their lookups -/

/-- The name of the row with the ancestors of a tag. -/
def Lookup.name (l : Lookup) : String :=
  s!"hq{Text.natural l.mention}"

/-- The pieces `named` are the pieces `ps` with each of the lookups `ls`, from left to right,
replaced by its name. -/
inductive Sql.NamesLookups (schema : String) : List Piece → List Piece → List Lookup → Prop
  | nil : NamesLookups schema [] [] []
  | piece {ps named : List Piece} {ls : List Lookup} (p : Piece)
      (h : NamesLookups schema ps named ls) : NamesLookups schema (p :: ps) (p :: named) ls
  | lookup {ps named : List Piece} {ls : List Lookup} (l : Lookup)
      (h : NamesLookups schema ps named ls) :
      NamesLookups schema (l.sql schema ++ ps) (code l.name :: named) (l :: ls)

namespace Sql.NamesLookups

variable {schema : String} {ps qs named named' : List Piece} {ls ls' : List Lookup}

theorem append (h : NamesLookups schema ps named ls) (h' : NamesLookups schema qs named' ls') :
    NamesLookups schema (ps ++ qs) (named ++ named') (ls ++ ls') := by
  induction h with
  | nil => exact h'
  | piece p _ ih => exact .piece p ih
  | lookup l _ ih =>
      rw [List.append_assoc]
      exact .lookup l ih

/-- Pieces without lookups stay as they are. -/
theorem refl (schema : String) (ps : List Piece) : NamesLookups schema ps ps [] := by
  induction ps with
  | nil => exact .nil
  | cons p ps ih => exact .piece p ih

theorem behind (front : List Piece) (h : NamesLookups schema ps named ls) :
    NamesLookups schema (front ++ ps) (front ++ named) ls :=
  (refl schema front).append h

theorem before (back : List Piece) (h : NamesLookups schema ps named ls) :
    NamesLookups schema (ps ++ back) (named ++ back) ls := by
  simpa using h.append (refl schema back)

theorem around (front back : List Piece) (h : NamesLookups schema ps named ls) :
    NamesLookups schema (front ++ ps ++ back) (front ++ named ++ back) ls :=
  (h.behind front).before back

theorem grouped (group : Bool) (h : NamesLookups schema ps named ls) :
    NamesLookups schema (Predicate.grouped group ps) (Predicate.grouped group named) ls := by
  cases group with
  | false => exact h
  | true => exact h.around [code "("] [code ")"]

/-- The lookups of the entity's own rows, in a list of tables. -/
theorem flatMap (schema : String) (ls : List Lookup) (source : KindSource) :
    NamesLookups schema
      ((ls.map (Lookup.withSource source)).flatMap fun l => [code ", "] ++ l.sql schema)
      (ls.flatMap fun l => [code ", ", code l.name]) (ls.map (Lookup.withSource source)) := by
  induction ls with
  | nil => exact .nil
  | cons l ls ih => exact .piece _ (.lookup (l.withSource source) ih)

end Sql.NamesLookups

open Sql (NamesLookups)

/-- A selection is written alike for all sources. -/
theorem RowSource.exists_namesLookups (schema : String) (rows : RowSource) :
    ∃ named, ∀ source, NamesLookups schema ((rows.withSource source).sql schema) named
      ((rows.withSource source).lookups.map Prod.snd) := by
  induction rows with
  | tagged mention tag => exact ⟨_, fun source => .refl schema _⟩
  | valued tag l dispatch =>
      let n := Text.natural l.mention
      let front : List Piece := [code s!"SELECT et{n}.entity_id FROM "] ++
        Sql.table schema "entity_tag" ++ [code s!" et{n}, "]
      let back : List Piece := [code ", "] ++ Sql.table schema "tag_def" ++
        [code s!" td{n} WHERE et{n}.tag_id = td{n}.id AND td{n}.name = ", literal tag,
          code " AND "] ++ dispatch.sql ++ [code s!" GROUP BY et{n}.entity_id"]
      refine ⟨front ++ [code l.name] ++ back, fun source => ?_⟩
      have hlookup : NamesLookups schema ((l.withSource source).sql schema ++ []) [code l.name]
          [l.withSource source] := .lookup (l.withSource source) .nil
      simpa [front, back, n, withSource, RowSource.sql, lookups] using hlookup.around front back
  | linked mention tag inner ih =>
      obtain ⟨named, h⟩ := ih
      exact ⟨_, fun source => (h source).around _ _⟩

namespace Predicate

/-- The lookups that stand in predicates, from left to right. -/
def placedLookups (ps : List Predicate) : List Lookup :=
  ((atomsOfAll ps).flatMap atomLookups).map Prod.snd

@[simp]
theorem placedLookups_nil : placedLookups [] = [] := rfl

theorem placedLookups_cons (p : Predicate) (ps : List Predicate) :
    placedLookups (p :: ps) = p.inlineLookups.map Prod.snd ++ placedLookups ps := by
  rw [placedLookups, atomsOfAll, List.flatMap_append, List.map_append]
  rfl

mutual

/-- **A predicate is written alike for all sources.** -/
theorem exists_namesLookups (schema : String) : ∀ p : Predicate,
    ∃ named, ∀ source, NamesLookups schema ((p.withSource source).sql schema) named
      ((p.withSource source).inlineLookups.map Prod.snd)
  | or operands => exists_namesLookupsAny schema operands
  | and operands => exists_namesLookupsAll schema operands
  | paren inner => by
      obtain ⟨named, h⟩ := exists_namesLookups schema inner
      exact ⟨_, fun source => (h source).around [code "("] [code ")"]⟩
  | not inner => by
      obtain ⟨named, h⟩ := exists_namesLookups schema inner
      exact ⟨_, fun source => .piece (code "NOT ") (h source)⟩
  | entityIn rows => by
      obtain ⟨named, h⟩ := rows.exists_namesLookups schema
      refine ⟨[code "e.id IN ("] ++ named ++ [code ")"], fun source => ?_⟩
      simpa [withSource, sql, inlineLookups, atoms, atomLookups] using
        (h source).around [code "e.id IN ("] [code ")"]
  | rowPasses mention tag dispatch => ⟨_, fun _ => .refl schema _⟩

theorem exists_namesLookupsAny (schema : String) : ∀ ps : List Predicate,
    ∃ named, ∀ source, NamesLookups schema (sqlAny schema (withSourceAll source ps)) named
      (placedLookups (withSourceAll source ps))
  | [] => ⟨[], fun _ => .nil⟩
  | [p] => by
      obtain ⟨named, h⟩ := exists_namesLookups schema p
      refine ⟨grouped p.isAnd named, fun source => ?_⟩
      simpa [withSourceAll, sqlAny, isAnd_withSource, placedLookups_cons] using
        ((h source).grouped p.isAnd).append .nil
  | p :: next :: rest => by
      obtain ⟨named, h⟩ := exists_namesLookups schema p
      obtain ⟨later, hrest⟩ := exists_namesLookupsAny schema (next :: rest)
      refine ⟨grouped p.isAnd named ++ code " OR " :: later, fun source => ?_⟩
      have hor := (hrest source).piece (code " OR ")
      simpa [withSourceAll, sqlAny, isAnd_withSource, placedLookups_cons] using
        ((h source).grouped p.isAnd).append hor

theorem exists_namesLookupsAll (schema : String) : ∀ ps : List Predicate,
    ∃ named, ∀ source, NamesLookups schema (sqlAll schema (withSourceAll source ps)) named
      (placedLookups (withSourceAll source ps))
  | [] => ⟨[], fun _ => .nil⟩
  | [p] => by
      obtain ⟨named, h⟩ := exists_namesLookups schema p
      refine ⟨named, fun source => ?_⟩
      simpa [withSourceAll, sqlAll, placedLookups_cons] using (h source).append .nil
  | p :: next :: rest => by
      obtain ⟨named, h⟩ := exists_namesLookups schema p
      obtain ⟨later, hrest⟩ := exists_namesLookupsAll schema (next :: rest)
      refine ⟨named ++ code " AND " :: later, fun source => ?_⟩
      have hand := (hrest source).piece (code " AND ")
      simpa [withSourceAll, sqlAll, placedLookups_cons] using (h source).append hand

end

end Predicate

namespace Query

/-- The closures stand in front of a statement, and nowhere else. -/
theorem rows_eq_append (schema : String) (columns : List String) (selection : TagSelection)
    (f : CompiledFilter) :
    rows schema columns selection f =
      Closure.sqlAll schema f.closures ++
        rows schema columns selection { f with closures := [] } := by
  simp only [rows, found, opening, candidates, Closure.sqlAll, List.nil_append, List.append_assoc]

/-- **A statement is written alike for all sources**, apart from its closures. -/
theorem exists_namesLookups (schema : String) (columns : List String) (selection : TagSelection)
    (orgId userId : Int) (ls : List Lookup) (p : Predicate) :
    ∃ named, ∀ source aliases, NamesLookups schema
      (rows schema columns selection
          ⟨[], ls.map (Lookup.withSource source), p.withSource source, aliases⟩ ++
        access schema orgId userId ++ closing selection) named
      (ls.map (Lookup.withSource source) ++ (p.withSource source).inlineLookups.map Prod.snd) := by
  obtain ⟨named, hpredicate⟩ := p.exists_namesLookups schema
  obtain ⟨front, hopening⟩ : ∃ front, ∀ source aliases, NamesLookups schema
      (opening schema columns selection
        ⟨[], ls.map (Lookup.withSource source), p.withSource source, aliases⟩) front
      (ls.map (Lookup.withSource source)) :=
    ⟨_, fun source _ => ((NamesLookups.flatMap schema ls source).around _ _).behind _⟩
  obtain ⟨inner, hfound⟩ : ∃ inner, ∀ source aliases, NamesLookups schema
      (found schema columns selection
        ⟨[], ls.map (Lookup.withSource source), p.withSource source, aliases⟩) inner
      (ls.map (Lookup.withSource source) ++ (p.withSource source).inlineLookups.map Prod.snd) :=
    ⟨_, fun source aliases =>
      (((hopening source aliases).append (hpredicate source)).before _).before _⟩
  exact ⟨_, fun source aliases =>
    (((((hfound source aliases).before _).before _).before _).before _).before _ |>.before _⟩

end Query

namespace CompiledFilter

/-- The statements for a filter have one text behind their closures, whatever the source, once each
lookup is replaced by its name. -/
theorem exists_named_statement (maxPathDepth : Nat) (e : Expr) (schema : String)
    (columns : List String) (selection : TagSelection) (orgId userId : Int) :
    ∃ named, ∀ source f, compileExpr ⟨source, maxPathDepth⟩ e = .ok f → ∃ body,
      Query.rows schema columns selection f ++ Query.access schema orgId userId ++
          Query.closing selection = Closure.sqlAll schema f.closures ++ body ∧
      NamesLookups schema body named (f.lookups ++ f.predicate.inlineLookups.map Prod.snd) := by
  let options : CompileOptions := ⟨.hierarchy, maxPathDepth⟩
  obtain ⟨named, h⟩ := Query.exists_namesLookups schema columns selection orgId userId
    (gather (Reference.lookups options) 0 e.references) (e.numbered options 0)
  simp only [withSource_gather_lookups, Expr.withSource_numbered] at h
  refine ⟨named, fun source f hf => ?_⟩
  obtain ⟨-, -, rfl⟩ := compileExpr_eq_ok_iff.mp hf
  refine ⟨_, ?_, h source (widthOf e.references)⟩
  rw [Query.rows_eq_append]
  simp only [List.append_assoc]
  rfl

/-- With either source of ancestors a filter fails with one error, or the two compiled filters have
one number of aliases and agree in predicate and lookups once all lookups are moved to one source;
the one that finds ancestors in a view has no closures.  Any two statements for them are the same
behind the closures, once each lookup is replaced by its name. -/
theorem agree_up_to_lookups (maxPathDepth : Nat) (e : Expr) :
    (∃ error, compileExpr ⟨.hierarchy, maxPathDepth⟩ e = .error error ∧
      compileExpr ⟨.parentsView, maxPathDepth⟩ e = .error error) ∨
    ∃ f g, compileExpr ⟨.hierarchy, maxPathDepth⟩ e = .ok f ∧
      compileExpr ⟨.parentsView, maxPathDepth⟩ e = .ok g ∧
      f.aliases = g.aliases ∧
      (∀ source, f.predicate.withSource source = g.predicate.withSource source) ∧
      (∀ source,
        f.lookups.map (Lookup.withSource source) = g.lookups.map (Lookup.withSource source)) ∧
      g.closures = [] ∧
      ∀ schema columns selection orgId userId, ∃ body body' named,
        Query.rows schema columns selection f ++ Query.access schema orgId userId ++
            Query.closing selection = Closure.sqlAll schema f.closures ++ body ∧
        Query.rows schema columns selection g ++ Query.access schema orgId userId ++
            Query.closing selection = body' ∧
        NamesLookups schema body named
          (f.lookups ++ f.predicate.inlineLookups.map Prod.snd) ∧
        NamesLookups schema body' named
          (g.lookups ++ g.predicate.inlineLookups.map Prod.snd) := by
  cases hf : compileExpr ⟨.hierarchy, maxPathDepth⟩ e with
  | error error =>
      have hfails := compileExpr_eq_error_iff.mp hf
      exact .inl ⟨error, rfl, compileExpr_eq_error_iff.mpr hfails⟩
  | ok f =>
      obtain ⟨hdepth, hallowed, hf'⟩ := compileExpr_eq_ok_iff.mp hf
      obtain ⟨g, hg⟩ : ∃ g, compileExpr ⟨.parentsView, maxPathDepth⟩ e = .ok g :=
        ⟨_, compileExpr_eq_ok_iff.mpr ⟨hdepth, hallowed, rfl⟩⟩
      obtain ⟨-, -, hg'⟩ := compileExpr_eq_ok_iff.mp hg
      have hclosures : g.closures = [] := by
        rw [hg']
        exact gather_closures_parentsView rfl 0 e.references
      refine .inr ⟨f, g, rfl, hg, ?_, ?_, ?_, hclosures, ?_⟩
      · rw [hf', hg']
      · intro source
        rw [hf', hg', Expr.withSource_numbered, Expr.withSource_numbered]
        rfl
      · intro source
        rw [hf', hg', withSource_gather_lookups, withSource_gather_lookups]
        rfl
      · intro schema columns selection orgId userId
        obtain ⟨named, h⟩ :=
          exists_named_statement maxPathDepth e schema columns selection orgId userId
        obtain ⟨body, hstatement, hnamed⟩ := h _ f hf
        obtain ⟨body', hstatement', hnamed'⟩ := h _ g hg
        rw [hclosures, Closure.sqlAll, List.nil_append] at hstatement'
        exact ⟨body, body', named, hstatement, hstatement', hnamed, hnamed'⟩

end CompiledFilter

end EntityFilter
