import EntityFilter.Proofs.Filter.Shape
import EntityFilter.Proofs.Query.Ancestors
import EntityFilter.Proofs.Query.Numbering

/-!
# Compilation keeps the meaning

**A compiled filter selects exactly the entities that satisfy the filter**
(`CompiledFilter.selects_iff_satisfies`).

A mention of a tag with a condition is read rightly only if the aliases around it stand for what it
needs: the lookup with its alias, and the walk behind that lookup, have to be the ones of its tag
(`Scope.Serves`).  They do because all mentions draw their aliases from one count, so that what is
gathered for other mentions has other aliases (`filter_gather`).
-/

namespace EntityFilter

variable {D : Dialect}

/-! ### Conditions -/

/-- The first kind that is marked. -/
def markedKind (names : List String) (kinds : List ValueKind) : Option ValueKind :=
  kinds.find? fun kind => kind.Marked names

theorem ColumnValue.compareWith_eq_yes {α : Type} [LinearOrder α] {op : Comparison} {a : α}
    {b : Option α} : compareWith op a b = .yes ↔ ∃ v, b = some v ∧ op.Holds a v := by
  cases b <;> simp [compareWith]

/-- An empty column compares with nothing. -/
theorem ColumnValue.compare_elim_eq_yes {α : Type} {column : Option α} {cell : α → ColumnValue D}
    {op : Comparison} {value : SqlValue} :
    (column.elim .null cell).compare op value = .yes ↔
      ∃ a, column = some a ∧ (cell a).compare op value = .yes := by
  cases column <;> simp [compare]

theorem markedKind_numeric (names : List String) :
    markedKind names [.number, .ref] =
      if "number" ∈ names then some .number else if "ref" ∈ names then some .ref else none := by
  by_cases hnumber : "number" ∈ names <;> by_cases href : "ref" ∈ names <;>
    simp [markedKind, ValueKind.Marked, ValueKind.markers, hnumber, href]

theorem markedKind_singleton (names : List String) (kind : ValueKind) :
    markedKind names [kind] = if kind.Marked names then some kind else none := by
  by_cases h : kind.Marked names <;> simp [markedKind, h]

theorem exists_ite_eq_some {α : Type} {p : Prop} [Decidable p] {a : α} {q : α → Prop} :
    (∃ x, (if p then some a else none) = some x ∧ q x) ↔ p ∧ q a := by
  by_cases h : p <;> simp [h]

theorem TagRow.cell_column (row : TagRow D) (kind : ValueKind) :
    row.cell kind.column = match kind with
      | .number   => row.valueN.elim .null .number
      | .ref      => row.valueRef.elim .null .integer
      | .bool     => row.valueB.elim .null .bool
      | .str      => row.valueS.elim .null .text
      | .temporal => row.valueTs.elim .null .instant := by
  cases kind <;> rfl

/-- A literal compares with the column of the first kind that is marked. -/
theorem Literal.compares_iff {names : List String} {row : TagRow D} {op : Comparison}
    {value : Literal} :
    value.Compares names row op ↔ ∃ kind, markedKind names value.kinds = some kind ∧
      (row.cell kind.column).compare op value.toSql = .yes := by
  cases value with
  | number t | ref id =>
      rw [kinds, markedKind_numeric, Compares]
      by_cases hnumber : "number" ∈ names
      · simp only [hnumber, if_true, Option.some.injEq, exists_eq_left', TagRow.cell_column,
          ColumnValue.compare_elim_eq_yes, toSql]
        simp [ColumnValue.compare, ColumnValue.compareWith_eq_yes]
      · simp only [hnumber, if_false, exists_ite_eq_some, TagRow.cell_column,
          ColumnValue.compare_elim_eq_yes, toSql]
        simp [ColumnValue.compare, ColumnValue.compareWith_eq_yes]
  | bool b | str t | uri t =>
      simp only [kinds, markedKind_singleton, Compares, exists_ite_eq_some, TagRow.cell_column,
        ColumnValue.compare_elim_eq_yes, toSql]
      simp [ValueKind.Marked, ValueKind.markers, ColumnValue.compare,
        ColumnValue.compareWith_eq_yes]
  | date d | time t | dateTime t =>
      simp only [kinds, markedKind_singleton, Compares, Compares.atInstant, exists_ite_eq_some,
        TagRow.cell_column, ColumnValue.compare_elim_eq_yes, toSql]
      simp [ValueKind.Marked, ValueKind.markers, ColumnValue.compare,
        ColumnValue.compareWith_eq_yes]

theorem Literal.kinds_of_mem {values : List Literal} (h : (Condition.member values).WellFormed)
    {value : Literal} (hvalue : value ∈ values) : value.kinds = kindsOfList values := by
  obtain ⟨hne, -, hsame⟩ := h
  obtain ⟨first, rest, rfl⟩ := List.exists_cons_of_ne_nil hne
  rw [kindsOfList, List.head?_cons, Option.any_some]
  rcases hsame with hsame | hsame
  · rw [if_pos (hsame first (by simp))]
    have := hsame value hvalue
    cases value <;> simp_all [isNumeric, kinds]
  · have hfirst := hsame first (by simp)
    have := hsame value hvalue
    rw [if_neg (by cases first <;> simp_all [isNumeric, isTextual])]
    cases value <;> simp_all [isTextual, kinds]

/-- **A dispatch passes exactly the rows whose value is as the condition says**, if its aliases
stand for the row and the ancestors of its tag. -/
theorem Dispatch.eval_eq_yes_iff (db : TagStore D) {scope : Scope D} {n : Nat} {tag : String}
    {row : TagRow D} {c : Condition} (hc : c.WellFormed) (hrow : scope.row n = some row)
    (hparents : scope.parentId n = db.parentId tag) :
    (c.dispatch n).eval scope = .yes ↔ c.Holds (db.ancestors tag) row := by
  have heval : (c.dispatch n).eval scope = .yes ↔
      ∃ kind, markedKind (db.ancestors tag) c.kinds = some kind ∧
        c.test.eval (row.cell kind.column) = .yes := by
    simp only [eval, Condition.dispatch, hrow, hparents, ValueKind.eval_eq_yes_iff]
    rw [← markedKind]
    cases markedKind (db.ancestors tag) c.kinds <;> simp
  rw [heval]
  cases c with
  | compare op value => exact Literal.compares_iff.symm
  | member values =>
      simp only [Condition.Holds, Literal.compares_iff, Condition.kinds, Condition.test, Test.eval,
        Truth.any_eq_yes, List.mem_map, List.map_map, Function.comp]
      constructor
      · rintro ⟨kind, hkind, value, hvalue, hcompare⟩
        exact ⟨value, hvalue, kind, Literal.kinds_of_mem hc hvalue ▸ hkind, hcompare⟩
      · rintro ⟨value, hvalue, kind, hkind, hcompare⟩
        exact ⟨kind, Literal.kinds_of_mem hc hvalue ▸ hkind, value, hvalue, hcompare⟩

/-! ### Selections -/

theorem TagStore.mem_tagRows {db : TagStore D} {tag : String} {row : TagRow D} :
    row ∈ db.tagRows tag ↔
      row ∈ db.entityTags ∧ ∃ d ∈ db.tagDefs, row.tagId = some d.id ∧ d.name = tag := by
  simp only [tagRows, List.mem_flatMap, List.mem_map, List.mem_filter, decide_eq_true_eq]
  constructor
  · rintro ⟨row, hrow, d, ⟨hd, hid⟩, rfl⟩
    exact ⟨hrow, d, hd, hid⟩
  · rintro ⟨hrow, d, hd, hid⟩
    exact ⟨row, hrow, d, ⟨hd, hid⟩, rfl⟩

theorem TagStore.gives_iff {db : TagStore D} {x : Int} {tag : String} {row : TagRow D} :
    db.Gives x tag row ↔ row ∈ db.tagRows tag ∧ row.entityId = x := by
  rw [Gives, mem_tagRows, and_comm (a := row.entityId = x), and_assoc]

theorem TagStore.leads_append {db : TagStore D} {tags more : List String} {x y : Int} :
    db.Leads (tags ++ more) x y ↔ ∃ z, db.Leads tags x z ∧ db.Leads more z y := by
  induction tags generalizing x with
  | nil => simp [Leads]
  | cons tag tags ih =>
      simp only [List.cons_append, Leads, ih]
      constructor
      · rintro ⟨row, z, hrow, href, w, hw, hy⟩
        exact ⟨w, ⟨row, z, hrow, href, hw⟩, hy⟩
      · rintro ⟨w, ⟨row, z, hrow, href, hw⟩, hy⟩
        exact ⟨row, z, hrow, href, w, hw, hy⟩

/-- The source selects the entities with a property, whatever rows are around it. -/
def RowSource.Selects (db : TagStore D) (closures : List Closure) (source : RowSource)
    (p : Int → Prop) : Prop :=
  ∀ scope : Scope D, scope.closures = closures → ∀ x, x ∈ source.eval db scope ↔ p x

theorem RowSource.selects_linked {db : TagStore D} {closures : List Closure} {inner : RowSource}
    {p : Int → Prop} (h : inner.Selects db closures p) (n : Nat) (tag : String) :
    (linked n tag inner).Selects db closures fun x => ∃ y, db.Leads [tag] x y ∧ p y := by
  intro scope hscope x
  have hinner : ∀ row y, y ∈ inner.eval db (scope.withRow n row) ↔ p y := fun row =>
    h (scope.withRow n row) hscope
  simp only [eval, List.mem_map, List.mem_filter, decide_eq_true_eq, Truth.isIn_eq_yes, hinner,
    TagStore.Leads, TagStore.gives_iff]
  constructor
  · rintro ⟨row, ⟨hrow, y, hy, href⟩, hx⟩
    exact ⟨y, ⟨row, y, ⟨hrow, hx⟩, href, rfl⟩, hy⟩
  · rintro ⟨y, ⟨row, z, ⟨hrow, hx⟩, href, rfl⟩, hy⟩
    exact ⟨row, ⟨hrow, z, hy, href⟩, hx⟩

/-- References in front of a source lead to the entities that it selects. -/
theorem RowSource.selects_behind {db : TagStore D} {closures : List Closure} {inner : RowSource}
    {p : Int → Prop} (h : inner.Selects db closures p) (first : Nat) (tags : List String) :
    (inner.behind first tags).Selects db closures fun x =>
      ∃ y, db.Leads tags.reverse x y ∧ p y := by
  induction tags generalizing inner first p with
  | nil => simpa [behind, TagStore.Leads] using h
  | cons tag tags ih =>
      intro scope hscope x
      -- the first tag in the list is the innermost reference, so the path grows at its start
      rw [behind, ih (selects_linked h first tag) (first + 1) scope hscope x, List.reverse_cons]
      simp only [TagStore.leads_append]
      constructor
      · rintro ⟨y, hy, z, hz, hp⟩
        exact ⟨z, ⟨y, hy, hz⟩, hp⟩
      · rintro ⟨z, ⟨y, hy, hz⟩, hp⟩
        exact ⟨y, hy, z, hz, hp⟩

/-! ### Mentions -/

/-- The aliases that the condition of a mention needs stand for the ancestors of its tag. -/
def Scope.ServesMention (db : TagStore D) (options : CompileOptions) (scope : Scope D) (k : Nat)
    (r : Reference) : Prop :=
  r.condition.isSome →
    (⟨k + 1, r.path.terminal, options.kindSource⟩ : Lookup).eval db scope.closures =
      db.parentId r.path.terminal ∧
    (¬ r.path.isChain → scope.parentId (k + 1) = db.parentId r.path.terminal)

/-- The aliases serve all the mentions, the first of which draws its aliases after `k`. -/
def Scope.Serves (db : TagStore D) (options : CompileOptions) (scope : Scope D) (k : Nat) :
    List Reference → Prop
  | []      => True
  | r :: rs => scope.ServesMention db options k r ∧
      scope.Serves db options (k + r.path.mentions.length) rs

theorem Scope.serves_append {db : TagStore D} {options : CompileOptions} {scope : Scope D} {k : Nat}
    {rs ts : List Reference} : scope.Serves db options k (rs ++ ts) ↔
      scope.Serves db options k rs ∧ scope.Serves db options (k + widthOf rs) ts := by
  induction rs generalizing k with
  | nil => simp [Serves]
  | cons r rs ih => simp [Serves, ih, and_assoc, Nat.add_assoc]

namespace Reference

/-- The entity has the tag at the end of the path, with a value as asked. -/
def EndsAt (db : TagStore D) (r : Reference) (y : Int) : Prop :=
  ∃ row, db.Gives y r.path.terminal row ∧
    ∀ c ∈ r.condition, c.Holds (db.ancestors r.path.terminal) row

theorem satisfies_iff {db : TagStore D} {r : Reference} (h : r.path.segments ≠ []) {x : Int} :
    r.Satisfies db x ↔ ∃ y, db.Leads r.path.segments.dropLast x y ∧ r.EndsAt db y := by
  have hsplit : r.path.segments = r.path.segments.dropLast ++ [r.path.terminal] := by
    rw [Path.terminal, List.getLastD_eq_getLast?, List.getLast?_eq_some_getLast h, Option.getD_some,
      List.dropLast_append_getLast]
  constructor
  · rintro ⟨links, tag, y, row, hpath, hleads, hgives, hholds⟩
    obtain ⟨hlinks, htag⟩ := List.append_inj' (hpath.symm.trans hsplit) rfl
    obtain rfl : tag = r.path.terminal := by simpa using htag
    exact ⟨y, hlinks ▸ hleads, row, hgives, hholds⟩
  · rintro ⟨y, hleads, row, hgives, hholds⟩
    exact ⟨_, _, y, row, hsplit, hleads, hgives, hholds⟩

variable {db : TagStore D} {options : CompileOptions} {scope : Scope D} {k : Nat} {r : Reference}

theorem selects_last (hr : r.WellFormed) (hs : scope.ServesMention db options k r) :
    (r.last options k).Selects db scope.closures (r.EndsAt db) := by
  obtain ⟨path, condition⟩ := r
  intro inner hinner y
  cases condition with
  | none => simp [last, RowSource.eval, EndsAt, TagStore.gives_iff]
  | some c =>
      obtain ⟨hlookup, -⟩ := hs rfl
      have hpasses : ∀ row : TagRow D, (c.dispatch (k + 1)).eval
          ((inner.withRow (k + 1) row).withLookup (k + 1) (db.parentId path.terminal)) = .yes ↔
            c.Holds (db.ancestors path.terminal) row := fun row =>
        Dispatch.eval_eq_yes_iff db (hr.2 c rfl) (by simp [Scope.withRow, Scope.withLookup])
          (by simp [Scope.withLookup])
      simp only [last, RowSource.eval, List.mem_eraseDups, List.mem_map, List.mem_filter,
        decide_eq_true_eq, hinner, hlookup, hpasses, EndsAt, TagStore.gives_iff,
        Option.mem_some_iff, forall_eq']
      exact exists_congr fun row => and_right_comm

/-- A tag of the entity itself. -/
theorem eval_numbered_own (hr : r.WellFormed) (hs : scope.ServesMention db options k r)
    (hchain : ¬ r.path.isChain) {x : Int} :
    (r.numbered options k).eval db scope x = .yes ↔ r.EndsAt db x := by
  obtain ⟨path, condition⟩ := r
  rw [numbered, if_neg hchain]
  cases condition with
  | none =>
      simp [Predicate.eval, Truth.isIn_eq_yes, RowSource.eval, EndsAt, TagStore.gives_iff]
  | some c =>
      -- unlike at the end of a path, the lookup is one that stands beside the predicate
      have hpasses : ∀ row : TagRow D,
          (c.dispatch (k + 1)).eval (scope.withRow (k + 1) row) = .yes ↔
            c.Holds (db.ancestors path.terminal) row := fun row =>
        Dispatch.eval_eq_yes_iff db (hr.2 c rfl) (by simp [Scope.withRow]) ((hs rfl).2 hchain)
      simp only [Predicate.eval, Truth.ofProp_eq_yes, Truth.and_eq_yes, hpasses, EndsAt,
        TagStore.gives_iff, Option.mem_some_iff, forall_eq', and_assoc]

/-- **The predicate of a mention holds of the entities that satisfy it.** -/
theorem eval_numbered_eq_yes_iff (hr : r.WellFormed) (hs : scope.ServesMention db options k r)
    {x : Int} : (r.numbered options k).eval db scope x = .yes ↔ r.Satisfies db x := by
  rw [satisfies_iff hr.1]
  by_cases hchain : r.path.isChain
  · have hsource := RowSource.selects_behind (selects_last hr hs) (k + 2)
      r.path.segments.dropLast.reverse scope rfl x
    rw [List.reverse_reverse] at hsource
    rw [numbered, if_pos hchain, Predicate.eval, Truth.isIn_eq_yes]
    simpa using hsource
  · rw [eval_numbered_own hr hs hchain, Path.dropLast_of_not_isChain hchain]
    simp [TagStore.Leads]

theorem eval_numbered_ne_unknown {x : Int} :
    (r.numbered options k).eval db scope x ≠ .unknown := by
  rw [numbered]
  split
  · exact Truth.isIn_some_ne_unknown _ _
  · cases r.condition with
    | none => exact Truth.isIn_some_ne_unknown _ _
    | some c => exact Truth.ofProp_ne_unknown

end Reference

/-! ### The scope of a compiled filter -/

theorem Scope.serves_of_forall {db : TagStore D} {options : CompileOptions} {scope : Scope D}
    {k : Nat} {rs : List Reference}
    (h : ∀ earlier r later, rs = earlier ++ r :: later →
      scope.ServesMention db options (k + widthOf earlier) r) :
    scope.Serves db options k rs := by
  induction rs generalizing k with
  | nil => trivial
  | cons r rs ih =>
      refine ⟨h [] r rs rfl, ih fun earlier t later hrs => ?_⟩
      have := h (r :: earlier) t later (by rw [hrs, List.cons_append])
      rwa [widthOf_cons, ← Nat.add_assoc] at this

/-- The walk of the tag at the end of a path has the first alias of the mention. -/
theorem Reference.filter_closures {options : CompileOptions} {r : Reference}
    (hsource : options.kindSource = .hierarchy) (hr : r.condition.isSome) (k : Nat) :
    (r.closures options k).filter (fun c => c.mention = k + 1) = [⟨k + 1, r.path.terminal⟩] := by
  have hrest : (closuresFrom options r.condition (k + 2) r.path.segments.dropLast.reverse).filter
      (fun c => c.mention = k + 1) = [] := by
    rw [List.filter_eq_nil_iff]
    intro c hc
    have := mention_of_mem_closuresFrom hc
    simp only [decide_eq_true_eq]
    omega
  rw [closures, Path.mentions, closuresFrom_cons, List.filter_append, hrest]
  simp [closuresFrom, hsource, hr]

/-- **The aliases of a compiled filter serve all its mentions of tags.** -/
theorem CompiledFilter.serves {options : CompileOptions} {e : Expr} {f : CompiledFilter}
    (h : compileExpr options e = .ok f) (db : TagStore D) :
    (f.scope db).Serves db options 0 e.references := by
  obtain ⟨-, -, rfl⟩ := compileExpr_eq_ok_iff.mp h
  refine Scope.serves_of_forall fun earlier r later hsplit hr => ?_
  have hlookup : (⟨0 + widthOf earlier + 1, r.path.terminal, options.kindSource⟩ : Lookup).eval db
      (gather (Reference.closures options) 0 e.references) = db.parentId r.path.terminal := by
    rw [Lookup.eval, Lookup.subject]
    cases hsource : options.kindSource with
    | parentsView => rfl
    | hierarchy =>
        -- of all the walks that are gathered, only one of this mention has the alias
        rw [hsplit]
        simp only [(drawsOwn_closures options).filter_gather (Nat.lt_succ_self _)
          (Nat.add_le_add_left (Nat.le_add_left 1 _) _), Reference.filter_closures hsource hr,
          Option.bind_some]
  refine ⟨hlookup, fun hchain => ?_⟩
  have hlookups : (gather (Reference.lookups options) 0 e.references).filter
      (fun l => l.mention = 0 + widthOf earlier + 1) =
        [⟨0 + widthOf earlier + 1, r.path.terminal, options.kindSource⟩] := by
    rw [hsplit, (drawsOwn_lookups options).filter_gather (Nat.lt_succ_self _)
      (Nat.add_le_add_left (Nat.le_add_left 1 _) _)]
    simp [Reference.lookups, hr, hchain]
  rw [CompiledFilter.scope]
  simp only [hlookups]
  exact hlookup

/-! ### Filters -/

namespace Expr

variable {db : TagStore D} {options : CompileOptions} {scope : Scope D} {x : Int}

mutual

theorem eval_numbered_iff : ∀ (e : Expr) (k : Nat), e.WellFormed →
    scope.Serves db options k e.references →
    ((e.numbered options k).eval db scope x = .yes ↔ e.Satisfies db x)
  | .or operands, k, hwell, hserves => by
      rw [WellFormed, references] at hwell
      rw [references] at hserves
      rw [numbered, Predicate.eval, Satisfies]
      exact (eval_numberedAll_iff operands k hwell hserves).1
  | .and operands, k, hwell, hserves => by
      rw [WellFormed, references] at hwell
      rw [references] at hserves
      rw [numbered, Predicate.eval, Satisfies]
      exact (eval_numberedAll_iff operands k hwell hserves).2
  | .paren inner, k, hwell, hserves => by
      rw [WellFormed, references] at hwell
      rw [references] at hserves
      rw [numbered, Predicate.eval, Satisfies]
      exact eval_numbered_iff inner k hwell hserves
  | .has path, k, hwell, hserves => by
      rw [references] at hserves
      exact Reference.eval_numbered_eq_yes_iff (hwell _ (by simp [references])) hserves.1
  | .missing path, k, hwell, hserves => by
      rw [references] at hserves
      -- a negation needs more than the positive case: that the inner answer is never unknown
      rw [numbered, Predicate.eval, Satisfies,
        Truth.not_eq_yes Reference.eval_numbered_ne_unknown, ne_eq,
        Reference.eval_numbered_eq_yes_iff (hwell _ (by simp [references])) hserves.1]
  | .compare path op value, k, hwell, hserves => by
      rw [references] at hserves
      exact Reference.eval_numbered_eq_yes_iff (hwell _ (by simp [references])) hserves.1
  | .member path values, k, hwell, hserves => by
      rw [references] at hserves
      exact Reference.eval_numbered_eq_yes_iff (hwell _ (by simp [references])) hserves.1

theorem eval_numberedAll_iff : ∀ (es : List Expr) (k : Nat),
    (∀ r ∈ referencesOfAll es, r.WellFormed) →
    scope.Serves db options k (referencesOfAll es) →
    (Truth.any (Predicate.evalAll db scope x (numberedAll options k es)) = .yes ↔
      SatisfiesAny db x es) ∧
    (Truth.all (Predicate.evalAll db scope x (numberedAll options k es)) = .yes ↔
      SatisfiesAll db x es)
  | [], k, _, _ => by
      simp [numberedAll, Predicate.evalAll, Truth.all, SatisfiesAny, SatisfiesAll]
  | e :: rest, k, hwell, hserves => by
      rw [referencesOfAll, List.forall_mem_append] at hwell
      rw [referencesOfAll, Scope.serves_append] at hserves
      have hhead := eval_numbered_iff e k hwell.1 hserves.1
      obtain ⟨hany, hall⟩ := eval_numberedAll_iff rest _ hwell.2 hserves.2
      rw [numberedAll, Predicate.evalAll, Truth.any_cons, Truth.all_cons, Truth.or_eq_yes,
        Truth.and_eq_yes, hhead, hany, hall, SatisfiesAny, SatisfiesAll]
      exact ⟨Iff.rfl, Iff.rfl⟩

end

end Expr

/-- **A compiled filter selects exactly the entities that satisfy the filter.** -/
theorem CompiledFilter.selects_iff_satisfies {text : String} {options : CompileOptions} {e : Expr}
    {f : CompiledFilter} (hparse : parse text = .ok e) (hcompile : compileExpr options e = .ok f)
    (db : TagStore D) (x : Int) : f.Selects db x ↔ e.Satisfies db x := by
  have hserves := CompiledFilter.serves hcompile db
  obtain ⟨-, -, hf⟩ := compileExpr_eq_ok_iff.mp hcompile
  have hpredicate : f.predicate = e.numbered options 0 := by rw [hf]
  rw [Selects, hpredicate]
  exact Expr.eval_numbered_iff e 0 (wellFormed_of_parse hparse) hserves

/-- A database with integers for numbers and instants; no text is read as an instant. -/
def Dialect.integers : Dialect where
  Number := Int
  Instant := Int
  numberOrder := inferInstance
  textOrder := inferInstance
  instantOrder := inferInstance
  ofInt n := n
  numeral t := Text.integer? t.toList
  instant _ := none

/-- A site with an area, and equipment that refers to the site. -/
def TagStore.siteAndEquipment : TagStore .integers where
  entityTags := [⟨100, some 1, none, none, none, none, none⟩,
    ⟨100, some 2, some (5000 : Int), none, none, none, none⟩,
    ⟨200, some 3, none, some 100, none, none, none⟩]
  tagDefs := [⟨1, "site"⟩, ⟨2, "area"⟩, ⟨3, "siteRef"⟩]
  ancestors
    | "area"    => ["scalar", "number"]
    | "siteRef" => ["ref"]
    | _         => []
  noComma tag := by split <;> decide

set_option maxRecDepth 8000 in
/-- The equipment is selected because it refers to a large site, and the site itself is not. -/
theorem CompiledFilter.equipment_at_large_site :
    let e : Expr := .compare ⟨["siteRef", "area"]⟩ .gt (.number "1000")
    ∃ f, parse "siteRef->area > 1000" = .ok e ∧ compileExpr {} e = .ok f ∧
      e.Satisfies TagStore.siteAndEquipment 200 ∧ ¬ e.Satisfies TagStore.siteAndEquipment 100 := by
  intro e
  have hparse : parse "siteRef->area > 1000" = .ok e := by cbv
  have hcompile : compileExpr {} e = .ok ⟨[⟨1, "area"⟩, ⟨2, "siteRef"⟩], [],
      .entityIn (.linked 2 "siteRef" (.valued "area" ⟨1, "area", .hierarchy⟩
        ⟨1, [.number, .ref], .compare .gt (.number "1000")⟩)), 2⟩ := rfl
  have hselects := selects_iff_satisfies hparse hcompile TagStore.siteAndEquipment
  refine ⟨_, hparse, hcompile, (hselects 200).mp (by cbv), fun h => ?_⟩
  have hsite := (hselects 100).mpr h
  cbv at hsite
  cases hsite

end EntityFilter
