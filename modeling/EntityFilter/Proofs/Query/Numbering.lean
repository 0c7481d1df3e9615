import EntityFilter.Query.Compile

/-!
# What compilation draws and gathers

Compilation runs through a filter with a state.  This file says what comes out without running it:
the predicate of a filter whose first alias follows `k` (`Expr.numbered`), and the aliases, closures
and lookups that a list of mentions adds to the state (`CompileState.after`).

**A run has the closed form** (`Compile.run_expr`): it goes through the mentions of the filter from
left to right, stops at the first one that is too deep, and otherwise returns the numbered
predicate.
-/

namespace EntityFilter

/-! ### Mentions of tags -/

/-- The tags of a path in the order in which they draw their aliases. -/
def Path.mentions (p : Path) : List String :=
  p.terminal :: p.segments.dropLast.reverse

/-- The closures of `tags` with the aliases from `first` on: none, unless a value is asked for and
ancestors are found by walking. -/
def closuresFrom (options : CompileOptions) (condition : Option Condition) (first : Nat)
    (tags : List String) : List Closure :=
  if condition.isSome ∧ options.kindSource = .hierarchy then
    (tags.zipIdx first).map fun (tag, mention) => ⟨mention, tag⟩
  else []

@[simp]
theorem closuresFrom_none (options : CompileOptions) (first : Nat) (tags : List String) :
    closuresFrom options none first tags = [] := rfl

@[simp]
theorem closuresFrom_nil (options : CompileOptions) (condition : Option Condition) (first : Nat) :
    closuresFrom options condition first [] = [] := by
  simp [closuresFrom]

theorem closuresFrom_cons (options : CompileOptions) (condition : Option Condition) (first : Nat)
    (tag : String) (tags : List String) :
    closuresFrom options condition first (tag :: tags) =
      closuresFrom options condition first [tag] ++
        closuresFrom options condition (first + 1) tags := by
  simp only [closuresFrom]
  split <;> rfl

/-- The references `tags` that lead to `inner`, the last one first, with the aliases from `first`
on. -/
def RowSource.behind (inner : RowSource) (first : Nat) : List String → RowSource
  | []          => inner
  | tag :: rest => (RowSource.linked first tag inner).behind (first + 1) rest

/-- A path with references has a tag at its end. -/
theorem Path.getLast?_of_isChain {p : Path} (h : p.isChain) :
    p.segments.getLast? = some p.terminal := by
  obtain ⟨segments⟩ := p
  cases segments with
  | nil => cases h
  | cons name rest => rw [terminal, List.getLastD_eq_getLast?, List.getLast?_cons]; rfl

theorem Path.dropLast_of_not_isChain {p : Path} (h : ¬ p.isChain) : p.segments.dropLast = [] := by
  obtain ⟨segments⟩ := p
  match segments with
  | [] | [_] => rfl
  | _ :: _ :: _ => simp [Path.isChain] at h

theorem Path.mentions_of_not_isChain {p : Path} (h : ¬ p.isChain) : p.mentions = [p.terminal] := by
  rw [mentions, dropLast_of_not_isChain h]
  rfl

namespace Reference

/-- References are followed further than the options allow. -/
def TooDeep (options : CompileOptions) (r : Reference) : Prop :=
  r.path.isChain ∧ options.maxPathDepth < r.path.depth

instance (options : CompileOptions) (r : Reference) : Decidable (r.TooDeep options) :=
  inferInstanceAs (Decidable (_ ∧ _))

/-- The closures of a mention whose first alias follows `k`. -/
def closures (options : CompileOptions) (k : Nat) (r : Reference) : List Closure :=
  closuresFrom options r.condition (k + 1) r.path.mentions

/-- The lookups of a mention whose first alias follows `k`: only those of the entity's own tags. -/
def lookups (options : CompileOptions) (k : Nat) (r : Reference) : List Lookup :=
  if r.condition.isSome ∧ !r.path.isChain then [⟨k + 1, r.path.terminal, options.kindSource⟩]
  else []

@[simp]
theorem lookups_none (options : CompileOptions) (k : Nat) (p : Path) :
    lookups options k ⟨p, none⟩ = [] := rfl

/-- The tag at the end of the path. -/
def last (options : CompileOptions) (k : Nat) (r : Reference) : RowSource :=
  match r.condition with
  | none   => .tagged (k + 1) r.path.terminal
  | some c =>
    .valued r.path.terminal ⟨k + 1, r.path.terminal, options.kindSource⟩ (c.dispatch (k + 1))

/-- The predicate of a mention whose first alias follows `k`. -/
def numbered (options : CompileOptions) (k : Nat) (r : Reference) : Predicate :=
  if r.path.isChain then
    .entityIn ((r.last options k).behind (k + 2) r.path.segments.dropLast.reverse)
  else match r.condition with
    | none   => .entityIn (.tagged (k + 1) r.path.terminal)
    | some c => .rowPasses (k + 1) r.path.terminal (c.dispatch (k + 1))

end Reference

/-- How many aliases the mentions draw. -/
def widthOf (rs : List Reference) : Nat :=
  (rs.flatMap fun r => r.path.mentions).length

@[simp]
theorem widthOf_nil : widthOf [] = 0 := rfl

@[simp]
theorem widthOf_cons (r : Reference) (rs : List Reference) :
    widthOf (r :: rs) = r.path.mentions.length + widthOf rs := by
  simp [widthOf]

/-- What `f` gives for each of the mentions, the first of which draws its aliases after `k`. -/
def gather {γ : Type} (f : Nat → Reference → List γ) (k : Nat) : List Reference → List γ
  | []      => []
  | r :: rs => f k r ++ gather f (k + r.path.mentions.length) rs

namespace Expr

mutual

/-- The predicate of a filter whose first alias follows `k`. -/
def numbered (options : CompileOptions) (k : Nat) : Expr → Predicate
  | or operands           => .or (numberedAll options k operands)
  | and operands          => .and (numberedAll options k operands)
  | paren inner           => .paren (inner.numbered options k)
  | has path              => (⟨path, none⟩ : Reference).numbered options k
  | missing path          => .not ((⟨path, none⟩ : Reference).numbered options k)
  | compare path op value =>
    (⟨path, some (.compare op value)⟩ : Reference).numbered options k
  | member path values    => (⟨path, some (.member values)⟩ : Reference).numbered options k

/-- The predicates of several filters. -/
def numberedAll (options : CompileOptions) (k : Nat) : List Expr → List Predicate
  | []        => []
  | e :: rest =>
    e.numbered options k :: numberedAll options (k + widthOf e.references) rest

end

end Expr

/-! ### The state -/

namespace CompileState

/-- The state after a mention. -/
def after (options : CompileOptions) (s : CompileState) (r : Reference) : CompileState where
  aliases := s.aliases + r.path.mentions.length
  closures := s.closures ++ r.closures options s.aliases
  lookups := s.lookups ++ r.lookups options s.aliases

/-- Goes through mentions up to the first one that is too deep. -/
def drawAll (options : CompileOptions) (s : CompileState) :
    List Reference → Except QueryError Unit × CompileState
  | []        => (.ok (), s)
  | r :: rest =>
    if r.TooDeep options then (.error (.pathTooDeep r.path.depth options.maxPathDepth), s)
    else (s.after options r).drawAll options rest

theorem drawAll_append (options : CompileOptions) (rs ts : List Reference) (s : CompileState) :
    s.drawAll options (rs ++ ts) = match s.drawAll options rs with
      | (.ok (), later) => later.drawAll options ts
      | (.error e, later) => (.error e, later) := by
  induction rs generalizing s with
  | nil => rfl
  | cons r rs ih =>
      by_cases h : r.TooDeep options
      · simp only [List.cons_append, drawAll, if_pos h]
      · simpa only [List.cons_append, drawAll, if_neg h] using ih _

/-- Mentions that are all allowed add to the state what is gathered for them. -/
theorem drawAll_eq_ok_iff {options : CompileOptions} {rs : List Reference}
    {s later : CompileState} :
    s.drawAll options rs = (.ok (), later) ↔ (∀ r ∈ rs, ¬ r.TooDeep options) ∧
      later = ⟨s.aliases + widthOf rs,
        s.closures ++ gather (Reference.closures options) s.aliases rs,
        s.lookups ++ gather (Reference.lookups options) s.aliases rs⟩ := by
  induction rs generalizing s with
  | nil => simp [drawAll, gather, eq_comm]
  | cons r rs ih =>
      rw [drawAll]
      by_cases h : r.TooDeep options
      · simp [h]
      · simp [h, ih, after, gather, Nat.add_assoc]

/-- Only a mention that is too deep stops the drawing. -/
theorem exists_tooDeep_of_drawAll {options : CompileOptions} {rs : List Reference}
    {s later : CompileState} {error : QueryError} (h : s.drawAll options rs = (.error error, later)) :
    ∃ r ∈ rs, r.TooDeep options ∧ error = .pathTooDeep r.path.depth options.maxPathDepth := by
  induction rs generalizing s with
  | nil => cases h
  | cons r rs ih =>
      rw [drawAll] at h
      split at h
      case isTrue hdeep =>
        obtain ⟨herror, -⟩ := Prod.mk.inj h
        exact ⟨r, List.mem_cons_self, hdeep, (Except.error.inj herror).symm⟩
      case isFalse =>
        obtain ⟨r', hr', hdeep⟩ := ih h
        exact ⟨r', List.mem_cons_of_mem r hr', hdeep⟩

end CompileState

/-! ### Runs -/

namespace Compile

variable {α β : Type}

/-- What a step returns and leaves. -/
theorem run_bind (x : Compile α) (f : α → Compile β) (s : CompileState) :
    (x >>= f).run.run s = match x.run.run s with
      | (.ok a, later) => (f a).run.run later
      | (.error e, later) => (.error e, later) := by
  rw [ExceptT.run_bind, StateT.run_bind]
  show (match (x.run.run s) with | (r, later) => _) = _
  rcases x.run.run s with ⟨r | r, later⟩ <;> rfl

theorem run_pure (a : α) (s : CompileState) : (pure a : Compile α).run.run s = (.ok a, s) := rfl

theorem run_nextAlias (s : CompileState) :
    nextAlias.run.run s = (.ok (s.aliases + 1), { s with aliases := s.aliases + 1 }) := rfl

theorem run_addLookup (l : Lookup) (s : CompileState) :
    (addLookup l).run.run s = (.ok (), { s with lookups := s.lookups ++ [l] }) := rfl

theorem run_addClosure (options : CompileOptions) (c : Condition) (mention : Nat) (tag : String)
    (s : CompileState) :
    (addClosure options mention tag).run.run s =
      (.ok (), { s with closures := s.closures ++ closuresFrom options (some c) mention [tag] }) := by
  rw [addClosure, closuresFrom]
  cases options.kindSource with
  | hierarchy => rfl
  | parentsView =>
      rw [if_neg (by simp), List.append_nil]
      rfl

/-- The tag at the end of a path draws one alias. -/
theorem run_lastTag (options : CompileOptions) (r : Reference) (s : CompileState) :
    (lastTag options r.path.terminal r.condition).run.run s =
      (.ok (r.last options s.aliases),
        { s with
          aliases := s.aliases + 1
          closures := s.closures ++
            closuresFrom options r.condition (s.aliases + 1) [r.path.terminal] }) := by
  rw [lastTag, run_bind, run_nextAlias, Reference.last]
  cases r.condition with
  | none => simp only [closuresFrom_none, List.append_nil]; rfl
  | some c =>
      simp only [lookup, run_bind, run_addClosure options c]
      rfl

/-- References draw one alias each. -/
theorem run_links (options : CompileOptions) (condition : Option Condition) (tags : List String)
    (inner : RowSource) (s : CompileState) :
    (links options condition inner tags).run.run s =
      (.ok (inner.behind (s.aliases + 1) tags),
        { s with
          aliases := s.aliases + tags.length
          closures := s.closures ++ closuresFrom options condition (s.aliases + 1) tags }) := by
  induction tags generalizing inner s with
  | nil => rw [closuresFrom_nil, List.append_nil]; rfl
  | cons tag tags ih =>
      rw [links, run_bind, run_nextAlias, RowSource.behind, closuresFrom_cons]
      cases condition with
      | none => simp [ih, Nat.add_assoc, Nat.add_comm 1]
      | some c =>
          simp only [Option.isSome_some, if_true]
          rw [run_bind, run_addClosure options c]
          simp [ih, Nat.add_assoc, Nat.add_comm 1]

/-- A tag of the entity itself draws one alias. -/
theorem run_ownTag (options : CompileOptions) {r : Reference} (h : ¬ r.path.isChain)
    (s : CompileState) :
    (ownTag options r.path.terminal r.condition).run.run s =
      (.ok (r.numbered options s.aliases), s.after options r) := by
  obtain ⟨p, condition⟩ := r
  rw [ownTag, run_bind, run_nextAlias, Reference.numbered, if_neg h, CompileState.after,
    Reference.closures, Path.mentions_of_not_isChain h]
  cases condition with
  | none => simp only [closuresFrom_none, List.append_nil, Reference.lookups_none]; rfl
  | some c =>
      simp only [lookup, run_bind, run_addClosure options c, run_addLookup, run_pure,
        Reference.lookups, h]
      rfl

/-- **A mention returns its numbered predicate, unless it is too deep.** -/
theorem run_reference (options : CompileOptions) (r : Reference) (s : CompileState) :
    (reference options r).run.run s =
      if r.TooDeep options then (.error (.pathTooDeep r.path.depth options.maxPathDepth), s)
      else (.ok (r.numbered options s.aliases), s.after options r) := by
  rw [reference]
  by_cases hchain : r.path.isChain
  · rw [if_pos hchain, chain]
    by_cases hdeep : options.maxPathDepth < r.path.depth
    · rw [if_pos hdeep, if_pos ⟨hchain, hdeep⟩]
      rfl
    · -- a path with references has names, so there is a tag at its end
      rw [if_neg hdeep, if_neg fun h => hdeep h.2, Reference.numbered, if_pos hchain,
        CompileState.after, Reference.closures, Path.mentions, closuresFrom_cons,
        Path.getLast?_of_isChain hchain]
      simp only [run_bind, run_pure, run_lastTag, run_links, Reference.lookups, hchain,
        Nat.add_assoc, Nat.add_comm 1, List.append_assoc, List.length_cons]
      simp
  · rw [if_neg hchain, if_neg fun h => hchain h.1, run_ownTag options hchain]

/-- The answer of a run through mentions, and the state it leaves. -/
def outcome (answer : α) : Except QueryError Unit × CompileState → Except QueryError α × CompileState
  | (.ok (), later) => (.ok answer, later)
  | (.error e, later) => (.error e, later)

theorem run_reference_eq_outcome (options : CompileOptions) (r : Reference) (s : CompileState) :
    (reference options r).run.run s =
      outcome (r.numbered options s.aliases) (s.drawAll options [r]) := by
  rw [run_reference, CompileState.drawAll]
  split <;> rfl

mutual

/-- **A run has the closed form.** -/
theorem run_expr (options : CompileOptions) : ∀ (e : Expr) (s : CompileState),
    (expr options e).run.run s =
      outcome (e.numbered options s.aliases) (s.drawAll options e.references)
  | .or operands, s | .and operands, s => by
      rw [expr, run_bind, run_exprs options operands s, Expr.numbered, Expr.references]
      rcases s.drawAll options (Expr.referencesOfAll operands) with ⟨r | r, later⟩ <;> rfl
  | .paren inner, s => by
      rw [expr, run_bind, run_expr options inner s, Expr.numbered, Expr.references]
      rcases s.drawAll options inner.references with ⟨r | r, later⟩ <;> rfl
  | .has path, s => by
      rw [expr, run_reference_eq_outcome, Expr.numbered, Expr.references]
  | .missing path, s => by
      rw [expr, run_bind, run_reference_eq_outcome, Expr.numbered, Expr.references]
      rcases s.drawAll options [⟨path, none⟩] with ⟨r | r, later⟩ <;> rfl
  | .compare path op value, s => by
      rw [expr, run_reference_eq_outcome, Expr.numbered, Expr.references]
  | .member path values, s => by
      rw [expr, run_reference_eq_outcome, Expr.numbered, Expr.references]

theorem run_exprs (options : CompileOptions) : ∀ (es : List Expr) (s : CompileState),
    (exprs options es).run.run s =
      outcome (Expr.numberedAll options s.aliases es)
        (s.drawAll options (Expr.referencesOfAll es))
  | [], s => rfl
  | e :: rest, s => by
      rw [exprs, run_bind, run_expr options e s, Expr.numberedAll, Expr.referencesOfAll,
        CompileState.drawAll_append]
      rcases hdraw : s.drawAll options e.references with ⟨r | r, later⟩
      · rfl
      · -- the mentions of the rest are numbered from where those of `e` ended
        obtain ⟨-, hlater⟩ := CompileState.drawAll_eq_ok_iff.mp hdraw
        have haliases : later.aliases = s.aliases + widthOf e.references := by rw [hlater]
        simp only [outcome, run_bind, run_exprs options rest later, haliases]
        rcases later.drawAll options (Expr.referencesOfAll rest) with ⟨r | r, last⟩ <;> rfl

end

end Compile

/-- **A compiled filter has the closed form.** -/
theorem compileExpr_eq_ok_iff {options : CompileOptions} {e : Expr} {f : CompiledFilter} :
    compileExpr options e = .ok f ↔
      options.maxPathDepth ≠ 0 ∧ (∀ r ∈ e.references, ¬ r.TooDeep options) ∧
      f = ⟨gather (Reference.closures options) 0 e.references,
        gather (Reference.lookups options) 0 e.references, e.numbered options 0,
        widthOf e.references⟩ := by
  rw [compileExpr, CompileOptions.validate, Compile.run_expr]
  by_cases hzero : options.maxPathDepth = 0
  · simp [hzero, bind, Except.bind]
  · rcases hdraw : CompileState.drawAll options {} e.references with ⟨error | ⟨⟩, later⟩
    · have hdeep : ¬ ∀ r ∈ e.references, ¬ r.TooDeep options := fun h => by
        simp [CompileState.drawAll_eq_ok_iff.mpr ⟨h, rfl⟩] at hdraw
      simp only [Compile.outcome, if_neg hzero, bind, Except.bind, throw, throwThe,
        MonadExceptOf.throw, hdeep, false_and, and_false, reduceCtorEq]
    · obtain ⟨hallowed, rfl⟩ := CompileState.drawAll_eq_ok_iff.mp hdraw
      simpa [hzero, Compile.outcome, bind, Except.bind, pure, Except.pure, eq_comm] using
        fun _ => hallowed

/-- With options that are accepted, only a path that is too deep is not compiled. -/
theorem exists_tooDeep_of_compileExpr {options : CompileOptions} {e : Expr} {error : QueryError}
    (hvalid : options.validate = .ok ()) (h : compileExpr options e = .error error) :
    ∃ r ∈ e.references, r.TooDeep options ∧
      error = .pathTooDeep r.path.depth options.maxPathDepth := by
  rw [compileExpr, hvalid, Compile.run_expr] at h
  rcases hdraw : CompileState.drawAll options {} e.references with ⟨fault | ⟨⟩, later⟩
  · rw [hdraw] at h
    obtain rfl : fault = error := Except.error.inj h
    exact CompileState.exists_tooDeep_of_drawAll hdraw
  · rw [hdraw] at h
    cases h

/-! ### Aliases of what is gathered -/

section Gather

variable {γ : Type} {f : Nat → Reference → List γ} {number : γ → Nat}

theorem gather_append (f : Nat → Reference → List γ) (k : Nat) (rs ts : List Reference) :
    gather f k (rs ++ ts) = gather f k rs ++ gather f (k + widthOf rs) ts := by
  induction rs generalizing k with
  | nil => rfl
  | cons r rs ih => simp [gather, ih, Nat.add_assoc]

/-- What a mention gives has aliases that the mention draws. -/
def DrawsOwn (f : Nat → Reference → List γ) (number : γ → Nat) : Prop :=
  ∀ k r, ∀ a ∈ f k r, k < number a ∧ number a ≤ k + r.path.mentions.length

theorem DrawsOwn.of_mem_gather (hf : DrawsOwn f number) {k : Nat} {rs : List Reference} {a : γ}
    (ha : a ∈ gather f k rs) : k < number a ∧ number a ≤ k + widthOf rs := by
  induction rs generalizing k with
  | nil => cases ha
  | cons r rs ih =>
      rw [widthOf_cons]
      rcases List.mem_append.mp ha with ha | ha
      · have := hf k r a ha
        omega
      · have := ih ha
        omega

/-- **Nothing that is gathered for other mentions has an alias of this one.** -/
theorem DrawsOwn.filter_gather (hf : DrawsOwn f number) {k n : Nat} {earlier later : List Reference}
    {r : Reference} (hlow : k + widthOf earlier < n)
    (hhigh : n ≤ k + widthOf earlier + r.path.mentions.length) :
    (gather f k (earlier ++ r :: later)).filter (fun a => number a = n) =
      (f (k + widthOf earlier) r).filter fun a => number a = n := by
  have hearlier : (gather f k earlier).filter (fun a => number a = n) = [] := by
    rw [List.filter_eq_nil_iff]
    intro a ha
    have := hf.of_mem_gather ha
    simp only [decide_eq_true_eq]
    omega
  have hlater : (gather f (k + widthOf earlier + r.path.mentions.length) later).filter
      (fun a => number a = n) = [] := by
    rw [List.filter_eq_nil_iff]
    intro a ha
    have := hf.of_mem_gather ha
    simp only [decide_eq_true_eq]
    omega
  rw [gather_append, gather, List.filter_append, List.filter_append, hearlier, hlater,
    List.nil_append, List.append_nil]

end Gather

theorem mention_of_mem_closuresFrom {options : CompileOptions} {condition : Option Condition}
    {first : Nat} {tags : List String} {c : Closure}
    (h : c ∈ closuresFrom options condition first tags) :
    first ≤ c.mention ∧ c.mention < first + tags.length := by
  rw [closuresFrom] at h
  split at h
  · obtain ⟨⟨tag, n⟩, hn, rfl⟩ := List.mem_map.mp h
    exact ⟨List.le_snd_of_mem_zipIdx hn, List.snd_lt_add_of_mem_zipIdx hn⟩
  · cases h

theorem drawsOwn_closures (options : CompileOptions) :
    DrawsOwn (Reference.closures options) Closure.mention := fun k r c hc => by
  have := mention_of_mem_closuresFrom hc
  omega

theorem drawsOwn_lookups (options : CompileOptions) :
    DrawsOwn (Reference.lookups options) Lookup.mention := fun k r l hl => by
  rw [Reference.lookups] at hl
  split at hl
  · obtain rfl := List.mem_singleton.mp hl
    simp [Path.mentions]
  · cases hl

end EntityFilter
