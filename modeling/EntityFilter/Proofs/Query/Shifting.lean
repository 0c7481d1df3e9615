import EntityFilter.Proofs.Query.Numbering

/-!
# Compilation in a context

A filter may be compiled where other filters were compiled before it, with their aliases drawn and
their closures and lookups gathered.  Nothing of that is looked at: what the filter adds is what it
gathers on its own, with all aliases behind those that were drawn.

Shifting is defined for everything that has an alias, and the states go along with it:
`CompileState.append` puts what was gathered from a fresh state behind a state.  A mention adds
the same to both (`CompileState.append_after`), and so does a row of mentions
(`CompileState.append_drawAll`), up to the first one that is too deep.

**Compilation is independent of its context up to a shift** (`Compile.independent_of_context`).
-/

namespace EntityFilter

/-! ### Shifted aliases -/

/-- The walk with its alias increased by `k`. -/
def Closure.shift (k : Nat) (c : Closure) : Closure :=
  { c with mention := c.mention + k }

/-- The lookup with its alias increased by `k`. -/
def Lookup.shift (k : Nat) (l : Lookup) : Lookup :=
  { l with mention := l.mention + k }

/-- The test with its alias increased by `k`. -/
def Dispatch.shift (k : Nat) (d : Dispatch) : Dispatch :=
  { d with mention := d.mention + k }

/-- The selection with all aliases increased by `k`. -/
def RowSource.shift (k : Nat) : RowSource → RowSource
  | tagged mention tag         => tagged (mention + k) tag
  | valued tag lookup dispatch => valued tag (lookup.shift k) (dispatch.shift k)
  | linked mention tag inner   => linked (mention + k) tag (inner.shift k)

namespace Predicate

mutual

/-- The predicate with all aliases increased by `k`. -/
def shift (k : Nat) : Predicate → Predicate
  | or operands                    => or (shiftAll k operands)
  | and operands                   => and (shiftAll k operands)
  | paren inner                    => paren (inner.shift k)
  | not inner                      => not (inner.shift k)
  | entityIn source                => entityIn (source.shift k)
  | rowPasses mention tag dispatch => rowPasses (mention + k) tag (dispatch.shift k)

def shiftAll (k : Nat) : List Predicate → List Predicate
  | []        => []
  | p :: rest => p.shift k :: shiftAll k rest

end

end Predicate

/-- What `later` gathered from a fresh state, behind what `s` has. -/
def CompileState.append (s later : CompileState) : CompileState where
  aliases := s.aliases + later.aliases
  closures := s.closures ++ later.closures.map (Closure.shift s.aliases)
  lookups := s.lookups ++ later.lookups.map (Lookup.shift s.aliases)

@[simp]
theorem CompileState.append_fresh (s : CompileState) : s.append {} = s := by
  simp [append]

/-! ### Mentions -/

theorem RowSource.shift_behind (k : Nat) (inner : RowSource) (first : Nat) (tags : List String) :
    (inner.behind first tags).shift k = (inner.shift k).behind (first + k) tags := by
  induction tags generalizing inner first with
  | nil => rfl
  | cons tag tags ih => rw [behind, behind, ih, shift, Nat.add_right_comm]

theorem shift_closuresFrom (k : Nat) (options : CompileOptions) (condition : Option Condition)
    (first : Nat) (tags : List String) :
    (closuresFrom options condition first tags).map (Closure.shift k) =
      closuresFrom options condition (first + k) tags := by
  rw [closuresFrom, closuresFrom]
  split
  · rw [Nat.add_comm first k, ← List.map_snd_add_zipIdx_eq_zipIdx, List.map_map, List.map_map]
    rfl
  · rfl

namespace Reference

variable (k n : Nat) (options : CompileOptions) (r : Reference)

theorem shift_closures :
    (r.closures options n).map (Closure.shift k) = r.closures options (k + n) := by
  rw [closures, closures, shift_closuresFrom, Nat.add_right_comm, Nat.add_comm n k]

theorem shift_lookups : (r.lookups options n).map (Lookup.shift k) = r.lookups options (k + n) := by
  rw [lookups, lookups]
  split
  · simp only [List.map_cons, List.map_nil, Lookup.shift, Nat.add_right_comm n 1 k,
      Nat.add_comm n k]
  · rfl

theorem shift_last : (r.last options n).shift k = r.last options (k + n) := by
  have halias : n + 1 + k = k + n + 1 := by omega
  unfold last
  split
  · rw [RowSource.shift, halias]
  · simp only [RowSource.shift, Lookup.shift, Dispatch.shift, Condition.dispatch, halias]

theorem shift_numbered : (r.numbered options n).shift k = r.numbered options (k + n) := by
  have halias : n + 1 + k = k + n + 1 := by omega
  rw [numbered, numbered]
  split
  · have hnext : n + 2 + k = k + n + 2 := by omega
    rw [Predicate.shift, RowSource.shift_behind, shift_last, hnext]
  · split
    · rw [Predicate.shift, RowSource.shift, halias]
    · simp only [Predicate.shift, Dispatch.shift, Condition.dispatch, halias]

end Reference

namespace Expr

variable (options : CompileOptions) (k : Nat)

mutual

/-- **A predicate that is numbered further on is shifted.** -/
theorem shift_numbered : ∀ (e : Expr) (n : Nat),
    (e.numbered options n).shift k = e.numbered options (k + n)
  | .or operands, n | .and operands, n => by
      rw [numbered, numbered, Predicate.shift, shift_numberedAll operands]
  | .paren inner, n => by
      rw [numbered, numbered, Predicate.shift, shift_numbered inner]
  | .missing path, n => by
      rw [numbered, numbered, Predicate.shift, Reference.shift_numbered]
  | .has path, n | .compare path op value, n | .member path values, n => by
      rw [numbered, numbered, Reference.shift_numbered]

theorem shift_numberedAll : ∀ (es : List Expr) (n : Nat),
    Predicate.shiftAll k (numberedAll options n es) = numberedAll options (k + n) es
  | [], n => rfl
  | e :: rest, n => by
      rw [numberedAll, numberedAll, Predicate.shiftAll, shift_numbered e, shift_numberedAll rest,
        Nat.add_assoc]

end

end Expr

/-! ### States -/

namespace CompileState

variable (options : CompileOptions) (s : CompileState)

theorem append_after (later : CompileState) (r : Reference) :
    (s.append later).after options r = s.append (later.after options r) := by
  simp only [after, append, List.map_append, Reference.shift_closures, Reference.shift_lookups,
    List.append_assoc, Nat.add_assoc]

/-- **A row of mentions adds the same to every state.** -/
theorem append_drawAll (rs : List Reference) (later : CompileState) :
    (s.append later).drawAll options rs =
      ((later.drawAll options rs).1, s.append (later.drawAll options rs).2) := by
  induction rs generalizing later with
  | nil => rfl
  | cons r rs ih =>
      rw [drawAll, drawAll]
      by_cases hdeep : r.TooDeep options
      · rw [if_pos hdeep, if_pos hdeep]
      · rw [if_neg hdeep, if_neg hdeep, append_after, ih]

end CompileState

namespace Compile

/-- A run from any state is a run from a fresh one, shifted. -/
theorem run_expr_eq_append (options : CompileOptions) (e : Expr) (s : CompileState) :
    (expr options e).run.run s =
      (((expr options e).run.run {}).1.map (Predicate.shift s.aliases),
        s.append ((expr options e).run.run {}).2) := by
  have hdraw := s.append_drawAll options e.references {}
  rw [CompileState.append_fresh] at hdraw
  rw [run_expr, run_expr, hdraw]
  rcases CompileState.drawAll options {} e.references with ⟨error | ⟨⟩, later⟩
  · rfl
  · simp only [outcome, Except.map, Expr.shift_numbered, Nat.add_zero]

/-- **Compilation is independent of its context up to a shift.**  A filter is compiled in a context
exactly if it is compiled in a fresh one.  Its predicate is then the fresh one with every alias
increased by the number of aliases that were drawn before, and so are the closures and lookups that
it adds behind those of the context.  Where it is not compiled, the error is the same, and what was
added before the error is the same up to the shift. -/
theorem independent_of_context (options : CompileOptions) (e : Expr) (s : CompileState) :
    let fresh := (expr options e).run.run {}
    let run := (expr options e).run.run s
    ((∃ predicate, run.1 = .ok predicate) ↔ ∃ predicate, fresh.1 = .ok predicate) ∧
    (∀ predicate, fresh.1 = .ok predicate → run =
      (.ok (predicate.shift s.aliases),
        ⟨s.aliases + fresh.2.aliases,
          s.closures ++ fresh.2.closures.map (Closure.shift s.aliases),
          s.lookups ++ fresh.2.lookups.map (Lookup.shift s.aliases)⟩)) ∧
    ∀ error, fresh.1 = .error error → run = (.error error, s.append fresh.2) := by
  intro fresh run
  have hrun : run = (fresh.1.map (Predicate.shift s.aliases), s.append fresh.2) :=
    run_expr_eq_append options e s
  refine ⟨?_, fun predicate hfresh => ?_, fun error hfresh => ?_⟩
  · rw [hrun]
    cases hfresh : fresh.1 with
    | error error => simp [Except.map]
    | ok predicate => simp [Except.map]
  · rw [hrun, hfresh]
    rfl
  · rw [hrun, hfresh]
    rfl

/-- `a == 1 and b->c == 2` where seven aliases were drawn and a walk and a lookup gathered: `a` is
mentioned as 8, `c` as 9 and `b` as 10. -/
theorem independent_of_context_behind_seven :
    (expr {} (.and [.compare ⟨["a"]⟩ .eq (.number "1"),
      .compare ⟨["b", "c"]⟩ .eq (.number "2")])).run.run
        ⟨7, [⟨7, "d"⟩], [⟨7, "d", .hierarchy⟩]⟩ =
      (.ok (.and [.rowPasses 8 "a" ((Condition.compare .eq (.number "1")).dispatch 8),
        .entityIn (.linked 10 "b" (.valued "c" ⟨9, "c", .hierarchy⟩
          ((Condition.compare .eq (.number "2")).dispatch 9)))]),
        ⟨10, [⟨7, "d"⟩, ⟨8, "a"⟩, ⟨9, "c"⟩, ⟨10, "b"⟩],
          [⟨7, "d", .hierarchy⟩, ⟨8, "a", .hierarchy⟩]⟩) :=
  (independent_of_context {} _ ⟨7, [⟨7, "d"⟩], [⟨7, "d", .hierarchy⟩]⟩).2.1
    (.and [.rowPasses 1 "a" ((Condition.compare .eq (.number "1")).dispatch 1),
      .entityIn (.linked 3 "b" (.valued "c" ⟨2, "c", .hierarchy⟩
        ((Condition.compare .eq (.number "2")).dispatch 2)))]) rfl

end Compile

end EntityFilter
