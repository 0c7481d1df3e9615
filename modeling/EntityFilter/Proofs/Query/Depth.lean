import Mathlib
import EntityFilter.Proofs.Query.Numbering

/-!
# Paths that are too deep

Compilation goes through the mentions of a filter from left to right, whatever operators stand
between them.  So it comes to its end unless a mention is too deep, and what a mention that is too
deep leaves behind is told by the mentions in front of it.

**A filter fails at its leftmost path that is too deep** (`Compile.stops_at_leftmost_deep_path`), in
the state that these mentions leave when they are compiled on their own.
-/

namespace EntityFilter

theorem Path.isChain_iff (p : Path) : p.isChain ↔ 2 ≤ p.segments.length := by
  simp [isChain]
  omega

/-- Each name of a path draws an alias, and a path without names draws one. -/
theorem Path.length_mentions (p : Path) : p.mentions.length = max 1 p.segments.length := by
  simp only [mentions, List.length_cons, List.length_reverse, List.length_dropLast]
  omega

theorem Reference.tooDeep_iff {options : CompileOptions} {r : Reference} :
    r.TooDeep options ↔
      2 ≤ r.path.segments.length ∧ options.maxPathDepth < r.path.segments.length := by
  rw [TooDeep, Path.isChain_iff, Path.depth]

theorem widthOf_eq_sum (rs : List Reference) :
    widthOf rs = (rs.map fun r => max 1 r.path.segments.length).sum := by
  induction rs with
  | nil => rfl
  | cons r rs ih => rw [widthOf_cons, Path.length_mentions, ih, List.map_cons, List.sum_cons]

namespace CompileState

variable {options : CompileOptions} {s later : CompileState}

theorem exists_drawAll_eq_ok {rs : List Reference} (h : ∀ r ∈ rs, ¬ r.TooDeep options) :
    ∃ later, s.drawAll options rs = (.ok (), later) :=
  ⟨_, drawAll_eq_ok_iff.mpr ⟨h, rfl⟩⟩

/-- Mentions are gone through up to the first one that is too deep, which changes nothing. -/
theorem drawAll_of_tooDeep {earlier rest : List Reference} {r : Reference}
    (hearlier : s.drawAll options earlier = (.ok (), later)) (hdeep : r.TooDeep options) :
    s.drawAll options (earlier ++ r :: rest) =
      (.error (.pathTooDeep r.path.depth options.maxPathDepth), later) := by
  rw [drawAll_append, hearlier]
  simp only [drawAll, if_pos hdeep]

end CompileState

namespace Compile

variable {α : Type} {options : CompileOptions}

theorem outcome_eq_error_iff {answer : α} {drawn : Except QueryError Unit × CompileState}
    {error : QueryError} {later : CompileState} :
    outcome answer drawn = (.error error, later) ↔ drawn = (.error error, later) := by
  obtain ⟨_ | _, _⟩ := drawn <;> simp [outcome]

theorem outcome_eq_ok_iff {answer a : α} {drawn : Except QueryError Unit × CompileState}
    {later : CompileState} :
    outcome answer drawn = (.ok a, later) ↔ answer = a ∧ drawn = (.ok (), later) := by
  obtain ⟨_ | _, _⟩ := drawn <;> simp [outcome]

/-- Mentions that are compiled one after the other draw what a filter with these mentions draws. -/
theorem run_mapM_reference (options : CompileOptions) (rs : List Reference) (s : CompileState) :
    (rs.mapM (reference options)).run.run s =
      outcome (gather (fun k r => [r.numbered options k]) s.aliases rs)
        (s.drawAll options rs) := by
  induction rs generalizing s with
  | nil => rfl
  | cons r rs ih =>
      rw [List.mapM_cons, run_bind, run_reference, CompileState.drawAll]
      by_cases hdeep : r.TooDeep options
      · simp only [if_pos hdeep, outcome]
      · simp only [if_neg hdeep, run_bind, ih, run_pure]
        have haliases : (s.after options r).aliases = s.aliases + r.path.mentions.length := rfl
        rw [haliases]
        rcases (s.after options r).drawAll options rs with ⟨_ | _, last⟩ <;> rfl

/-- A filter is compiled from any state unless one of its paths has two names at least and more than
the options allow.  The error then tells the length of the leftmost such path, and the state is the
one that the mentions in front of it leave when they are compiled one after the other, as that
mention itself changes nothing.  A filter that is compiled leaves the state that its mentions leave,
with an alias drawn for each name, and one for a path without names. -/
theorem stops_at_leftmost_deep_path (options : CompileOptions) (e : Expr) (s : CompileState) :
    ((∃ error later, (expr options e).run.run s = (.error error, later)) ↔
      ∃ r ∈ e.references, 2 ≤ r.path.segments.length ∧
        options.maxPathDepth < r.path.segments.length) ∧
    (∀ earlier r rest, e.references = earlier ++ r :: rest →
      (∀ t ∈ earlier, ¬ (2 ≤ t.path.segments.length ∧
        options.maxPathDepth < t.path.segments.length)) →
      2 ≤ r.path.segments.length → options.maxPathDepth < r.path.segments.length →
      ∃ found left, (earlier.mapM (reference options)).run.run s = (.ok found, left) ∧
        (reference options r).run.run left =
          (.error (.pathTooDeep r.path.segments.length options.maxPathDepth), left) ∧
        (expr options e).run.run s =
          (.error (.pathTooDeep r.path.segments.length options.maxPathDepth), left)) ∧
    ∀ predicate left, (expr options e).run.run s = (.ok predicate, left) →
      (∃ found, (e.references.mapM (reference options)).run.run s = (.ok found, left)) ∧
      left.aliases = s.aliases + (e.references.map fun r => max 1 r.path.segments.length).sum := by
  simp only [← Reference.tooDeep_iff]
  refine ⟨⟨?_, ?_⟩, ?_, ?_⟩
  · rintro ⟨error, later, hrun⟩
    rw [run_expr, outcome_eq_error_iff] at hrun
    obtain ⟨r, hr, hdeep, -⟩ := CompileState.exists_tooDeep_of_drawAll hrun
    exact ⟨r, hr, hdeep⟩
  · rintro ⟨r, hr, hdeep⟩
    -- what is not an error would have drawn `r` as well
    rcases hdraw : s.drawAll options e.references with ⟨error | ⟨⟩, later⟩
    · exact ⟨error, later, by rw [run_expr, hdraw]; rfl⟩
    · exact absurd hdeep ((CompileState.drawAll_eq_ok_iff.mp hdraw).1 r hr)
  · intro earlier r rest hreferences hearlier hlength hlimit
    have hdeep : r.TooDeep options := Reference.tooDeep_iff.mpr ⟨hlength, hlimit⟩
    obtain ⟨left, hdraw⟩ := CompileState.exists_drawAll_eq_ok (s := s) hearlier
    refine ⟨_, left, by rw [run_mapM_reference, hdraw]; rfl, ?_, ?_⟩
    · rw [run_reference, if_pos hdeep]
      rfl
    · rw [run_expr, hreferences, CompileState.drawAll_of_tooDeep hdraw hdeep]
      rfl
  · intro predicate left hrun
    obtain ⟨-, hdraw⟩ := outcome_eq_ok_iff.mp ((run_expr options e s).symm.trans hrun)
    refine ⟨⟨_, by rw [run_mapM_reference, hdraw]; rfl⟩, ?_⟩
    rw [(CompileState.drawAll_eq_ok_iff.mp hdraw).2, widthOf_eq_sum]

/-- In `a == 1 and b->c->d`, with two names allowed and seven aliases drawn before, the path fails
and `a` has drawn the eighth alias. -/
theorem stops_behind_drawn_alias :
    ∃ found left,
      ([⟨⟨["a"]⟩, some (.compare .eq (.number "1"))⟩].mapM
        (reference ⟨.hierarchy, 2⟩)).run.run ⟨7, [], []⟩ = (.ok found, left) ∧
      left = ⟨8, [⟨8, "a"⟩], [⟨8, "a", .hierarchy⟩]⟩ ∧
      (expr ⟨.hierarchy, 2⟩ (.and [.compare ⟨["a"]⟩ .eq (.number "1"),
        .has ⟨["b", "c", "d"]⟩])).run.run ⟨7, [], []⟩ = (.error (.pathTooDeep 3 2), left) := by
  obtain ⟨found, left, hearlier, -, hrun⟩ :=
    (stops_at_leftmost_deep_path ⟨.hierarchy, 2⟩ (.and [.compare ⟨["a"]⟩ .eq (.number "1"),
      .has ⟨["b", "c", "d"]⟩]) ⟨7, [], []⟩).2.1 [⟨⟨["a"]⟩, some (.compare .eq (.number "1"))⟩]
      ⟨⟨["b", "c", "d"]⟩, none⟩ [] rfl (by decide) (by decide) (by decide)
  exact ⟨found, left, hearlier, (Prod.mk.inj hearlier).2.symm, hrun⟩

end Compile

end EntityFilter
