import EntityFilter.Proofs.Calendar.Fields
import EntityFilter.Proofs.Filter.Shape
import EntityFilter.Proofs.Filter.Spelling

/-!
# The filters that reading gives

Not every tree is the filter of a text: operands of the same kind are joined in one place, only
parentheses put a condition under another, and names and values have to be ones that can be
written.  `Expr.Proper` says which trees are left, and `Expr.nesting` how deep their parentheses
nest.

**What is read is proper** (`proper_of_parse`).  The filter is that of a derivation, and the proof
is by induction on derivations; the tokens at their leaves have texts of their kinds.
-/

namespace EntityFilter

/-! ### Proper trees -/

/-- The path consists of one or more names. -/
def Path.Proper (p : Path) : Prop :=
  p.segments ≠ [] ∧ ∀ name ∈ p.segments, IsName name

/-- The value can be written. -/
def Literal.Proper : Literal → Prop
  | .number text           => IsNumeral text.toList
  | .ref id                => 0 ≤ id ∧ id ≤ Text.int64Max
  | .uri text              => '\x60' ∉ text.toList
  | .date d                => 0 ≤ d.year ∧ d.year ≤ 9999
  | .dateTime text         => IsDateTimeLexeme text.toList
  | .str _ | .bool _ | .time _ => True

/-- The values can be written, and are the elements of a list: one or more, which are all numbers
and references or all texts. -/
def Literal.ProperList (values : List Literal) : Prop :=
  values ≠ [] ∧ (∀ v ∈ values, v.Proper) ∧
    ((∀ v ∈ values, v.isNumeric) ∨ ∀ v ∈ values, v.isTextual)

namespace Expr

/-- The filter joins alternatives. -/
def isOr : Expr → Bool
  | or _ => true
  | _    => false

/-- The filter joins conditions that have to hold together. -/
def isAnd : Expr → Bool
  | and _ => true
  | _     => false

mutual

/-- Two or more operands are joined, none of which could be joined with the others; paths and values
can be written. -/
def Proper : Expr → Prop
  | or operands          =>
    2 ≤ operands.length ∧ (∀ e ∈ operands, !e.isOr) ∧ AllProper operands
  | and operands         =>
    2 ≤ operands.length ∧ (∀ e ∈ operands, !e.isOr && !e.isAnd) ∧ AllProper operands
  | paren inner          => inner.Proper
  | has path             => path.Proper
  | missing path         => path.Proper
  | compare path _ value => path.Proper ∧ value.Proper
  | member path values   => path.Proper ∧ Literal.ProperList values

/-- All of several filters are proper. -/
def AllProper : List Expr → Prop
  | []        => True
  | e :: rest => e.Proper ∧ AllProper rest

end

mutual

/-- How deep parentheses nest. -/
def nesting : Expr → Nat
  | or operands | and operands => nestingOfAll operands
  | paren inner                => inner.nesting + 1
  | _                          => 0

/-- How deep parentheses nest in several filters. -/
def nestingOfAll : List Expr → Nat
  | []        => 0
  | e :: rest => max e.nesting (nestingOfAll rest)

end

end Expr

namespace Derivation

open EntityFilter.Expr (AllProper nestingOfAll)

/-! ### Leaves -/

/-- The token has a text of its kind. -/
def Spelt (t : Token) : Prop :=
  t.kind.Fits t.value ∧ t.kind.Spelt t.value

theorem proper_literalOf {t : Token} (h : Spelt t) : (literalOf t).Proper := by
  obtain ⟨kind, value, position⟩ := t
  obtain ⟨hfits, hspelt⟩ := h
  rw [literalOf]
  cases kind with
  | number | uri | dateTime => exact hspelt
  | ref =>
      obtain ⟨n, hn⟩ := Option.isSome_iff_exists.mp hfits
      simpa [Literal.ofToken, hn, Literal.Proper] using Text.nonneg_of_int64? hspelt hn
  | date =>
      obtain ⟨d, hd⟩ := Option.isSome_iff_exists.mp hfits
      -- years beyond these are written with a sign, which no date of a filter starts with
      obtain ⟨c, rest, htext, hc⟩ := StartsDate.exists_isDigit hspelt
      have hyear := Date.year_of_read? hc (htext ▸ hd)
      simpa [Literal.ofToken, hd, Literal.Proper] using hyear
  | time =>
      obtain ⟨d, hd⟩ := Option.isSome_iff_exists.mp hfits
      simp [Literal.ofToken, hd, Literal.Proper]
  | _ => trivial

theorem proper_path {names : Names} (h : ∀ t ∈ names.yield, Spelt t) : names.path.Proper := by
  refine ⟨segments_path_ne_nil names, ?_⟩
  simp only [Names.path, List.forall_mem_map]
  intro name hname
  have hspelt := (h name.1 (Chain.mem_yield hname (List.mem_singleton_self _))).2
  rwa [name.2] at hspelt

theorem proper_values {list : Elements} (h : ∀ t ∈ list.yield, Spelt t)
    (hhom : list.Homogeneous) : Literal.ProperList list.values := by
  obtain ⟨hne, -, hkinds⟩ := wellFormed_values (fun t ht => (h t ht).1) hhom
  refine ⟨hne, ?_, hkinds⟩
  rw [Elements.values, List.forall_mem_map]
  intro e he
  refine proper_literalOf (h e.1 (List.mem_cons_of_mem _ (List.mem_append_left _ ?_)))
  exact Chain.mem_yield he (List.mem_singleton_self _)

/-! ### Operands -/

theorem not_joined_term (t : Term) : !t.expr.isOr && !t.expr.isAnd := by
  cases t <;> rw [Term.expr] <;> rfl

theorem not_joined_all (a : All) : ∀ e ∈ exprsAll a, !e.isOr && !e.isAnd := by
  rw [exprsAll_eq, List.forall_mem_map]
  exact fun t _ => not_joined_term t

theorem proper_collapse_and {es : List Expr} (hne : es ≠ [])
    (hterms : ∀ e ∈ es, !e.isOr && !e.isAnd) (h : AllProper es) :
    (Grammar.collapse .and es).Proper ∧ !(Grammar.collapse .and es).isOr := by
  match es with
  | [] => exact absurd rfl hne
  | [e] =>
      have hterm := hterms e List.mem_cons_self
      rw [Bool.and_eq_true] at hterm
      exact ⟨h.1, hterm.1⟩
  | _ :: _ :: _ => exact ⟨⟨by simp, hterms, h⟩, rfl⟩

theorem proper_collapse_or {es : List Expr} (hne : es ≠ []) (halls : ∀ e ∈ es, !e.isOr)
    (h : AllProper es) : (Grammar.collapse .or es).Proper := by
  match es with
  | [] => exact absurd rfl hne
  | [e] => exact h.1
  | _ :: _ :: _ => exact ⟨by simp, halls, h⟩

theorem exprsAll_ne_nil (a : All) : exprsAll a ≠ [] := by
  cases a <;> simp [exprsAll]

theorem exprsAny_ne_nil (c : Any) : exprsAny c ≠ [] := by
  cases c <;> simp [exprsAny]

/-! ### Trees -/

mutual

theorem proper_term : ∀ t : Term, (∀ u ∈ t.yield, Spelt u) →
    (∀ list ∈ t.lists, list.Homogeneous) → t.expr.Proper
  | .group _ inner _, hspelt, hhom => by
      rw [Term.yield] at hspelt
      rw [Term.lists] at hhom
      obtain ⟨halls, hinner⟩ := proper_any inner
        (fun u hu => hspelt u (List.mem_cons_of_mem _ (List.mem_append_left _ hu))) hhom
      rw [Term.expr, Expr.Proper]
      exact proper_collapse_or (exprsAny_ne_nil inner) halls hinner
  | .missing _ path, hspelt, _ => by
      rw [Term.yield] at hspelt
      rw [Term.expr, Expr.Proper]
      exact proper_path fun u hu => hspelt u (List.mem_cons_of_mem _ hu)
  | .compare path operator value, hspelt, _ => by
      rw [Term.yield] at hspelt
      rw [Term.expr, Expr.Proper]
      exact ⟨proper_path fun u hu => hspelt u (List.mem_append_left _ hu),
        proper_literalOf (hspelt value.1 (by simp))⟩
  | .member path word list, hspelt, hhom => by
      rw [Term.yield] at hspelt
      rw [Term.expr, Expr.Proper]
      exact ⟨proper_path fun u hu => hspelt u (List.mem_append_left _ hu),
        proper_values
          (fun u hu => hspelt u (List.mem_append_right _ (List.mem_cons_of_mem _ hu)))
          (hhom list (by simp [Term.lists]))⟩
  | .has path, hspelt, _ => by
      rw [Term.yield] at hspelt
      rw [Term.expr, Expr.Proper]
      exact proper_path hspelt

theorem proper_all : ∀ a : All, (∀ u ∈ yieldAll a, Spelt u) →
    (∀ list ∈ listsAll a, list.Homogeneous) → AllProper (exprsAll a)
  | .one t, hspelt, hhom => by
      rw [yieldAll] at hspelt
      rw [listsAll] at hhom
      exact ⟨proper_term t hspelt hhom, trivial⟩
  | .more t mark rest, hspelt, hhom => by
      rw [yieldAll] at hspelt
      rw [listsAll] at hhom
      exact ⟨proper_term t (fun u hu => hspelt u (List.mem_append_left _ hu))
          (fun l hl => hhom l (List.mem_append_left _ hl)),
        proper_all rest
          (fun u hu => hspelt u (List.mem_append_right _ (List.mem_cons_of_mem _ hu)))
          (fun l hl => hhom l (List.mem_append_right _ hl))⟩

theorem proper_any : ∀ c : Any, (∀ u ∈ yieldAny c, Spelt u) →
    (∀ list ∈ listsAny c, list.Homogeneous) →
    (∀ e ∈ exprsAny c, !e.isOr) ∧ AllProper (exprsAny c)
  | .one a, hspelt, hhom => by
      rw [yieldAny] at hspelt
      rw [listsAny] at hhom
      obtain ⟨hproper, hor⟩ := proper_collapse_and (exprsAll_ne_nil a) (not_joined_all a)
        (proper_all a hspelt hhom)
      exact ⟨by simpa [exprsAny] using hor, hproper, trivial⟩
  | .more a mark rest, hspelt, hhom => by
      rw [yieldAny] at hspelt
      rw [listsAny] at hhom
      obtain ⟨hproper, hor⟩ := proper_collapse_and (exprsAll_ne_nil a) (not_joined_all a)
        (proper_all a (fun u hu => hspelt u (List.mem_append_left _ hu))
          (fun l hl => hhom l (List.mem_append_left _ hl)))
      obtain ⟨hors, hrest⟩ := proper_any rest
        (fun u hu => hspelt u (List.mem_append_right _ (List.mem_cons_of_mem _ hu)))
        (fun l hl => hhom l (List.mem_append_right _ hl))
      rw [exprsAny]
      exact ⟨List.forall_mem_cons.mpr ⟨hor, hors⟩, hproper, hrest⟩

end

/-! ### Nesting -/

theorem nesting_collapse {join : List Expr → Expr}
    (hjoin : ∀ es, (join es).nesting = nestingOfAll es) (es : List Expr) :
    (Grammar.collapse join es).nesting = nestingOfAll es := by
  match es with
  | [e] => rw [Grammar.collapse, nestingOfAll, nestingOfAll, Nat.max_zero]
  | [] | _ :: _ :: _ => exact hjoin _

theorem nesting_collapse_and (es : List Expr) :
    (Grammar.collapse .and es).nesting = nestingOfAll es :=
  nesting_collapse (fun es => by rw [Expr.nesting]) es

theorem nesting_collapse_or (es : List Expr) :
    (Grammar.collapse .or es).nesting = nestingOfAll es :=
  nesting_collapse (fun es => by rw [Expr.nesting]) es

mutual

theorem nesting_term : ∀ t : Term, t.expr.nesting = t.nesting
  | .group _ inner _ => by
      rw [Term.expr, Expr.nesting, nesting_collapse_or, Term.nesting, nesting_any inner]
  | .missing _ _ | .compare _ _ _ | .member _ _ _ | .has _ => by
      rw [Term.expr, Expr.nesting, Term.nesting] <;> simp

theorem nesting_all : ∀ a : All, nestingOfAll (exprsAll a) = nestingAll a
  | .one t => by
      rw [exprsAll, nestingOfAll, nestingOfAll, Nat.max_zero, nestingAll, nesting_term t]
  | .more t mark rest => by
      rw [exprsAll, nestingOfAll, nestingAll, nesting_term t, nesting_all rest]

theorem nesting_any : ∀ c : Any, nestingOfAll (exprsAny c) = nestingAny c
  | .one a => by
      rw [exprsAny, nestingOfAll, nestingOfAll, Nat.max_zero, nestingAny, nesting_collapse_and,
        nesting_all a]
  | .more a mark rest => by
      rw [exprsAny, nestingOfAll, nestingAny, nesting_collapse_and, nesting_all a,
        nesting_any rest]

end

/-- The parentheses of the filter are those of the derivation. -/
theorem nesting_expr (d : Derivation) : d.expr.nesting = d.nesting := by
  rw [expr, exprAny, nesting_collapse_or, nesting, nesting_any]

end Derivation

/-- **A filter that is read from a text is proper**, and its parentheses do not nest too deep. -/
theorem proper_of_parse {text : String} {e : Expr} (h : parse text = .ok e) :
    e.Proper ∧ e.nesting < maxNesting := by
  obtain ⟨s, d, hs, hyield, hnesting, hhom, rfl⟩ := derivation_of_parse h
  have hspelt : ∀ t ∈ Derivation.yieldAny d.condition, Derivation.Spelt t := fun t ht => by
    obtain ⟨htokens, -⟩ := List.append_inj' hyield rfl
    have hmem : t ∈ s.tokens := htokens ▸ ht
    exact ⟨Cursor.fits_of_mem_tokens hs t hmem,
      Cursor.forall_mem_tokens Reading.spelt_of hs t hmem⟩
  obtain ⟨hors, hproper⟩ := Derivation.proper_any d.condition hspelt hhom
  refine ⟨?_, by rwa [Derivation.nesting_expr]⟩
  rw [Derivation.expr, Derivation.exprAny]
  exact Derivation.proper_collapse_or (Derivation.exprsAny_ne_nil _) hors hproper

end EntityFilter
