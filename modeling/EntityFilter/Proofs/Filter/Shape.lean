import EntityFilter.Proofs.Filter.Parsing

/-!
# The shape of filters that are read from a text

What the grammar and the lexer promise of every mention of a tag in a filter
(`Reference.WellFormed`): the path has a name, numbers consist of the characters of numerals, and a
list has elements, which are all numbers and references or all texts.

**Every mention is well formed** (`wellFormed_of_parse`).  The filter is that of a derivation, so the
proof is an induction on derivations; the tokens at their leaves fit their kinds.
-/

namespace EntityFilter

/-- The text of a number consists of the characters of numerals. -/
def Literal.WellFormed : Literal → Prop
  | .number text => text ≠ "" ∧ ∀ c ∈ text.toList, isNumeralChar c
  | _            => True

/-- The values are well formed; a list is not empty, and all numbers and references or all texts. -/
def Condition.WellFormed : Condition → Prop
  | .compare _ value => value.WellFormed
  | .member values   => values ≠ [] ∧ (∀ v ∈ values, v.WellFormed) ∧
      ((∀ v ∈ values, v.isNumeric) ∨ ∀ v ∈ values, v.isTextual)

/-- The path has a name, and the condition is well formed. -/
def Reference.WellFormed (r : Reference) : Prop :=
  r.path.segments ≠ [] ∧ ∀ c ∈ r.condition, c.WellFormed

/-- All mentions of tags in the filter are well formed. -/
def Expr.WellFormed (e : Expr) : Prop :=
  ∀ r ∈ e.references, r.WellFormed

namespace Derivation

/-- The tokens fit their kinds. -/
def AllFit (ts : List Token) : Prop :=
  ∀ t ∈ ts, t.kind.Fits t.value

theorem AllFit.mono {ts us : List Token} (h : AllFit us) (hsub : ts ⊆ us) : AllFit ts :=
  fun t ht => h t (hsub ht)

/-! ### Values -/

theorem wellFormed_literalOf {t : Token} (h : t.kind.Fits t.value) : (literalOf t).WellFormed := by
  obtain ⟨kind, value, position⟩ := t
  rw [literalOf]
  cases kind with
  | number => exact h
  | ref =>
      obtain ⟨n, hn⟩ := Option.isSome_iff_exists.mp h
      simp [Literal.ofToken, hn, Literal.WellFormed]
  | date =>
      obtain ⟨d, hd⟩ := Option.isSome_iff_exists.mp h
      simp [Literal.ofToken, hd, Literal.WellFormed]
  | time =>
      obtain ⟨d, hd⟩ := Option.isSome_iff_exists.mp h
      simp [Literal.ofToken, hd, Literal.WellFormed]
  | _ => trivial

theorem isTextual_literalOf {t : Token} (h : t.kind ∈ [TokenKind.str, .inStr, .uri]) :
    (literalOf t).isTextual := by
  obtain ⟨kind, value, position⟩ := t
  simp only [List.mem_cons, List.not_mem_nil, or_false] at h
  rcases h with rfl | rfl | rfl <;> rfl

theorem wellFormed_values {list : Elements} (hfit : AllFit list.yield) (hhom : list.Homogeneous) :
    (Condition.member list.values).WellFormed := by
  have hmem : ∀ e ∈ list.elements.items, e.1.kind.Fits e.1.value := fun e he => by
    refine hfit e.1 (List.mem_cons_of_mem _ (List.mem_append_left _ ?_))
    exact Chain.mem_yield he (List.mem_singleton_self _)
  refine ⟨?_, ?_, ?_⟩
  · obtain ⟨first, more, hlink⟩ := list.elements.exists_link
    simp [Elements.values, hlink]
  · rw [Elements.values, List.forall_mem_map]
    exact fun e he => wellFormed_literalOf (hmem e he)
  · simp only [Elements.values, List.forall_mem_map]
    refine hhom.imp (fun h e he => ?_) (fun h e he => isTextual_literalOf (h e he))
    rw [Grammar.isNumeric_literalOf (Grammar.denotes_of_fits (hmem e he) (.inr e.2))]
    exact decide_eq_true (h e he)

theorem segments_path_ne_nil (names : Names) : names.path.segments ≠ [] := by
  obtain ⟨first, more, rfl⟩ := Chain.exists_link names
  simp [Names.path]

/-! ### Trees -/

theorem references_collapse_and (es : List Expr) :
    (Grammar.collapse .and es).references = Expr.referencesOfAll es := by
  match es with
  | [e] => simp [Grammar.collapse, Expr.referencesOfAll]
  | [] | _ :: _ :: _ => simp [Grammar.collapse, Expr.references]

theorem references_collapse_or (es : List Expr) :
    (Grammar.collapse .or es).references = Expr.referencesOfAll es := by
  match es with
  | [e] => simp [Grammar.collapse, Expr.referencesOfAll]
  | [] | _ :: _ :: _ => simp [Grammar.collapse, Expr.references]

mutual

theorem wellFormed_term : ∀ t : Term, AllFit t.yield → (∀ list ∈ t.lists, list.Homogeneous) →
    t.expr.WellFormed
  | .group _ inner _, hfit, hhom => by
      rw [Term.yield] at hfit
      rw [Term.lists] at hhom
      rw [Term.expr, Expr.WellFormed, Expr.references, references_collapse_or]
      refine wellFormed_any inner (hfit.mono fun t ht => ?_) hhom
      exact List.mem_cons_of_mem _ (List.mem_append_left _ ht)
  | .missing _ path, _, _ | .has path, _, _ => by
      simp [Term.expr, Expr.WellFormed, Expr.references, Reference.WellFormed,
        segments_path_ne_nil]
  | .compare path operator value, hfit, _ => by
      rw [Term.yield] at hfit
      have hvalue : (Condition.compare operator.op (literalOf value.1)).WellFormed :=
        wellFormed_literalOf (hfit value.1 (by simp))
      simpa [Term.expr, Expr.WellFormed, Expr.references, Reference.WellFormed,
        segments_path_ne_nil] using hvalue
  | .member path word list, hfit, hhom => by
      rw [Term.yield] at hfit
      have hlist : AllFit list.yield :=
        hfit.mono fun t ht => List.mem_append_right _ (List.mem_cons_of_mem _ ht)
      have hvalues := wellFormed_values hlist (hhom list (by simp [Term.lists]))
      simpa [Term.expr, Expr.WellFormed, Expr.references, Reference.WellFormed,
        segments_path_ne_nil] using hvalues

theorem wellFormed_all : ∀ a : All, AllFit (yieldAll a) →
    (∀ list ∈ listsAll a, list.Homogeneous) →
    ∀ r ∈ Expr.referencesOfAll (exprsAll a), r.WellFormed
  | .one t, hfit, hhom => by
      rw [yieldAll] at hfit
      rw [listsAll] at hhom
      rw [exprsAll, Expr.referencesOfAll, Expr.referencesOfAll, List.append_nil]
      exact wellFormed_term t hfit hhom
  | .more t mark rest, hfit, hhom => by
      rw [yieldAll] at hfit
      rw [listsAll] at hhom
      have hterm := wellFormed_term t (hfit.mono (List.subset_append_left _ _))
        fun l hl => hhom l (List.mem_append_left _ hl)
      have hrest := wellFormed_all rest
        (hfit.mono fun t ht => List.mem_append_right _ (List.mem_cons_of_mem _ ht))
        fun l hl => hhom l (List.mem_append_right _ hl)
      rw [exprsAll, Expr.referencesOfAll]
      intro r hr
      rcases List.mem_append.mp hr with hr | hr
      · exact hterm r hr
      · exact hrest r hr

theorem wellFormed_any : ∀ c : Any, AllFit (yieldAny c) →
    (∀ list ∈ listsAny c, list.Homogeneous) →
    ∀ r ∈ Expr.referencesOfAll (exprsAny c), r.WellFormed
  | .one a, hfit, hhom => by
      rw [yieldAny] at hfit
      rw [listsAny] at hhom
      simpa [exprsAny, Expr.referencesOfAll, references_collapse_and] using
        wellFormed_all a hfit hhom
  | .more a mark rest, hfit, hhom => by
      rw [yieldAny] at hfit
      rw [listsAny] at hhom
      have hall := wellFormed_all a (hfit.mono (List.subset_append_left _ _))
        fun l hl => hhom l (List.mem_append_left _ hl)
      have hrest := wellFormed_any rest
        (hfit.mono fun t ht => List.mem_append_right _ (List.mem_cons_of_mem _ ht))
        fun l hl => hhom l (List.mem_append_right _ hl)
      rw [exprsAny, Expr.referencesOfAll, references_collapse_and]
      intro r hr
      rcases List.mem_append.mp hr with hr | hr
      · exact hall r hr
      · exact hrest r hr

end

end Derivation

/-- The filter of a text is that of a derivation of its tokens. -/
theorem derivation_of_parse {text : String} {e : Expr} (h : parse text = .ok e) :
    ∃ (s : TokenStream) (d : Derivation), tokenize text = .ok s ∧ d.yield = s.toList ∧
      d.nesting < maxNesting ∧ d.Homogeneous ∧ d.expr = e := by
  rw [parse, Parser.start] at h
  cases hs : tokenize text with
  | error fault => rw [hs] at h; cases h
  | ok s =>
      rw [hs] at h
      obtain ⟨heof, hdenote⟩ := tokens_of_tokenize hs
      obtain ⟨d, hd⟩ := (Parser.next_eq_ok_iff heof hdenote).mp h
      exact ⟨s, d, rfl, hd⟩

/-- **Every mention of a tag in a filter that is read from a text is well formed.** -/
theorem wellFormed_of_parse {text : String} {e : Expr} (h : parse text = .ok e) :
    e.WellFormed := by
  obtain ⟨s, d, hs, hyield, -, hhom, rfl⟩ := derivation_of_parse h
  have hfit : Derivation.AllFit (Derivation.yieldAny d.condition) := fun t ht => by
    obtain ⟨htokens, -⟩ := List.append_inj' hyield rfl
    exact Cursor.fits_of_mem_tokens hs t (htokens ▸ ht)
  rw [Derivation.expr, Expr.WellFormed, Derivation.exprAny, Derivation.references_collapse_or]
  exact Derivation.wellFormed_any d.condition hfit hhom

end EntityFilter
