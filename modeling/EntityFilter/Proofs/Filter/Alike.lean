import EntityFilter.Proofs.Filter.Lookahead

/-!
# Token streams that are parsed alike

Two tokens are alike if they are of the same kind and, keywords apart, have the same value; where
they stand does not matter.  Two rules agree (`Rule.Agrees`) if on alike streams both fail, or both
denote related values and leave alike streams.  Rules that agree can be put in a row
(`Rule.Agrees.bind`) and repeated (`Rule.Agrees.manyAfter`).

**The grammar agrees with itself** (`Grammar.agrees_expression`), so that alike streams are parsed
to the same expression or not at all (`parse_eq_ok_iff_of_alike`).
-/

namespace EntityFilter

/-- The kind is one of the keywords. -/
def TokenKind.isKeyword : TokenKind → Bool
  | .and | .or | .not | .member => true
  | _                           => false

/-- The tokens are of the same kind and, keywords apart, have the same value. -/
structure Token.Alike (t t' : Token) : Prop where
  kind : t'.kind = t.kind
  value : t.kind.isKeyword = false → t'.value = t.value

/-- The tokens are alike, one by one. -/
def TokenStream.Alike (s s' : TokenStream) : Prop :=
  List.Forall₂ Token.Alike s.tokens s'.tokens

namespace TokenStream.Alike

variable {s s' : TokenStream}

theorem current (h : s.Alike s') : s.current.Alike s'.current := by
  obtain ⟨tokens, endsAt⟩ := s
  obtain ⟨tokens', endsAt'⟩ := s'
  cases h with
  | nil => exact ⟨rfl, fun _ => rfl⟩
  | cons ht _ => exact ht

theorem advance (h : s.Alike s') : s.advance.Alike s'.advance := by
  obtain ⟨tokens, endsAt⟩ := s
  obtain ⟨tokens', endsAt'⟩ := s'
  cases h with
  | nil => exact .nil
  | cons _ hts => exact hts

end TokenStream.Alike

namespace Rule

variable {α β γ δ : Type}

/-- Both results are errors, or both are related values with alike streams behind them. -/
inductive Matches (R : α → β → Prop) :
    Except SyntaxError α × TokenStream → Except SyntaxError β × TokenStream → Prop
  | ok {a : α} {b : β} {later later' : TokenStream} (hab : R a b) (hlater : later.Alike later') :
      Matches R (.ok a, later) (.ok b, later')
  | error {e e' : SyntaxError} {later later' : TokenStream} :
      Matches R (.error e, later) (.error e', later')

/-- On alike streams the rules denote related values, or both fail. -/
def Agrees (R : α → β → Prop) (x : Rule α) (y : Rule β) : Prop :=
  ∀ s s' : TokenStream, s.Alike s' → Matches R (x.run s) (y.run s')

namespace Agrees

variable {R : α → β → Prop} {S : γ → δ → Prop} {x : Rule α} {y : Rule β}

theorem pure {a : α} {b : β} (h : R a b) : Agrees R (pure a : Rule α) (pure b : Rule β) := by
  intro s s' hs
  exact .ok h hs

theorem bind {f : α → Rule γ} {g : β → Rule δ} (h : Agrees R x y)
    (hf : ∀ a b, R a b → Agrees S (f a) (g b)) : Agrees S (x >>= f) (y >>= g) := by
  intro s s' hs
  have hfirst := h s s' hs
  rw [run_bind, run_bind]
  generalize x.run s = first, y.run s' = first' at hfirst
  cases hfirst with
  | ok hab hlater => exact hf _ _ hab _ _ hlater
  | error => exact .error

theorem peek : Agrees Token.Alike peek peek := by
  intro s s' hs
  exact .ok hs.current hs

theorem token : Agrees Token.Alike token token := by
  intro s s' hs
  exact .ok hs.current hs.advance

theorem failAt (p p' : Position) (cause cause' : SyntaxCause) :
    Agrees R (failAt p cause) (failAt p' cause') := by
  intro s s' _
  exact .error

theorem fail (cause cause' : Token → SyntaxCause) : Agrees R (fail cause) (fail cause') :=
  peek.bind fun t t' _ => failAt t.position t'.position (cause t) (cause' t')

/-- A token that was expected is of the kind that was asked for. -/
theorem expect (kind : TokenKind) :
    Agrees (fun t t' => t.Alike t' ∧ t.kind = kind) (expect kind) (expect kind) := by
  intro s s' hs
  rw [Rule.expect, run_bind, run_bind]
  change Matches _ ((if s.current.kind = kind then Rule.token else _ : Rule Token).run s)
    ((if s'.current.kind = kind then Rule.token else _ : Rule Token).run s')
  rw [hs.current.kind]
  split
  · rename_i hkind
    exact .ok ⟨hs.current, hkind⟩ hs.advance
  · exact fail _ _ s s' hs

/-- What holds of the items holds of a row of them. -/
theorem manyAfter {separator : TokenKind} (hsep : separator ≠ .eof) (h : Agrees R x y) :
    Agrees (List.Forall₂ R) (manyAfter separator x) (manyAfter separator y) := by
  intro s s' hs
  -- each round takes the separator at least
  induction hn : s.tokens.length using Nat.strongRecOn generalizing s s' with
  | ind n ih =>
      by_cases hk : s.current.kind = separator
      · have hk' : s'.current.kind = separator := hs.current.kind.trans hk
        have hitem := h _ _ hs.advance
        have hle := x.length_le s.advance
        rw [run_manyAfter_of_eq hsep x hk, run_manyAfter_of_eq hsep y hk', run_token_bind,
          run_token_bind, run_bind, run_bind]
        generalize x.run s.advance = item, y.run s'.advance = item' at hitem hle
        cases hitem with
        | error => exact .error
        | @ok a b later later' hab hlater =>
            have hshorter : later.tokens.length < n := by
              have hpos : s.tokens ≠ [] := by
                intro hnil
                rw [TokenStream.current, hnil] at hk
                exact hsep hk.symm
              have := List.length_pos_iff.mpr hpos
              simp only [TokenStream.advance, List.length_tail] at hle
              omega
            have hrest := ih _ hshorter later later' hlater rfl
            dsimp only
            rw [run_bind, run_bind]
            generalize (Rule.manyAfter separator x).run later = rest,
              (Rule.manyAfter separator y).run later' = rest' at hrest
            cases hrest with
            | error => exact .error
            | ok habs hlast => exact .ok (.cons hab habs) hlast
      · have hk' : s'.current.kind ≠ separator := by rwa [hs.current.kind]
        change Matches _ (manyAfterRun separator x s) (manyAfterRun separator y s')
        rw [manyAfterRun_of_ne x hk, manyAfterRun_of_ne y hk']
        exact .ok .nil hs

theorem separatedBy {separator : TokenKind} (hsep : separator ≠ .eof) (h : Agrees R x y) :
    Agrees (List.Forall₂ R) (separatedBy separator x) (separatedBy separator y) :=
  h.bind fun _ _ hab => (h.manyAfter hsep).bind fun _ _ habs => .pure (.cons hab habs)

end Agrees

end Rule

namespace Grammar

open Rule

/-! ### Values -/

/-- What a token denotes is told by its kind and value, and a keyword denotes nothing. -/
theorem ofToken_cases {t t' : Token} (h : t.Alike t') :
    Literal.ofToken t' = Literal.ofToken t ∨
      ∃ cause cause', Literal.ofToken t = .error cause ∧ Literal.ofToken t' = .error cause' := by
  obtain ⟨kind, value, position⟩ := t
  obtain ⟨kind', value', position'⟩ := t'
  obtain rfl : kind' = kind := h.kind
  by_cases hkind : kind'.isKeyword
  · refine .inr ?_
    cases kind' with
    | and | or | not | member => exact ⟨_, _, rfl, rfl⟩
    | _ => cases hkind
  · obtain rfl : value' = value := h.value (by simpa using hkind)
    exact .inl rfl

theorem agrees_literalOf (kinds : List TokenKind) :
    Agrees Eq (literalOf kinds) (literalOf kinds) := by
  refine Agrees.peek.bind fun t t' ht => ?_
  rw [ht.kind]
  split
  · refine Agrees.token.bind fun t t' ht => ?_
    rcases ofToken_cases ht with heq | ⟨cause, cause', herror, herror'⟩
    · rw [heq]
      cases Literal.ofToken t with
      | ok v => exact .pure rfl
      | error cause => exact .failAt _ _ _ _
    · rw [herror, herror']
      exact .failAt _ _ _ _
  · exact .fail _ _

theorem agrees_elementAfter (first : Literal) :
    Agrees Eq (elementAfter first) (elementAfter first) := by
  refine Agrees.peek.bind fun t t' _ => (agrees_literalOf _).bind ?_
  rintro element _ rfl
  split
  · exact .pure rfl
  · exact .failAt _ _ _ _

theorem agrees_list : Agrees Eq list list := by
  refine (Agrees.expect _).bind fun _ _ _ => (agrees_literalOf _).bind ?_
  rintro first _ rfl
  refine ((agrees_elementAfter first).manyAfter (by decide)).bind fun rest rest' hrest => ?_
  obtain rfl : rest = rest' := by rwa [List.forall₂_eq_eq_eq] at hrest
  exact (Agrees.expect _).bind fun _ _ _ => .pure rfl

/-! ### Conditions -/

theorem agrees_path : Agrees Eq path path := by
  refine ((Agrees.expect .name).separatedBy (by decide)).bind fun names names' hnames => .pure ?_
  congr 1
  induction hnames with
  | nil => rfl
  | cons ht _ ih =>
      have hvalue := ht.1.value (by rw [ht.2]; rfl)
      rw [List.map_cons, List.map_cons, ih, hvalue]

theorem agrees_term {nested : Rule Expr} (h : Agrees Eq nested nested) :
    Agrees Eq (term nested) (term nested) := by
  refine Agrees.peek.bind fun t t' ht => ?_
  rw [ht.kind]
  split
  · refine Agrees.token.bind fun _ _ _ => h.bind ?_
    rintro inner _ rfl
    exact (Agrees.expect _).bind fun _ _ _ => .pure rfl
  · refine Agrees.token.bind fun _ _ _ => agrees_path.bind ?_
    rintro p _ rfl
    exact .pure rfl
  · refine agrees_path.bind ?_
    rintro p _ rfl
    refine Agrees.peek.bind fun t t' ht => ?_
    rw [ht.kind]
    split
    · refine Agrees.token.bind fun _ _ _ => (agrees_literalOf _).bind ?_
      rintro v _ rfl
      exact .pure rfl
    · refine Agrees.token.bind fun _ _ _ => agrees_list.bind ?_
      rintro vs _ rfl
      exact .pure rfl
    · exact .pure rfl
  · exact .fail _ _
  · exact .fail _ _
  · exact .fail _ _

/-- Operands with a separator between them. -/
theorem agrees_operands {item : Rule Expr} (h : Agrees Eq item item) {separator : TokenKind}
    (hsep : separator ≠ .eof) (join : List Expr → Expr) :
    Agrees Eq (do let operands ← separatedBy separator item; pure (collapse join operands))
      (do let operands ← separatedBy separator item; pure (collapse join operands)) := by
  refine (h.separatedBy hsep).bind fun operands operands' hoperands => ?_
  obtain rfl : operands = operands' := by rwa [List.forall₂_eq_eq_eq] at hoperands
  exact .pure rfl

theorem agrees_condition (levels : Nat) : Agrees Eq (condition levels) (condition levels) := by
  induction levels with
  | zero => exact .fail _ _
  | succ levels ih =>
      have hall : Agrees Eq (all (condition levels)) (all (condition levels)) :=
        agrees_operands (agrees_term ih) (by decide) .and
      exact agrees_operands hall (by decide) .or

/-- **The grammar agrees with itself.** -/
theorem agrees_expression (levels : Nat) : Agrees Eq (expression levels) (expression levels) := by
  refine (agrees_condition levels).bind ?_
  rintro e _ rfl
  refine Agrees.peek.bind fun t t' ht => ?_
  rw [ht.kind]
  split
  · exact .pure rfl
  · exact .fail _ _

end Grammar

/-- Texts with alike tokens are parsed to the same expression, or both not at all. -/
theorem parse_eq_ok_iff_of_alike {text text' : String} {s s' : TokenStream}
    (hs : tokenize text = .ok s) (hs' : tokenize text' = .ok s') (h : s.Alike s') (e : Expr) :
    parse text = .ok e ↔ parse text' = .ok e := by
  have hparse : ∀ {text s}, tokenize text = .ok s →
      (parse text = .ok e ↔ ((Grammar.expression maxNesting).run s).1 = .ok e) := by
    intro text s hs
    have hnext : parse text = (Parser.next ⟨s, 0⟩).1 := by
      rw [parse, Parser.start, hs]
      rfl
    rw [hnext, Parser.next, Nat.sub_zero]
    split <;> rename_i hrun <;> simp only [hrun]
  have hmatches := Grammar.agrees_expression maxNesting s s' h
  rw [hparse hs, hparse hs']
  generalize (Grammar.expression maxNesting).run s = result,
    (Grammar.expression maxNesting).run s' = result' at hmatches
  cases hmatches with
  | ok hab _ => rw [hab]
  | error => simp

end EntityFilter
