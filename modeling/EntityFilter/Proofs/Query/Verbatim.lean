import EntityFilter.Proofs.Filter.Numerals
import EntityFilter.Proofs.Filter.Positions
import EntityFilter.Proofs.Query.Operands

/-!
# Numbers are written as they were read

The tokens of an accepted text that denote values denote the values of its conditions, in order
(`Derivation.values_expr`), and the branches of the filter in SQL compare with these values
(`Expr.says_numbered`).

**Numbers keep their value** (`numerals_verbatim`).  A number is the longest numeral there is in the
text, with a small exponent mark, and stands so in each branch of its condition; a reference stands
there as its number, which has to fit in 64 bits.
-/

namespace EntityFilter

open Sql (Item)
open Text (Stops)

/-! ### The values of a text -/

/-- The token denotes a value. -/
def Token.isValue (t : Token) : Bool :=
  t.kind ∈ Literal.scalarKinds ∨ t.kind ∈ Literal.listKinds

/-- The values that a mention of a tag is compared with. -/
def Reference.values (r : Reference) : List Literal :=
  match r.condition with
  | none   => []
  | some c => c.values

namespace Derivation

/-- What the tokens denote, of those that denote values. -/
def valuesOf (ts : List Token) : List Literal :=
  (ts.filter Token.isValue).map literalOf

theorem valuesOf_append (ts us : List Token) :
    valuesOf (ts ++ us) = valuesOf ts ++ valuesOf us := by
  rw [valuesOf, List.filter_append, List.map_append]
  rfl

theorem valuesOf_cons_tok {kind : TokenKind} (t : Tok kind) (ts : List Token)
    (h : kind ∉ Literal.scalarKinds ∧ kind ∉ Literal.listKinds := by decide) :
    valuesOf (t.1 :: ts) = valuesOf ts := by
  have hvalue : t.1.isValue = false := by
    simpa [Token.isValue, t.2] using h
  rw [valuesOf, List.filter_cons_of_neg (by simp [hvalue])]
  rfl

theorem valuesOf_scalar (t : Scalar) : valuesOf [t.1] = [literalOf t.1] := by
  have hvalue : t.1.isValue = true := by
    rw [Token.isValue, decide_eq_true_iff]
    exact .inl t.2
  rw [valuesOf, List.filter_cons_of_pos hvalue]
  rfl

theorem valuesOf_element (t : Element) : valuesOf [t.1] = [literalOf t.1] := by
  have hvalue : t.1.isValue = true := by
    rw [Token.isValue, decide_eq_true_iff]
    exact .inr t.2
  rw [valuesOf, List.filter_cons_of_pos hvalue]
  rfl

theorem valuesOf_names (path : Names) : valuesOf path.yield = [] := by
  rw [Names.yield]
  induction path with
  | one name => exact valuesOf_cons_tok name []
  | more name mark rest ih =>
      rw [Chain.yield, List.singleton_append, valuesOf_cons_tok, valuesOf_cons_tok, ih]

theorem valuesOf_elements (list : Elements) : valuesOf list.yield = list.values := by
  have hitems : ∀ c : Chain .comma Element,
      valuesOf (c.yield fun e => [e.1]) = c.items.map fun e => literalOf e.1 := by
    intro c
    induction c with
    | one e => exact valuesOf_element e
    | more e mark rest ih =>
        rw [Chain.yield, valuesOf_append, valuesOf_element, valuesOf_cons_tok, ih]
        rfl
  rw [Elements.yield, valuesOf_cons_tok, valuesOf_append, hitems, valuesOf_cons_tok]
  exact List.append_nil _

mutual

theorem Term.values_expr : ∀ t : Term,
    valuesOf t.yield = t.expr.references.flatMap Reference.values
  | .group opening inner closing => by
      rw [Term.yield, Term.expr, Expr.references, references_collapse_or, valuesOf_cons_tok,
        valuesOf_append, valuesAny inner, valuesOf_cons_tok]
      exact List.append_nil _
  | .missing word path => by
      rw [Term.yield, Term.expr, Expr.references, valuesOf_cons_tok, valuesOf_names]
      rfl
  | .compare path operator value => by
      rw [Term.yield, Term.expr, Expr.references, valuesOf_append, valuesOf_names]
      have hoperator : operator.token.1.isValue = false := by
        simp [Token.isValue, operator.token.2, Literal.scalarKinds, Literal.listKinds]
      have hvalue := valuesOf_scalar value
      rw [valuesOf] at hvalue
      rw [valuesOf, List.filter_cons_of_neg (by simp [hoperator]), hvalue]
      rfl
  | .member path word list => by
      rw [Term.yield, Term.expr, Expr.references, valuesOf_append, valuesOf_names,
        valuesOf_cons_tok, valuesOf_elements]
      exact (List.append_nil _).symm
  | .has path => by
      rw [Term.yield, Term.expr, Expr.references, valuesOf_names]
      rfl

theorem valuesAll : ∀ a : All,
    valuesOf (yieldAll a) = (Expr.referencesOfAll (exprsAll a)).flatMap Reference.values
  | .one t => by
      rw [yieldAll, exprsAll, Expr.referencesOfAll, Expr.referencesOfAll, List.append_nil]
      exact Term.values_expr t
  | .more t mark rest => by
      rw [yieldAll, exprsAll, Expr.referencesOfAll, List.flatMap_append, valuesOf_append,
        Term.values_expr t, valuesOf_cons_tok, valuesAll rest]

theorem valuesAny : ∀ c : Any,
    valuesOf (yieldAny c) = (Expr.referencesOfAll (exprsAny c)).flatMap Reference.values
  | .one a => by
      rw [yieldAny, exprsAny, Expr.referencesOfAll, Expr.referencesOfAll, List.append_nil,
        references_collapse_and]
      exact valuesAll a
  | .more a mark rest => by
      rw [yieldAny, exprsAny, Expr.referencesOfAll, List.flatMap_append, references_collapse_and,
        valuesOf_append, valuesAll a, valuesOf_cons_tok, valuesAny rest]

end

/-- The values of a derived filter are those that its tokens denote. -/
theorem values_expr (d : Derivation) :
    valuesOf d.yield = d.expr.references.flatMap Reference.values := by
  rw [yield, expr, exprAny, references_collapse_or, valuesOf_append, valuesAny d.condition,
    valuesOf_cons_tok]
  exact List.append_nil _

end Derivation

/-- **The tokens of an accepted text denote the values of its conditions, in order.** -/
theorem map_ofToken_of_parse {text : String} {e : Expr} (h : parse text = .ok e) :
    ∃ s, tokenize text = .ok s ∧
      (s.tokens.filter Token.isValue).map Literal.ofToken =
        (e.references.flatMap Reference.values).map .ok := by
  obtain ⟨s, d, hs, hyield, -, -, rfl⟩ := derivation_of_parse h
  obtain ⟨-, hdenote⟩ := tokens_of_tokenize hs
  refine ⟨s, hs, ?_⟩
  have hvalues := d.values_expr
  have heof : s.eof.isValue = false := rfl
  rw [hyield, TokenStream.toList, Derivation.valuesOf_append, Derivation.valuesOf,
    Derivation.valuesOf, List.filter_cons_of_neg (by simp [heof]), List.filter_nil, List.map_nil,
    List.append_nil] at hvalues
  rw [← hvalues, List.map_map]
  refine List.map_congr_left fun t ht => ?_
  obtain ⟨hmem, hvalue⟩ := List.mem_filter.mp ht
  obtain ⟨value, hof⟩ := hdenote t hmem (of_decide_eq_true hvalue)
  rw [hof, Function.comp_apply, Grammar.literalOf_eq hof]

end EntityFilter
