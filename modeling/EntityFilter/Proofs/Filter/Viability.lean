import Mathlib
import EntityFilter.Proofs.Filter.Lookahead
import EntityFilter.Proofs.Filter.Positions

/-!
# Errors are at the first token that is wrong

Each rule of the grammar scans (`Grammar.expression_scans`): where it fails, the tokens in front of
the one that is blamed are the first ones of a tree that the rule reads.  Such a tree is found by
closing what is open with tokens of the kinds that are missing; it nests no deeper than what was
read, so it stays within the levels that are left.  That the rule looks no further than the blamed
token makes the error final.

The positions of the tokens of a text are all different (`pairwise_of_tokenize`), so the position of
an error tells its token.  **A syntax error is at the first token that no filter has there**
(`parse_error_at_first_wrong_token`).
-/

namespace EntityFilter

open EntityFilter.Derivation (Tok Chain Names Element Elements Term Any yieldAll yieldAny
  yieldAll_eq yieldAny_eq exprAny EndsAny)

namespace Grammar

open Rule

/-! ### Values -/

theorem decides_literalOf {kinds : List TokenKind} (hkinds : .eof ∉ kinds) :
    Decides (literalOf kinds) fun t =>
      if t.kind ∈ kinds then (Literal.ofToken t).mapError fun cause => ⟨t.position, cause⟩
      else .error ⟨t.position, .mismatched t.display kinds⟩ where
  result s := by
    rw [run_literalOf]
    split
    · cases Literal.ofToken s.current <;> rfl
    · rfl
  takes {s a} h := by
    split at h
    case isTrue hk =>
      refine ⟨fun heof => hkinds (heof ▸ hk), ?_⟩
      rw [run_literalOf, if_pos hk]
      cases Literal.ofToken s.current <;> rfl
    case isFalse => cases h
  blames {t e} h := by
    split at h
    case isTrue =>
      cases hvalue : Literal.ofToken t with
      | ok v => rw [hvalue] at h; cases h
      | error cause => rw [hvalue] at h; rw [← Except.error.inj h]
    case isFalse => rw [← Except.error.inj h]

/-- An element is a value first, and then it has to go with the first element. -/
theorem decides_elementAfter (first : Literal) : ∃ judge, Decides (elementAfter first) judge :=
  ⟨_, (decides_literalOf (by decide)).check (fun element => element.isNumeric = first.isNumeric)
    fun t => .mixedList t.display⟩

/-- The elements behind the first one; it goes with itself. -/
theorem elementAfter_scans {e : Element} (he : Denotes e.1) :
    Scans (elementAfter (Derivation.literalOf e.1)) (fun e' : Element => [e'.1]) fun e' =>
      Denotes e'.1 ∧
        (Derivation.literalOf e'.1).isNumeric = (Derivation.literalOf e.1).isNumeric := by
  obtain ⟨judge, h⟩ := decides_elementAfter (Derivation.literalOf e.1)
  exact fun _ => h.scansAt ⟨e, ⟨he, rfl⟩, List.nil_prefix⟩

theorem path_scans : Scans path Names.yield fun _ => True := by
  intro s
  have hname : Scans (expect .name) _ _ := expect_scans (by decide)
  refine ((hname.separatedBy (by decide) (expect_reads (by decide)) s).mono ?_).map _
  rintro before ⟨names, -, hbefore⟩
  exact ⟨names, trivial, hbefore⟩

/-! ### Lists -/

/-- A list that was opened can be closed, whatever elements it has so far. -/
theorem begins_list (opening : Tok .openParen) {e : Element} (he : Denotes e.1)
    (more : List (Tok .comma × Element)) (hmore : ∀ p ∈ more, Denotes p.2.1 ∧
      (Derivation.literalOf p.2.1).isNumeric = (Derivation.literalOf e.1).isNumeric)
    {before : List Token}
    (h : before <+: opening.1 :: e.1 :: more.flatMap fun p => [p.1.1, p.2.1]) :
    Begins Elements.yield AdmittedList before := by
  refine ⟨⟨opening, Chain.link e more, anyTok .closeParen⟩, ⟨?_, ?_⟩, ?_⟩
  · simp only [Chain.items_link, List.forall_mem_cons, List.forall_mem_map]
    exact ⟨he, fun p hp => (hmore p hp).1⟩
  · rw [homogeneous_iff he fun p hp => (hmore p hp).1]
    exact fun p hp => (hmore p hp).2
  · rw [Elements.yield, Chain.yield_link, ← List.cons_append]
    exact h.trans (List.prefix_append _ _)

/-- A list can go on behind its parenthesis. -/
theorem begins_list_open (opening : Tok .openParen) {before : List Token}
    (h : before <+: [opening.1]) : Begins Elements.yield AdmittedList before := by
  have hnumber : Denotes (anyTok .number).1 := ⟨_, rfl⟩
  have hopen : [opening.1] <+: [opening.1, (anyTok .number).1] := List.prefix_append [opening.1] _
  exact begins_list opening (e := ⟨_, by decide⟩) hnumber [] nofun (h.trans hopen)

theorem list_scans : Scans list Elements.yield AdmittedList := by
  intro s
  have hopen : Decides (expect .openParen) _ := decides_expect (by decide)
  have hclose : Decides (expect .closeParen) _ := decides_expect (by decide)
  have helement : Decides (literalOf Literal.listKinds) _ := decides_literalOf (by decide)
  refine (hopen.scansAt ?_).bind_reads (expect_reads (by decide)) fun opening s₁ _ _ => ?_
  · exact begins_list_open (anyTok .openParen) List.nil_prefix
  refine (helement.scansAt ?_).bind_reads element_reads fun e s₂ he _ => ?_
  · exact begins_list_open opening List.prefix_rfl
  refine (((elementAfter_scans he).manyAfter (by decide) (elementAfter_reads _) s₂).mono ?_).bind
    fun {rest s₃ read} hrun hread => ?_
  · rintro before ⟨more, hmore, hbefore⟩
    exact begins_list opening he more hmore (by simpa using hbefore)
  obtain ⟨more, hmore, -, hs⟩ := manyAfterRun_sound (elementAfter_reads _) hrun
  rw [TokenStream.push_injective (hread.symm.trans hs)]
  refine (hclose.scansAt ?_).map _
  exact begins_list opening he more hmore (by simp)

/-! ### Terms and conditions -/

section Terms

variable {nested : Rule Expr} {inner : Any → Prop}

/-- A group that was opened can be closed. -/
theorem begins_group (opening : Tok .openParen) {c : Any} (hc : inner c) {before : List Token}
    (h : before <+: yieldAny c) :
    Begins Term.yield (AdmittedTerm inner) (opening.1 :: before) := by
  refine ⟨.group opening c (anyTok .closeParen), hc, ?_⟩
  rw [Term.yield, List.cons_prefix_cons]
  exact ⟨rfl, h.trans (List.prefix_append _ _)⟩

theorem begins_missing (word : Tok .not) {names : Names} {before : List Token}
    (h : before <+: names.yield) :
    Begins Term.yield (AdmittedTerm inner) (word.1 :: before) := by
  refine ⟨.missing word names, trivial, ?_⟩
  rw [Term.yield, List.cons_prefix_cons]
  exact ⟨rfl, h⟩

/-- A path can stand alone. -/
theorem begins_has {names : Names} {before : List Token} (h : before <+: names.yield) :
    Begins Term.yield (AdmittedTerm inner) before :=
  ⟨.has names, trivial, by rwa [Term.yield]⟩

theorem begins_compare (names : Names) (operator : Derivation.Operator) :
    Begins Term.yield (AdmittedTerm inner) (names.yield ++ [operator.token.1]) := by
  refine ⟨.compare names operator ⟨(anyTok .bool).1, by decide⟩, ⟨_, rfl⟩, ?_⟩
  rw [Term.yield, List.prefix_append_right_inj]
  exact List.prefix_append [operator.token.1] _

theorem begins_member (names : Names) (word : Tok .member) {elements : Elements}
    (helements : AdmittedList elements) {before : List Token} (h : before <+: elements.yield) :
    Begins Term.yield (AdmittedTerm inner) (names.yield ++ word.1 :: before) := by
  refine ⟨.member names word elements, helements, ?_⟩
  rw [Term.yield, List.prefix_append_right_inj, List.cons_prefix_cons]
  exact ⟨rfl, h⟩

/-- What is asked of a path scans: the token behind the path tells what it is. -/
theorem asked_scansAt (names : Names) (s : TokenStream) :
    ScansAt (do
        let t ← peek
        match t.kind with
        | .comparison op =>
          let _ ← token
          let v ← value
          pure (.compare names.path op v)
        | .member =>
          let _ ← token
          let vs ← list
          pure (.member names.path vs)
        | _ => pure (.has names.path) : Rule Expr) s
      fun before => Begins Term.yield (AdmittedTerm inner) (names.yield ++ before) := by
  refine .peek ?_
  split
  · rename_i op hop
    have hvalue : Decides value _ := decides_literalOf (by decide)
    refine .token (by simp [hop]) ((hvalue.scansAt ?_).map _)
    exact begins_compare names ⟨op, s.current, hop⟩
  · rename_i hk
    refine .token (by simp [hk]) (((list_scans _).mono ?_).map _)
    rintro before ⟨elements, helements, hbefore⟩
    exact begins_member names ⟨s.current, hk⟩ helements hbefore
  · exact .pure _

/-- **Terms scan** if what is read in parentheses does. -/
theorem term_scans (hscans : Scans nested yieldAny inner)
    (hreads : Reads nested yieldAny exprAny inner EndsAny) :
    Scans (term nested) Term.yield (AdmittedTerm inner) := by
  intro s
  have hclose : Decides (expect .closeParen) _ := decides_expect (by decide)
  have hnone : Begins Term.yield (AdmittedTerm inner) [] :=
    ⟨.has (.one (anyTok .name)), trivial, List.nil_prefix⟩
  refine .peek ?_
  -- the first token tells a group, a negation and a path apart
  split
  · rename_i hk
    refine .token (by simp [hk]) (((hscans _).mono ?_).bind_reads hreads fun c s₁ hc _ => ?_)
    · rintro before ⟨c, hc, hbefore⟩
      exact begins_group ⟨s.current, hk⟩ hc hbefore
    · refine (hclose.scansAt ?_).map _
      exact begins_group ⟨s.current, hk⟩ hc (by simp)
  · rename_i hk
    refine .token (by simp [hk]) (((path_scans _).mono ?_).map _)
    rintro before ⟨names, -, hbefore⟩
    exact begins_missing ⟨s.current, hk⟩ hbefore
  · refine ((path_scans s).mono ?_).bind_reads path_reads fun names s₁ _ _ => asked_scansAt names s₁
    rintro before ⟨names, -, hbefore⟩
    exact begins_has hbefore
  · exact (decides_fail _).scansAt hnone
  · exact (decides_fail _).scansAt hnone
  · exact (decides_fail _).scansAt hnone

theorem all_scans (hscans : Scans nested yieldAny inner)
    (hreads : Reads nested yieldAny exprAny inner EndsAny) :
    Scans (all nested) yieldAll fun a => ∀ t ∈ a.items, AdmittedTerm inner t := by
  intro s
  rw [funext yieldAll_eq]
  exact ((term_scans hscans hreads).separatedBy (by decide)
    ⟨term_sound hreads, term_complete hreads⟩ s).map _

end Terms

/-- **Conditions scan**, except for those that nest too deep. -/
theorem condition_scans (levels : Nat) :
    Scans (condition levels) yieldAny (AdmittedAny levels) := by
  induction levels with
  | zero =>
      refine fun s => ⟨fun hrun => ?_, fun hrun hcause => ?_⟩
      · cases (Prod.mk.inj hrun).1
      · rw [← Except.error.inj (Prod.mk.inj hrun).1] at hcause
        exact absurd rfl hcause
  | succ levels ih =>
      intro s
      rw [funext yieldAny_eq]
      exact ((all_scans ih (condition_reads levels)).separatedBy (by decide)
        (all_reads (condition_reads levels)) s).map _

theorem expression_scans (levels : Nat) :
    Scans (expression levels) yieldAny (AdmittedAny levels) := by
  intro s
  refine (condition_scans levels s).bind_reads (condition_reads levels) fun c s₁ hc _ => ?_
  refine .peek ?_
  split
  · exact .pure _
  · exact (decides_fail _).scansAt ⟨c, hc, by simp⟩

/-- The tokens of an admitted condition are a filter. -/
theorem expression_of_admitted {levels : Nat} {c : Any} (hc : AdmittedAny levels c)
    (endsAt : Position) : ((expression levels).run ⟨yieldAny c, endsAt⟩).1 = .ok (exprAny c) := by
  have hend : EndsAny (⟨[], endsAt⟩ : TokenStream).current.kind := by
    simp [TokenStream.current, TokenStream.eof, EndsAny, Derivation.EndsAll, Derivation.EndsTerm]
  have hrun := (condition_reads levels).complete hc hend
  rw [TokenStream.push, List.append_nil] at hrun
  rw [run_expression_ok.mpr ⟨hrun, rfl⟩]

end Grammar

/-! ### Streams and their tokens -/

namespace Derivation

theorem Chain.kind_ne_eof {separator : TokenKind} {α : Type} {tokens : α → List Token}
    (hsep : separator ≠ .eof) (h : ∀ a, ∀ t ∈ tokens a, t.kind ≠ .eof) (c : Chain separator α) :
    ∀ t ∈ c.yield tokens, t.kind ≠ .eof := by
  induction c with
  | one a => exact h a
  | more a mark rest ih =>
      simp only [Chain.yield, List.forall_mem_append, List.forall_mem_cons, mark.2]
      exact ⟨h a, hsep, ih⟩

theorem Names.kind_ne_eof (names : Names) : ∀ t ∈ names.yield, t.kind ≠ .eof :=
  Chain.kind_ne_eof (by decide) (fun name => by simp [name.2]) names

theorem Elements.kind_ne_eof (list : Elements) : ∀ t ∈ list.yield, t.kind ≠ .eof := by
  have helement : ∀ e : Element, ∀ t ∈ [e.1], t.kind ≠ .eof := fun e t ht heof => by
    rw [List.mem_singleton.mp ht] at heof
    exact absurd (heof ▸ e.2) (by decide)
  simp only [Elements.yield, List.forall_mem_cons, List.forall_mem_append, list.opening.2,
    list.closing.2]
  exact ⟨by decide, Chain.kind_ne_eof (by decide) helement list.elements, by decide,
    List.forall_mem_nil _⟩

mutual

theorem Term.kind_ne_eof : ∀ t : Term, ∀ u ∈ t.yield, u.kind ≠ .eof
  | .group opening inner closing => by
      simp only [Term.yield, List.forall_mem_cons, List.forall_mem_append, opening.2, closing.2]
      exact ⟨by decide, kind_ne_eof_any inner, by decide, List.forall_mem_nil _⟩
  | .missing word path => by
      simp only [Term.yield, List.forall_mem_cons, word.2]
      exact ⟨by decide, path.kind_ne_eof⟩
  | .compare path operator value => by
      simp only [Term.yield, List.forall_mem_cons, List.forall_mem_append, operator.token.2]
      exact ⟨path.kind_ne_eof, by simp, fun heof => absurd (heof ▸ value.2) (by decide),
        List.forall_mem_nil _⟩
  | .member path word list => by
      simp only [Term.yield, List.forall_mem_cons, List.forall_mem_append, word.2]
      exact ⟨path.kind_ne_eof, by decide, list.kind_ne_eof⟩
  | .has path => by
      rw [Term.yield]
      exact path.kind_ne_eof

theorem kind_ne_eof_all : ∀ a : All, ∀ u ∈ yieldAll a, u.kind ≠ .eof
  | .one t => by
      rw [yieldAll]
      exact t.kind_ne_eof
  | .more t mark rest => by
      simp only [yieldAll, List.forall_mem_append, List.forall_mem_cons, mark.2]
      exact ⟨t.kind_ne_eof, by decide, kind_ne_eof_all rest⟩

theorem kind_ne_eof_any : ∀ c : Any, ∀ u ∈ yieldAny c, u.kind ≠ .eof
  | .one a => by
      rw [yieldAny]
      exact kind_ne_eof_all a
  | .more a mark rest => by
      simp only [yieldAny, List.forall_mem_append, List.forall_mem_cons, mark.2]
      exact ⟨kind_ne_eof_all a, by decide, kind_ne_eof_any rest⟩

end

end Derivation

namespace TokenStream

theorem toList_push (ts : List Token) (s : TokenStream) : (s.push ts).toList = ts ++ s.toList :=
  List.append_assoc ..

theorem exists_toList_eq (s : TokenStream) : ∃ more, s.toList = s.current :: more := by
  obtain ⟨tokens, endsAt⟩ := s
  cases tokens with
  | nil => exact ⟨[], rfl⟩
  | cons t ts => exact ⟨_, rfl⟩

/-- A stream that starts with some tokens and another one has that one behind the others. -/
theorem exists_push_of_prefix {s : TokenStream} {ts : List Token} {t : Token}
    (h : ts ++ [t] <+: s.toList) : ∃ rest : TokenStream, s = rest.push ts ∧ rest.current = t := by
  induction ts generalizing s with
  | nil =>
      obtain ⟨more, hmore⟩ := s.exists_toList_eq
      rw [hmore, List.nil_append, List.cons_prefix_cons] at h
      exact ⟨s, rfl, h.1.symm⟩
  | cons u ts ih =>
      obtain ⟨tokens, endsAt⟩ := s
      cases tokens with
      | nil => simp [toList] at h
      | cons u' tokens =>
          rw [toList, List.cons_append, List.cons_append, List.cons_prefix_cons] at h
          obtain ⟨rfl, h⟩ := h
          obtain ⟨rest, hrest, hcurrent⟩ := ih (s := ⟨tokens, endsAt⟩) h
          exact ⟨rest, congrArg (push [u]) hrest, hcurrent⟩

end TokenStream

/-! ### Positions -/

namespace Position

/-- The position comes before another one. -/
def Before (p q : Position) : Prop :=
  p.line < q.line ∨ p.line = q.line ∧ p.column < q.column

theorem Before.ne {p q : Position} (h : p.Before q) : p ≠ q := by
  rintro rfl
  rcases h with h | ⟨-, h⟩ <;> exact Nat.lt_irrefl _ h

theorem Before.trans {p q r : Position} (h : p.Before q) (h' : q.Before r) : p.Before r := by
  simp only [Before] at *
  omega

theorem before_next (p : Position) (c : Char) : p.Before (p.next c) := by
  rw [next]
  split
  · exact .inl (Nat.lt_succ_self _)
  · exact .inr ⟨rfl, Nat.lt_succ_self _⟩

theorem before_after (p : Position) {text : List Char} (h : text ≠ []) :
    p.Before (p.after text) := by
  induction text generalizing p with
  | nil => exact absurd rfl h
  | cons c text ih =>
      rw [after_cons]
      by_cases htext : text = []
      · rw [htext, after_nil]
        exact p.before_next c
      · exact (p.before_next c).trans (ih _ htext)

theorem behind_before (text : List Char) {more : List Char} (h : more ≠ []) :
    (behind text).Before (behind (text ++ more)) := by
  rw [← behind_after]
  exact before_after _ h

end Position

/-- Each token stands within the text that writes it. -/
theorem Written.exists_position {before text : List Char} {tokens : List Token}
    (h : Written before tokens text) : ∀ t ∈ tokens, ∃ front back, back ≠ [] ∧
      text = front ++ back ∧ t.position = .behind (before ++ front) := by
  induction h with
  | nil => nofun
  | @cons before gap lexeme text kind value tokens hgap hlexeme hfirst hwrites hlater ih =>
      rw [List.forall_mem_cons]
      constructor
      · exact ⟨gap, lexeme ++ text, by simp [hlexeme], List.append_assoc .., rfl⟩
      · intro t ht
        obtain ⟨front, back, hback, rfl, hposition⟩ := ih t ht
        exact ⟨gap ++ lexeme ++ front, back, hback, (List.append_assoc ..).symm,
          by rw [hposition]; simp only [List.append_assoc]⟩

/-- Tokens are in the order of their positions. -/
theorem Written.pairwise {before text : List Char} {tokens : List Token}
    (h : Written before tokens text) :
    tokens.Pairwise fun t u => t.position.Before u.position := by
  induction h with
  | nil => exact .nil
  | @cons before gap lexeme text kind value tokens hgap hlexeme hfirst hwrites hlater ih =>
      refine List.pairwise_cons.mpr ⟨fun u hu => ?_, ih⟩
      obtain ⟨front, back, -, -, hposition⟩ := hlater.exists_position u hu
      have hbehind : before ++ (gap ++ lexeme) ++ front = before ++ gap ++ (lexeme ++ front) := by
        simp only [List.append_assoc]
      rw [hposition, hbehind]
      exact Position.behind_before _ (by simp [hlexeme])

/-- All tokens of a text, the mark of the end among them, are in the order of their positions. -/
theorem pairwise_of_tokenize {text : String} {s : TokenStream} (h : tokenize text = .ok s) :
    s.toList.Pairwise fun t u => t.position.Before u.position := by
  obtain ⟨tokens, read, gap, rest, last, houtcome⟩ := (Cursor.start text).exists_outcome [] rfl
  rw [tokenize, houtcome.tokens_eq] at h
  rcases houtcome.ending with ⟨-, rfl⟩ | ⟨-, cause, rfl⟩
  · obtain rfl := Except.ok.inj h
    rw [TokenStream.toList, List.pairwise_append]
    refine ⟨houtcome.written.pairwise, List.pairwise_singleton .., fun t ht u hu => ?_⟩
    obtain ⟨front, back, hback, rfl, hposition⟩ := houtcome.written.exists_position t ht
    rw [List.mem_singleton.mp hu, hposition, List.append_assoc front]
    exact Position.behind_before front (by simp [hback])
  · cases h

/-- No two tokens of a text are at the same position. -/
theorem index_eq_of_position {text : String} {s : TokenStream} (h : tokenize text = .ok s)
    {j k : Nat} {t u : Token} (ht : s.toList[j]? = some t) (hu : s.toList[k]? = some u)
    (hposition : t.position = u.position) : j = k := by
  have hnodup : (s.toList.map Token.position).Nodup :=
    List.pairwise_map.mpr ((pairwise_of_tokenize h).imp Position.Before.ne)
  have hlt : j < (s.toList.map Token.position).length := by
    rw [List.length_map]
    exact (List.getElem?_eq_some_iff.mp ht).1
  refine (List.getElem?_inj hlt hnodup).mp ?_
  rw [List.getElem?_map, List.getElem?_map, ht, hu, Option.map_some, Option.map_some, hposition]

/-! ### Errors -/

namespace Parser

theorem next_fst (p : Parser) :
    p.next.1 = ((Grammar.expression (maxNesting - p.depth)).run p.stream).1 := by
  rw [next]
  split <;> rename_i hrun <;> simp only [hrun]

/-- An error is settled by the token that it is about and those in front, which some filter starts
with. -/
theorem exists_blamed {s : TokenStream} {e : SyntaxError} (h : (⟨s, 0⟩ : Parser).next.1 = .error e)
    (hcause : e.cause ≠ .tooDeep) :
    ∃ (before : List Token) (rest : TokenStream), s = rest.push before ∧
      rest.current.position = e.position ∧
      Rule.Begins yieldAny (Grammar.AdmittedAny maxNesting) before ∧
      ∀ rest' : TokenStream, rest'.current = rest.current →
        (⟨rest'.push before, 0⟩ : Parser).next.1 = .error e := by
  rw [next_fst] at h
  obtain ⟨before, rest, hs, hposition, hbegun, hsame⟩ :=
    (Grammar.expression_scans maxNesting s).error (Prod.ext h rfl) hcause
  exact ⟨before, rest, hs, hposition, hbegun,
    fun rest' hrest => (next_fst _).trans (hsame rest' hrest)⟩

end Parser

/-- A text that is no filter, though it has no bad lexeme and does not nest too deep, has its error
at one of its tokens.  The tokens in front of that one are the first ones of some filter, and no
filter starts with these and that one: whatever follows, the answer is the same error.  The mark of
the end counts as a token here.  All tokens that stand for values denote one. -/
theorem parse_error_at_first_wrong_token {text : String} {s : TokenStream} {e : SyntaxError}
    (htokens : tokenize text = .ok s) (herror : parse text = .error e)
    (hcause : e.cause ≠ .tooDeep) :
    (∃ k t, s.toList[k]? = some t ∧ t.position = e.position ∧
      (∀ j u, s.toList[j]? = some u → u.position = e.position → j = k) ∧
      (∃ (s' : TokenStream) (d : Expr), (∀ t ∈ s'.tokens, t.kind ≠ .eof) ∧
        s.toList.take k <+: s'.tokens ∧ (⟨s', 0⟩ : Parser).next.1 = .ok d) ∧
      ∀ s' : TokenStream, s.toList.take (k + 1) <+: s'.toList →
        (⟨s', 0⟩ : Parser).next.1 = .error e) ∧
    ∀ t ∈ s.tokens, t.kind ∈ Literal.scalarKinds ∨ t.kind ∈ Literal.listKinds →
      ∃ v, Literal.ofToken t = .ok v := by
  have hnext : (⟨s, 0⟩ : Parser).next.1 = .error e := by
    rw [parse, Parser.start, htokens] at herror
    exact herror
  obtain ⟨before, rest, hs, hposition, ⟨c, hc, hbefore⟩, hsame⟩ := Parser.exists_blamed hnext hcause
  obtain ⟨more, hmore⟩ := rest.exists_toList_eq
  have hlist : s.toList = before ++ rest.current :: more := by
    rw [hs, TokenStream.toList_push, hmore]
  have hat : s.toList[before.length]? = some rest.current := by simp [hlist]
  refine ⟨⟨before.length, rest.current, hat, hposition, fun j u hu hposition' => ?_,
    ⟨⟨yieldAny c, e.position⟩, exprAny c, Derivation.kind_ne_eof_any c, ?_, ?_⟩,
    fun s' hs' => ?_⟩, (tokens_of_tokenize htokens).2⟩
  · exact index_eq_of_position htokens hu hat (hposition'.trans hposition.symm)
  · rwa [hlist, List.take_left]
  · rw [Parser.next_fst]
    exact Grammar.expression_of_admitted hc e.position
  · have htake : s.toList.take (before.length + 1) = before ++ [rest.current] := by
      simp [hlist, List.take_append]
    rw [htake] at hs'
    obtain ⟨rest', rfl, hcurrent⟩ := TokenStream.exists_push_of_prefix hs'
    exact hsame rest' hcurrent

set_option maxRecDepth 8000 in
/-- The list `('b', 1)` is wrong at its second element. -/
theorem parse_error_at_mixed_element :
    ∃ s, tokenize "a in ('b', 1)" = .ok s ∧
      parse "a in ('b', 1)" = .error ⟨⟨1, 12⟩, .mixedList "1"⟩ ∧
      (∃ t, s.toList[5]? = some t ∧ t.position = ⟨1, 12⟩) ∧
      (∃ (s' : TokenStream) (d : Expr), s.toList.take 5 <+: s'.tokens ∧
        (⟨s', 0⟩ : Parser).next.1 = .ok d) ∧
      ∀ s' : TokenStream, s.toList.take 6 <+: s'.toList →
        (⟨s', 0⟩ : Parser).next.1 = .error ⟨⟨1, 12⟩, .mixedList "1"⟩ := by
  have htokens : tokenize "a in ('b', 1)" = .ok ⟨
      [⟨.name, "a", ⟨1, 1⟩⟩, ⟨.member, "in", ⟨1, 3⟩⟩, ⟨.openParen, "(", ⟨1, 6⟩⟩,
        ⟨.inStr, "b", ⟨1, 7⟩⟩, ⟨.comma, ",", ⟨1, 10⟩⟩, ⟨.number, "1", ⟨1, 12⟩⟩,
        ⟨.closeParen, ")", ⟨1, 13⟩⟩], ⟨1, 14⟩⟩ := by cbv
  have herror : parse "a in ('b', 1)" = .error ⟨⟨1, 12⟩, .mixedList "1"⟩ := by cbv
  obtain ⟨⟨k, t, hat, hposition, hunique, ⟨s', d, -, hviable, hnext⟩, hclosed⟩, -⟩ :=
    parse_error_at_first_wrong_token htokens herror (by decide)
  obtain rfl : 5 = k := hunique 5 _ rfl rfl
  exact ⟨_, htokens, herror, ⟨t, hat, hposition⟩, ⟨s', d, hviable, hnext⟩, hclosed⟩

end EntityFilter
