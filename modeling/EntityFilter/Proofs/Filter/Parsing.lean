import Mathlib
import EntityFilter.Proofs.Filter.Derivation
import EntityFilter.Proofs.Filter.Tokens

/-!
# The parser reads the grammar

A rule *reads* a type of trees (`Rule.Reads`) when its results are exactly the values of the
trees: a result is the value of a tree that yields the tokens the rule took, and on the tokens of
a tree, with something behind them that cannot go on the tree, the rule takes just these and
returns the value of the tree.  Rules that are put together read trees that are put together, and
`Rule.Reads.separatedBy` says so of the loops, of which the grammar has four.

`Grammar.condition_reads` is the induction on the levels that are left.  It needs no induction on
trees: a tree in parentheses is one level further down.

**The parser accepts exactly the derivations** (`Parser.next_eq_ok_iff`) within its bounds, if each
token of the stream that stands for a value denotes one.
-/

namespace EntityFilter

open EntityFilter.Derivation (Tok Chain)

namespace TokenStream

/-- The stream with `ts` in front. -/
def push (ts : List Token) (s : TokenStream) : TokenStream :=
  { s with tokens := ts ++ s.tokens }

theorem push_push (ts us : List Token) (s : TokenStream) :
    (s.push us).push ts = s.push (ts ++ us) := by
  simp only [push, List.append_assoc]

@[simp] theorem current_push_cons (t : Token) (ts : List Token) (s : TokenStream) :
    (s.push (t :: ts)).current = t := rfl

@[simp] theorem advance_push_cons (t : Token) (ts : List Token) (s : TokenStream) :
    (s.push (t :: ts)).advance = s.push ts := rfl

theorem eq_push_of_tokens {s : TokenStream} {t : Token} {ts : List Token}
    (h : s.tokens = t :: ts) : s = s.advance.push [t] := by
  obtain ⟨tokens, endsAt⟩ := s
  obtain rfl : tokens = t :: ts := h
  rfl

/-- A stream that is not at its end starts with its next token. -/
theorem eq_push_current {s : TokenStream} (h : s.current.kind ≠ .eof) :
    s = s.advance.push [s.current] := by
  obtain ⟨tokens, endsAt⟩ := s
  cases tokens with
  | nil => exact absurd rfl h
  | cons t rest => rfl

theorem eq_push_of_advance {s later : TokenStream} {ts : List Token} (h : s.current.kind ≠ .eof)
    (hs : s.advance = later.push ts) : s = later.push (s.current :: ts) := by
  refine (eq_push_current h).trans ?_
  rw [hs, push_push, List.singleton_append]

theorem tokens_eq_nil {s : TokenStream} (hk : s.current.kind = .eof)
    (heof : ∀ t ∈ s.tokens, t.kind ≠ .eof) : s.tokens = [] := by
  cases htokens : s.tokens with
  | nil => rfl
  | cons t ts =>
      rw [current, htokens, List.headD_cons] at hk
      exact absurd hk (heof t (htokens ▸ List.mem_cons_self))

end TokenStream

namespace Rule

variable {α β T : Type}

/-- The results of `r` are the values of the trees in `allowed`.  The tokens of a tree are given by
`tokens`, and those that cannot go on it by `ends`. -/
structure Reads (r : Rule α) (tokens : T → List Token) (value : T → α) (allowed : T → Prop)
    (ends : TokenKind → Prop) : Prop where
  sound : ∀ {s later : TokenStream} {a : α}, r.run s = (.ok a, later) →
    ∃ t, allowed t ∧ value t = a ∧ s = later.push (tokens t)
  complete : ∀ {t : T} {later : TokenStream}, allowed t → ends later.current.kind →
    r.run (later.push (tokens t)) = (.ok (value t), later)

theorem mk_ok_inj {a b : α} {s later : TokenStream}
    (h : ((.ok a : Except SyntaxError α), s) = (.ok b, later)) : a = b ∧ s = later := by
  obtain ⟨ha, hs⟩ := Prod.mk.inj h
  exact ⟨Except.ok.inj ha, hs⟩

/-- A result of two rules in a row is a result of the second one where the first one stopped. -/
theorem run_bind_ok {x : Rule α} {f : α → Rule β} {s last : TokenStream} {b : β} :
    (x >>= f).run s = (.ok b, last) ↔
      ∃ a later, x.run s = (.ok a, later) ∧ (f a).run later = (.ok b, last) := by
  rw [run_bind]
  constructor
  · intro h
    split at h
    · rename_i a later hx
      exact ⟨a, later, hx, h⟩
    · cases (Prod.mk.inj h).1
  · rintro ⟨a, later, hx, hf⟩
    rw [hx]
    exact hf

/-- Looking at the next token takes nothing. -/
theorem run_peek_bind (f : Token → Rule β) (s : TokenStream) :
    (peek >>= f).run s = (f s.current).run s := rfl

theorem run_token_bind (f : Token → Rule β) (s : TokenStream) :
    (token >>= f).run s = (f s.current).run s.advance := rfl

theorem run_expect (kind : TokenKind) (s : TokenStream) :
    (expect kind).run s =
      if s.current.kind = kind then (.ok s.current, s.advance)
      else (.error ⟨s.current.position, .mismatched s.current.display [kind]⟩, s) := by
  rw [expect, run_peek_bind]
  split <;> rfl

theorem run_expect_push {kind : TokenKind} (t : Tok kind) (ts : List Token) (s : TokenStream) :
    (expect kind).run (s.push (t.1 :: ts)) = (.ok t.1, s.push ts) := by
  rw [run_expect, TokenStream.current_push_cons, if_pos t.2, TokenStream.advance_push_cons]

/-- A token of a fixed kind is read as itself. -/
theorem expect_reads {kind : TokenKind} (hkind : kind ≠ .eof) :
    Reads (expect kind) (fun t : Tok kind => [t.1]) Subtype.val (fun _ => True)
      (fun _ => True) where
  sound {s later a} h := by
    rw [run_expect] at h
    split at h
    · rename_i hk
      obtain ⟨rfl, rfl⟩ := mk_ok_inj h
      exact ⟨⟨s.current, hk⟩, trivial, rfl, TokenStream.eq_push_current (hk ▸ hkind)⟩
    · cases (Prod.mk.inj h).1
  complete {t later} _ _ := run_expect_push t [] later

/-! ### The loop -/

section Loop

variable {separator : TokenKind} {item : Rule α} {tokens : T → List Token} {value : T → α}
  {allowed : T → Prop} {ends : TokenKind → Prop}

/-- What the loop takes is a row of trees, each behind a separator. -/
theorem manyAfterRun_sound (hitem : Reads item tokens value allowed ends)
    {s later : TokenStream} {as : List α} (h : manyAfterRun separator item s = (.ok as, later)) :
    ∃ more : List (Tok separator × T), (∀ p ∈ more, allowed p.2) ∧
      more.map (fun p => value p.2) = as ∧
      s = later.push (more.flatMap fun p => p.1.1 :: tokens p.2) := by
  fun_induction manyAfterRun separator item s generalizing as later with
  | case1 s hnil | case5 s t ts hcons hk =>
      obtain ⟨rfl, rfl⟩ := mk_ok_inj h
      exact ⟨[], by simp, rfl, rfl⟩
  | case2 s t ts hcons hk e later' hi => cases (Prod.mk.inj h).1
  | case3 s t ts hcons hk a middle hi rest last hrest ih =>
      obtain ⟨rfl, rfl⟩ := mk_ok_inj h
      obtain ⟨tree, hallowed, rfl, hadvance⟩ := hitem.sound hi
      obtain ⟨more, hmore, rfl, hmid⟩ := ih hrest
      refine ⟨(⟨t, hk⟩, tree) :: more, ?_, rfl, ?_⟩
      · intro p hp
        rcases List.mem_cons.mp hp with rfl | hp
        · exact hallowed
        · exact hmore p hp
      · rw [TokenStream.eq_push_of_tokens hcons, hadvance, hmid, TokenStream.push_push,
          TokenStream.push_push, List.flatMap_cons, List.append_assoc]
        rfl
  | case4 s t ts hcons hk a middle hi e last hrest ih => cases (Prod.mk.inj h).1

/-- Without a separator in front the loop takes nothing. -/
theorem manyAfterRun_of_ne (item : Rule α) {s : TokenStream} (h : s.current.kind ≠ separator) :
    manyAfterRun separator item s = (.ok [], s) := by
  rw [manyAfterRun]
  split
  · rfl
  · rename_i t ts hcons
    have ht : s.current = t := by rw [TokenStream.current, hcons, List.headD_cons]
    rw [if_neg (ht ▸ h)]

/-- With a separator in front the loop reads an item and goes on behind it. -/
theorem manyAfterRun_of_item {mark : Tok separator} {ts : List Token}
    {s later last : TokenStream} {a : α} {as : List α}
    (hitem : item.run (s.push ts) = (.ok a, later))
    (hrest : manyAfterRun separator item later = (.ok as, last)) :
    manyAfterRun separator item (s.push (mark.1 :: ts)) = (.ok (a :: as), last) := by
  rw [manyAfterRun]
  split
  · rename_i hnil; cases hnil
  · rename_i t ts' hcons
    obtain ⟨rfl, -⟩ := List.cons.inj hcons
    rw [if_pos mark.2]
    split
    · rename_i e later' hi
      rw [TokenStream.advance_push_cons, hitem] at hi
      cases hi
    · rename_i a' later' hi
      rw [TokenStream.advance_push_cons, hitem] at hi
      obtain ⟨rfl, rfl⟩ := mk_ok_inj hi
      rw [hrest]

/-- Behind a tree stands another separator, or what is behind them all. -/
theorem ends_push_more (tokens : T → List Token) (hsep : ends separator) {later : TokenStream}
    (hlater : ends later.current.kind) (more : List (Tok separator × T)) :
    ends (later.push (more.flatMap fun p => p.1.1 :: tokens p.2)).current.kind := by
  cases more with
  | nil => exact hlater
  | cons p more =>
      rw [List.flatMap_cons, List.cons_append, TokenStream.current_push_cons, p.1.2]
      exact hsep

theorem manyAfterRun_complete (hitem : Reads item tokens value allowed ends)
    (hsep : ends separator) {later : TokenStream} (hlater : ends later.current.kind)
    (hne : later.current.kind ≠ separator) {more : List (Tok separator × T)}
    (hall : ∀ p ∈ more, allowed p.2) :
    manyAfterRun separator item (later.push (more.flatMap fun p => p.1.1 :: tokens p.2)) =
      (.ok (more.map fun p => value p.2), later) := by
  induction more with
  | nil => exact manyAfterRun_of_ne item hne
  | cons p more ih =>
      have hrest := ih fun q hq => hall q (List.mem_cons_of_mem _ hq)
      have hrun := hitem.complete (hall p List.mem_cons_self)
        (ends_push_more tokens hsep hlater more)
      rw [TokenStream.push_push] at hrun
      rw [List.flatMap_cons, List.cons_append]
      exact manyAfterRun_of_item hrun hrest

/-- A row of items is read as a chain, which no further separator follows. -/
theorem Reads.separatedBy (hitem : Reads item tokens value allowed ends)
    (hsep : ends separator) :
    Reads (Rule.separatedBy separator item) (Chain.yield tokens)
      (fun c : Chain separator T => c.items.map value) (fun c => ∀ t ∈ c.items, allowed t)
      (fun k => ends k ∧ k ≠ separator) where
  sound {s last as} h := by
    obtain ⟨a, later, hfirst, h⟩ := run_bind_ok.mp h
    obtain ⟨rest, last', hrest, h⟩ := run_bind_ok.mp h
    obtain ⟨rfl, rfl⟩ := mk_ok_inj h
    obtain ⟨tree, hallowed, rfl, rfl⟩ := hitem.sound hfirst
    obtain ⟨more, hmore, rfl, rfl⟩ := manyAfterRun_sound hitem hrest
    refine ⟨Chain.link tree more, ?_, ?_, ?_⟩
    · intro t ht
      rw [Chain.items_link] at ht
      rcases List.mem_cons.mp ht with rfl | ht
      · exact hallowed
      · obtain ⟨p, hp, rfl⟩ := List.mem_map.mp ht
        exact hmore p hp
    · rw [Chain.items_link, List.map_cons, List.map_map]; rfl
    · rw [Chain.yield_link, TokenStream.push_push]
  complete {c later} hall hends := by
    obtain ⟨tree, more, rfl⟩ := c.exists_link
    rw [Chain.items_link] at hall
    have hmore : ∀ p ∈ more, allowed p.2 := fun p hp =>
      hall p.2 (List.mem_cons_of_mem _ (List.mem_map_of_mem hp))
    have hfirst := hitem.complete (hall tree List.mem_cons_self)
      (ends_push_more tokens hsep hends.1 more)
    have hrest := manyAfterRun_complete hitem hsep hends.1 hends.2 hmore
    rw [Chain.yield_link, ← TokenStream.push_push]
    refine run_bind_ok.mpr ⟨_, _, hfirst, run_bind_ok.mpr ⟨_, _, hrest, ?_⟩⟩
    rw [run_pure, Chain.items_link, List.map_cons, List.map_map]
    rfl

end Loop

/-- What is made of the result of a rule is made of the value of the tree. -/
theorem Reads.map {r : Rule α} {tokens : T → List Token} {value : T → α} {allowed : T → Prop}
    {ends : TokenKind → Prop} (h : Reads r tokens value allowed ends) (f : α → β) :
    Reads (r >>= fun a => pure (f a)) tokens (fun t => f (value t)) allowed ends where
  sound {s later b} hrun := by
    obtain ⟨a, middle, hr, hp⟩ := run_bind_ok.mp hrun
    obtain ⟨rfl, rfl⟩ := mk_ok_inj hp
    obtain ⟨t, hallowed, rfl, hs⟩ := h.sound hr
    exact ⟨t, hallowed, rfl, hs⟩
  complete {t later} hallowed hends :=
    run_bind_ok.mpr ⟨_, _, h.complete hallowed hends, rfl⟩

/-- The same values, the same trees, and at most the same ends. -/
theorem Reads.congr {r : Rule α} {tokens : T → List Token} {value value' : T → α}
    {allowed allowed' : T → Prop} {ends ends' : TokenKind → Prop}
    (h : Reads r tokens value allowed ends) (hvalue : ∀ t, value t = value' t)
    (hallowed : ∀ t, allowed t ↔ allowed' t) (hends : ∀ k, ends' k → ends k) :
    Reads r tokens value' allowed' ends' where
  sound {s later a} hrun := by
    obtain ⟨t, ht, rfl, hs⟩ := h.sound hrun
    exact ⟨t, (hallowed t).mp ht, (hvalue t).symm, hs⟩
  complete {t later} ht hk := by
    rw [← hvalue t]
    exact h.complete ((hallowed t).mpr ht) (hends _ hk)

end Rule

namespace Grammar

open Rule EntityFilter.Derivation

theorem path_reads :
    Reads path Names.yield Names.path (fun _ => True) (fun k => k ≠ .arrow) := by
  have hname : Reads (expect .name) _ _ _ _ := expect_reads (by decide)
  refine ((hname.separatedBy trivial).map fun names => (⟨names.map Token.value⟩ : Path)).congr
    (fun names => ?_) (fun names => ?_) (fun k hk => ⟨trivial, hk⟩)
  · rw [Names.path, List.map_map]; rfl
  · exact ⟨fun _ => trivial, fun _ _ _ => trivial⟩

/-! ### Values -/

/-- The token denotes a value. -/
def Denotes (t : Token) : Prop :=
  ∃ value, Literal.ofToken t = .ok value

theorem literalOf_eq {t : Token} {value : Literal} (h : Literal.ofToken t = .ok value) :
    Derivation.literalOf t = value := by
  rw [Derivation.literalOf, h]

theorem run_literalOf (kinds : List TokenKind) (s : TokenStream) :
    (literalOf kinds).run s =
      if s.current.kind ∈ kinds then
        match Literal.ofToken s.current with
        | .ok value    => (.ok value, s.advance)
        | .error cause => (.error ⟨s.current.position, cause⟩, s.advance)
      else (.error ⟨s.current.position, .mismatched s.current.display kinds⟩, s) := by
  rw [literalOf, run_peek_bind]
  split
  · rw [run_token_bind]
    cases Literal.ofToken s.current <;> rfl
  · rfl

theorem literalOf_reads {kinds : List TokenKind} (hkinds : .eof ∉ kinds) :
    Reads (literalOf kinds) (fun t : { t : Token // t.kind ∈ kinds } => [t.1])
      (fun t => Derivation.literalOf t.1) (fun t => Denotes t.1) (fun _ => True) where
  sound {s later a} h := by
    rw [run_literalOf] at h
    split at h
    · rename_i hk
      split at h
      · rename_i value hvalue
        obtain ⟨rfl, rfl⟩ := mk_ok_inj h
        have hne : s.current.kind ≠ .eof := fun he => hkinds (he ▸ hk)
        exact ⟨⟨s.current, hk⟩, ⟨_, hvalue⟩, literalOf_eq hvalue,
          TokenStream.eq_push_current hne⟩
      · cases (Prod.mk.inj h).1
    · cases (Prod.mk.inj h).1
  complete {t later} hdenotes _ := by
    obtain ⟨value, hvalue⟩ := hdenotes
    rw [run_literalOf, TokenStream.current_push_cons, if_pos t.2, hvalue, literalOf_eq hvalue]
    rfl

theorem element_reads :
    Reads (literalOf Literal.listKinds) (fun e : Element => [e.1])
      (fun e => Derivation.literalOf e.1) (fun e => Denotes e.1) (fun _ => True) :=
  literalOf_reads (by decide)

theorem value_reads :
    Reads value (fun t : Scalar => [t.1]) (fun t => Derivation.literalOf t.1)
      (fun t => Denotes t.1) (fun _ => True) :=
  literalOf_reads (by decide)

/-- An element is a number or a reference exactly if its token says so. -/
theorem isNumeric_literalOf {e : Element} (h : Denotes e.1) :
    (Derivation.literalOf e.1).isNumeric = decide (e.1.kind ∈ [TokenKind.number, .ref]) := by
  obtain ⟨value, hvalue⟩ := h
  rw [literalOf_eq hvalue]
  obtain ⟨t, ht⟩ := e
  simp only [List.mem_cons, List.not_mem_nil, or_false] at ht
  simp only [Literal.ofToken] at hvalue
  rcases ht with ht | ht | ht | ht | ht <;> simp only [ht] at hvalue ⊢
  case inr.inr.inr.inr =>
    cases hint : Text.int64? t.value.toList <;> rw [hint] at hvalue <;> cases hvalue
    rfl
  all_goals obtain rfl := Except.ok.inj hvalue; rfl

/-- The elements of a list denote values, all numbers and references or all texts. -/
def AdmittedList (list : Elements) : Prop :=
  (∀ e ∈ list.elements.items, Denotes e.1) ∧ list.Homogeneous

/-- An element that is no number and no reference is a text. -/
theorem kind_mem_texts_iff (e : Element) :
    e.1.kind ∈ [TokenKind.str, .inStr, .uri] ↔ e.1.kind ∉ [TokenKind.number, .ref] := by
  obtain ⟨t, ht⟩ := e
  simp only [List.mem_cons, List.not_mem_nil, or_false] at ht
  rcases ht with ht | ht | ht | ht | ht <;> simp [ht]

theorem homogeneous_iff {opening : Tok .openParen} {first : Element}
    {more : List (Tok .comma × Element)} {closing : Tok .closeParen} (hfirst : Denotes first.1)
    (hmore : ∀ p ∈ more, Denotes p.2.1) :
    (⟨opening, Chain.link first more, closing⟩ : Elements).Homogeneous ↔
      ∀ p ∈ more, (Derivation.literalOf p.2.1).isNumeric =
        (Derivation.literalOf first.1).isNumeric := by
  have hnum : ∀ p ∈ more, ((Derivation.literalOf p.2.1).isNumeric =
      (Derivation.literalOf first.1).isNumeric ↔ (p.2.1.kind ∈ [TokenKind.number, .ref] ↔
        first.1.kind ∈ [TokenKind.number, .ref])) := fun p hp => by
    rw [isNumeric_literalOf hfirst, isNumeric_literalOf (hmore p hp), decide_eq_decide]
  simp only [Elements.Homogeneous, Chain.items_link, List.forall_mem_cons, kind_mem_texts_iff,
    List.forall_mem_map]
  constructor
  · rintro (⟨h, hall⟩ | ⟨h, hall⟩) p hp
    · exact (hnum p hp).mpr (iff_of_true (hall p hp) h)
    · exact (hnum p hp).mpr (iff_of_false (hall p hp) h)
  · intro hall
    by_cases h : first.1.kind ∈ [TokenKind.number, .ref]
    · exact .inl ⟨h, fun p hp => ((hnum p hp).mp (hall p hp)).mpr h⟩
    · exact .inr ⟨h, fun p hp => mt ((hnum p hp).mp (hall p hp)).mp h⟩

theorem elementAfter_reads (first : Literal) :
    Reads (elementAfter first) (fun e : Element => [e.1]) (fun e => Derivation.literalOf e.1)
      (fun e => Denotes e.1 ∧ (Derivation.literalOf e.1).isNumeric = first.isNumeric)
      (fun _ => True) where
  sound {s later a} h := by
    rw [elementAfter, run_peek_bind] at h
    obtain ⟨element, middle, helement, h⟩ := run_bind_ok.mp h
    obtain ⟨e, hdenotes, rfl, hs⟩ := element_reads.sound helement
    split at h
    · rename_i hnum
      obtain ⟨rfl, rfl⟩ := mk_ok_inj h
      exact ⟨e, ⟨hdenotes, hnum⟩, rfl, hs⟩
    · cases (Prod.mk.inj h).1
  complete {e later} h _ := by
    rw [elementAfter, run_peek_bind]
    refine run_bind_ok.mpr ⟨_, _, element_reads.complete h.1 trivial, ?_⟩
    rw [if_pos h.2, run_pure]

theorem list_reads :
    Reads list Elements.yield Elements.values AdmittedList (fun _ => True) where
  sound {s last values} h := by
    obtain ⟨o, s₁, hopening, h⟩ := run_bind_ok.mp h
    obtain ⟨first, s₂, hfirst, h⟩ := run_bind_ok.mp h
    obtain ⟨rest, s₃, hrest, h⟩ := run_bind_ok.mp h
    obtain ⟨c, s₄, hclosing, h⟩ := run_bind_ok.mp h
    obtain ⟨rfl, rfl⟩ := mk_ok_inj h
    obtain ⟨opening, -, -, rfl⟩ := (expect_reads (by decide)).sound hopening
    obtain ⟨e, hdenotes, rfl, rfl⟩ := element_reads.sound hfirst
    obtain ⟨more, hmore, rfl, rfl⟩ := manyAfterRun_sound (elementAfter_reads _) hrest
    obtain ⟨closing, -, -, rfl⟩ := (expect_reads (by decide)).sound hclosing
    refine ⟨⟨opening, Chain.link e more, closing⟩, ⟨?_, ?_⟩, ?_, ?_⟩
    · simp only [Chain.items_link, List.forall_mem_cons, List.forall_mem_map]
      exact ⟨hdenotes, fun p hp => (hmore p hp).1⟩
    · rw [homogeneous_iff hdenotes fun p hp => (hmore p hp).1]
      exact fun p hp => (hmore p hp).2
    · simp only [Elements.values, Chain.items_link, List.map_cons, List.map_map]; rfl
    · simp only [TokenStream.push_push, Elements.yield, Chain.yield_link, List.cons_append,
        List.nil_append]
  complete {elements later} h _ := by
    obtain ⟨opening, chain, closing⟩ := elements
    obtain ⟨first, more, rfl⟩ := chain.exists_link
    obtain ⟨hdenotes, hhom⟩ := h
    simp only [Chain.items_link, List.forall_mem_cons, List.forall_mem_map] at hdenotes
    rw [homogeneous_iff hdenotes.1 hdenotes.2] at hhom
    -- the loop ends at the parenthesis
    have hcomma : (later.push [closing.1]).current.kind ≠ .comma := by
      rw [TokenStream.current_push_cons, closing.2]; decide
    have hrest := manyAfterRun_complete (elementAfter_reads (Derivation.literalOf first.1)) trivial
      trivial hcomma fun p hp => ⟨hdenotes.2 p hp, hhom p hp⟩
    simp only [Elements.yield, Chain.yield_link, List.cons_append, List.nil_append]
    refine run_bind_ok.mpr ⟨_, _, run_expect_push opening _ later, ?_⟩
    rw [← List.singleton_append, ← TokenStream.push_push, ← TokenStream.push_push]
    refine run_bind_ok.mpr ⟨_, _, element_reads.complete hdenotes.1 trivial, ?_⟩
    refine run_bind_ok.mpr ⟨_, _, hrest, ?_⟩
    refine run_bind_ok.mpr ⟨_, _, run_expect_push closing [] later, ?_⟩
    simp only [run_pure, Elements.values, Chain.items_link, List.map_cons, List.map_map]
    rfl

/-! ### Terms and conditions -/

/-- The values in a term are admitted, where `inner` is asked of a condition in parentheses. -/
def AdmittedTerm (inner : Any → Prop) : Term → Prop
  | .group _ c _          => inner c
  | .compare _ _ value    => Denotes value.1
  | .member _ _ list      => AdmittedList list
  | .missing _ _ | .has _ => True

/-- The values in a condition are admitted, and parentheses nest less than `levels` deep. -/
def AdmittedAny : Nat → Any → Prop
  | 0,          _ => False
  | levels + 1, c => ∀ a ∈ c.items, ∀ t ∈ a.items, AdmittedTerm (AdmittedAny levels) t

section Terms

variable {nested : Rule Expr} {inner : Any → Prop}

theorem term_sound (hnested : Reads nested yieldAny exprAny inner EndsAny)
    {s last : TokenStream} {e : Expr} (h : (term nested).run s = (.ok e, last)) :
    ∃ t, AdmittedTerm inner t ∧ t.expr = e ∧ s = last.push t.yield := by
  rw [term, run_peek_bind] at h
  -- the first token tells a group, a negation and a path apart
  split at h
  · rename_i hk
    obtain ⟨e', s₁, hinner, h₁⟩ := run_bind_ok.mp (run_token_bind _ s ▸ h)
    obtain ⟨c, s₂, hclosing, h₂⟩ := run_bind_ok.mp h₁
    obtain ⟨rfl, rfl⟩ := mk_ok_inj h₂
    obtain ⟨condition, hcondition, rfl, hadvance⟩ := hnested.sound hinner
    obtain ⟨closing, -, -, rfl⟩ := (expect_reads (by decide)).sound hclosing
    refine ⟨.group ⟨s.current, hk⟩ condition closing, hcondition, by rw [Term.expr]; rfl, ?_⟩
    rw [Term.yield]
    rw [TokenStream.push_push] at hadvance
    exact TokenStream.eq_push_of_advance (by simp [hk]) hadvance
  · rename_i hk
    obtain ⟨p, s₁, hpath, h₁⟩ := run_bind_ok.mp (run_token_bind _ s ▸ h)
    obtain ⟨rfl, rfl⟩ := mk_ok_inj h₁
    obtain ⟨names, -, rfl, hadvance⟩ := path_reads.sound hpath
    refine ⟨.missing ⟨s.current, hk⟩ names, trivial, by rw [Term.expr], ?_⟩
    rw [Term.yield]
    exact TokenStream.eq_push_of_advance (by simp [hk]) hadvance
  · obtain ⟨p, s₁, hpath, h₁⟩ := run_bind_ok.mp h
    obtain ⟨names, -, rfl, rfl⟩ := path_reads.sound hpath
    rw [run_peek_bind] at h₁
    -- the token behind the path tells what is asked
    split at h₁
    · rename_i op hop
      obtain ⟨v, s₂, hvalue, h₂⟩ := run_bind_ok.mp (run_token_bind _ s₁ ▸ h₁)
      obtain ⟨rfl, rfl⟩ := mk_ok_inj h₂
      obtain ⟨value, hdenotes, rfl, hadvance⟩ := value_reads.sound hvalue
      refine ⟨.compare names ⟨op, s₁.current, hop⟩ value, hdenotes, by rw [Term.expr], ?_⟩
      rw [Term.yield, ← TokenStream.push_push]
      exact congrArg _ (TokenStream.eq_push_of_advance (by simp [hop]) hadvance)
    · rename_i hk
      obtain ⟨vs, s₂, hrun, h₂⟩ := run_bind_ok.mp (run_token_bind _ s₁ ▸ h₁)
      obtain ⟨rfl, rfl⟩ := mk_ok_inj h₂
      obtain ⟨list, hlist, rfl, hadvance⟩ := list_reads.sound hrun
      refine ⟨.member names ⟨s₁.current, hk⟩ list, hlist, by rw [Term.expr], ?_⟩
      rw [Term.yield, ← TokenStream.push_push]
      exact congrArg _ (TokenStream.eq_push_of_advance (by simp [hk]) hadvance)
    · obtain ⟨rfl, rfl⟩ := mk_ok_inj h₁
      exact ⟨.has names, trivial, by rw [Term.expr], by rw [Term.yield]⟩
  · cases (Prod.mk.inj h).1
  · cases (Prod.mk.inj h).1
  · cases (Prod.mk.inj h).1

theorem current_push_names (names : Names) (ts : List Token) (s : TokenStream) :
    (s.push (names.yield ++ ts)).current.kind = .name := by
  obtain ⟨name, rest, hnames⟩ := names.exists_yield
  rw [hnames, List.cons_append, TokenStream.current_push_cons, name.2]

/-- A term that starts with a path: the path is read, and then what is asked. -/
theorem run_term_names (nested : Rule Expr) {names : Names} {s : TokenStream}
    (hs : s.current.kind ≠ .arrow) :
    (term nested).run (s.push names.yield) =
      (match s.current.kind with
        | .comparison op => do
          let _ ← token
          let v ← value
          pure (.compare names.path op v)
        | .member => do
          let _ ← token
          let vs ← list
          pure (.member names.path vs)
        | _ => pure (.has names.path) : Rule Expr).run s := by
  have hname := current_push_names names [] s
  rw [List.append_nil] at hname
  rw [term, run_peek_bind, hname]
  rw [run_bind, path_reads.complete trivial hs]
  rfl

theorem term_complete (hnested : Reads nested yieldAny exprAny inner EndsAny) {t : Term}
    {later : TokenStream} (ht : AdmittedTerm inner t) (hends : EndsTerm later.current.kind) :
    (term nested).run (later.push t.yield) = (.ok t.expr, later) := by
  cases t with
  | group opening condition closing =>
      have hclosing : EndsAny (later.push [closing.1]).current.kind := by
        rw [TokenStream.current_push_cons, closing.2]; simp [EndsAny, EndsAll, EndsTerm]
      rw [Term.yield, Term.expr, term, run_peek_bind, TokenStream.current_push_cons, opening.2]
      rw [run_token_bind, TokenStream.advance_push_cons, ← TokenStream.push_push]
      refine run_bind_ok.mpr ⟨_, _, hnested.complete ht hclosing, ?_⟩
      exact run_bind_ok.mpr ⟨_, _, run_expect_push closing [] later, rfl⟩
  | missing word names =>
      rw [Term.yield, Term.expr, term, run_peek_bind, TokenStream.current_push_cons, word.2]
      rw [run_token_bind, TokenStream.advance_push_cons]
      exact run_bind_ok.mpr ⟨_, _, path_reads.complete trivial hends.1, rfl⟩
  | compare names operator scalar =>
      have hop := operator.token.2
      rw [Term.yield, Term.expr, ← TokenStream.push_push, run_term_names nested (by
        rw [TokenStream.current_push_cons, hop]; simp), TokenStream.current_push_cons, hop]
      rw [run_token_bind, TokenStream.advance_push_cons]
      exact run_bind_ok.mpr ⟨_, _, value_reads.complete ht trivial, rfl⟩
  | member names word elements =>
      rw [Term.yield, Term.expr, ← TokenStream.push_push, run_term_names nested (by
        rw [TokenStream.current_push_cons, word.2]; simp), TokenStream.current_push_cons, word.2]
      rw [run_token_bind, TokenStream.advance_push_cons]
      exact run_bind_ok.mpr ⟨_, _, list_reads.complete ht trivial, rfl⟩
  | has names =>
      rw [Term.yield, Term.expr, run_term_names nested hends.1]
      split
      · rename_i op hop; exact absurd hop (hends.2.2 op)
      · rename_i hk; exact absurd hk hends.2.1
      · rfl

theorem all_reads (hnested : Reads nested yieldAny exprAny inner EndsAny) :
    Reads (all nested) yieldAll exprAll (fun a => ∀ t ∈ a.items, AdmittedTerm inner t) EndsAll := by
  have hterm : Reads (term nested) Term.yield Term.expr (AdmittedTerm inner) EndsTerm :=
    ⟨term_sound hnested, term_complete hnested⟩
  have hchain : Reads (separatedBy .and (term nested)) _ _ _ _ :=
    hterm.separatedBy (by simp [EndsTerm])
  rw [← funext yieldAll_eq] at hchain
  exact (hchain.map (collapse .and)).congr (fun a => by rw [exprAll, exprsAll_eq])
    (fun _ => Iff.rfl) (fun _ hk => hk)

end Terms

/-- **A rule for conditions reads the conditions** whose parentheses nest less deep than it has
levels left. -/
theorem condition_reads (levels : Nat) :
    Reads (condition levels) yieldAny exprAny (AdmittedAny levels) EndsAny := by
  induction levels with
  | zero =>
      refine ⟨fun h => ?_, fun h => h.elim⟩
      cases (Prod.mk.inj h).1
  | succ levels ih =>
      -- a condition in parentheses has one level less, which is what the hypothesis is about
      have hchain : Reads (separatedBy .or (all (condition levels))) _ _ _ _ :=
        (all_reads ih).separatedBy (by simp [EndsAll, EndsTerm])
      rw [← funext yieldAny_eq] at hchain
      exact (hchain.map (collapse .or)).congr (fun c => by rw [exprAny, exprsAny_eq])
        (fun _ => Iff.rfl) (fun _ hk => hk)

/-! ### The bounds -/

/-- Each of the tokens that stands for a value denotes one. -/
def AllDenote (ts : List Token) : Prop :=
  ∀ t ∈ ts, t.kind ∈ Literal.scalarKinds ∨ t.kind ∈ Literal.listKinds → Denotes t

theorem AllDenote.mono {ts us : List Token} (h : AllDenote us) (hsub : ts ⊆ us) : AllDenote ts :=
  fun t ht => h t (hsub ht)

theorem admittedList_iff {list : Elements} (h : AllDenote list.yield) :
    AdmittedList list ↔ list.Homogeneous := by
  refine and_iff_right fun e he => h e.1 ?_ (.inr e.2)
  have hmem : e.1 ∈ list.elements.yield fun e : Element => [e.1] :=
    Chain.mem_yield he (List.mem_singleton_self _)
  rw [Elements.yield]
  exact List.mem_cons_of_mem _ (List.mem_append_left _ hmem)

theorem admittedTerm_iff {inner : Any → Prop} {levels : Nat} {t : Term} (h : AllDenote t.yield)
    (hinner : ∀ c, AllDenote (yieldAny c) →
      (inner c ↔ nestingAny c < levels ∧ ∀ list ∈ listsAny c, list.Homogeneous)) :
    AdmittedTerm inner t ↔ t.nesting < levels + 1 ∧ ∀ list ∈ t.lists, list.Homogeneous := by
  cases t with
  | group opening c closing =>
      rw [AdmittedTerm, Term.nesting, Term.lists, Nat.succ_lt_succ_iff]
      rw [Term.yield] at h
      exact hinner c (h.mono fun t ht => List.mem_cons_of_mem _ (List.mem_append_left _ ht))
  | compare names operator value =>
      rw [Term.yield] at h
      have hdenotes : Denotes value.1 := h value.1 (by simp) (.inl value.2)
      simp [AdmittedTerm, Term.nesting, Term.lists, hdenotes]
  | member names word list =>
      rw [Term.yield] at h
      have hlist : AllDenote list.yield :=
        h.mono fun t ht => List.mem_append_right _ (List.mem_cons_of_mem _ ht)
      simp [AdmittedTerm, Term.nesting, Term.lists, admittedList_iff hlist]
  | missing word names | has names => simp [AdmittedTerm, Term.nesting, Term.lists]

/-- What the rule for conditions admits are the two bounds, if all values denote. -/
theorem admittedAny_iff {levels : Nat} {c : Any} (h : AllDenote (yieldAny c)) :
    AdmittedAny levels c ↔ nestingAny c < levels ∧ ∀ list ∈ listsAny c, list.Homogeneous := by
  induction levels generalizing c with
  | zero => simp [AdmittedAny]
  | succ levels ih =>
      have hterm : ∀ a ∈ c.items, ∀ t ∈ a.items, (AdmittedTerm (AdmittedAny levels) t ↔
          t.nesting < levels + 1 ∧ ∀ list ∈ t.lists, list.Homogeneous) := by
        intro a ha t ht
        refine admittedTerm_iff (h.mono fun tok htok => ?_) fun c hc => ih hc
        rw [yieldAny_eq]
        refine Chain.mem_yield ha ?_
        rw [yieldAll_eq]
        exact Chain.mem_yield ht htok
      simp only [AdmittedAny, nestingAny_lt_iff, nestingAll_lt_iff]
      constructor
      · intro hall
        refine ⟨fun a ha t ht => ((hterm a ha t ht).mp (hall a ha t ht)).1, fun list hlist => ?_⟩
        obtain ⟨a, ha, hlist⟩ := mem_listsAny.mp hlist
        obtain ⟨t, ht, hlist⟩ := mem_listsAll.mp hlist
        exact ((hterm a ha t ht).mp (hall a ha t ht)).2 list hlist
      · rintro ⟨hnest, hlists⟩ a ha t ht
        refine (hterm a ha t ht).mpr ⟨hnest a ha t ht, fun list hlist => hlists list ?_⟩
        exact mem_listsAny.mpr ⟨a, ha, mem_listsAll.mpr ⟨t, ht, hlist⟩⟩

/-! ### Whole filters -/

theorem run_expression_ok {levels : Nat} {s last : TokenStream} {e : Expr} :
    (expression levels).run s = (.ok e, last) ↔
      (condition levels).run s = (.ok e, last) ∧ last.current.kind = .eof := by
  rw [expression, run_bind_ok]
  constructor
  · rintro ⟨e', later, hcondition, h⟩
    rw [run_peek_bind] at h
    split at h
    · rename_i hk
      obtain ⟨rfl, rfl⟩ := mk_ok_inj h
      exact ⟨hcondition, hk⟩
    · cases (Prod.mk.inj h).1
  · rintro ⟨hcondition, hk⟩
    refine ⟨e, last, hcondition, ?_⟩
    rw [run_peek_bind, if_pos hk, run_pure]

/-- **A filter is read exactly if it is derived within the bounds.** -/
theorem expression_ok_iff {levels : Nat} {s : TokenStream} {e : Expr}
    (heof : ∀ t ∈ s.tokens, t.kind ≠ .eof) (hdenote : AllDenote s.tokens) :
    ((expression levels).run s).1 = .ok e ↔
      ∃ d : Derivation, d.yield = s.toList ∧ d.nesting < levels ∧ d.Homogeneous ∧ d.expr = e := by
  constructor
  · intro h
    obtain ⟨hcondition, hk⟩ := run_expression_ok.mp (Prod.ext h rfl)
    obtain ⟨c, hadmitted, rfl, hs⟩ := (condition_reads levels).sound hcondition
    have htokens : s.tokens = yieldAny c ++ ((expression levels).run s).2.tokens :=
      congrArg TokenStream.tokens hs
    -- the mark of the end is never among the tokens: where it is seen, there are none left
    have hend : ((expression levels).run s).2.tokens = [] :=
      TokenStream.tokens_eq_nil hk fun t ht =>
        heof t (htokens ▸ List.mem_append_right (yieldAny c) ht)
    rw [hend, List.append_nil] at htokens
    rw [admittedAny_iff (htokens ▸ hdenote)] at hadmitted
    refine ⟨⟨c, s.eof, rfl⟩, ?_, hadmitted.1, hadmitted.2, rfl⟩
    rw [Derivation.yield, TokenStream.toList, htokens]
  · rintro ⟨⟨c, eof⟩, hyield, hnesting, hlists, rfl⟩
    obtain ⟨htokens, -⟩ := List.append_inj' hyield rfl
    have hadmitted : AdmittedAny levels c :=
      (admittedAny_iff (htokens ▸ hdenote)).mpr ⟨hnesting, hlists⟩
    let last : TokenStream := ⟨[], s.endsAt⟩
    have hs : s = last.push (yieldAny c) := by
      rw [TokenStream.push, htokens, List.append_nil]
    have hlast : EndsAny last.current.kind := by
      simp [last, TokenStream.current, TokenStream.eof, EndsAny, EndsAll, EndsTerm]
    have hcondition := (condition_reads levels).complete hadmitted hlast
    rw [← hs] at hcondition
    rw [run_expression_ok.mpr ⟨hcondition, rfl⟩, Derivation.expr]

end Grammar

/-- **The parser accepts exactly the derivations within its bounds.** -/
theorem Parser.next_eq_ok_iff {p : Parser} {e : Expr} (heof : ∀ t ∈ p.stream.tokens, t.kind ≠ .eof)
    (hdenote : Grammar.AllDenote p.stream.tokens) :
    p.next.1 = .ok e ↔ ∃ d : Derivation, d.yield = p.stream.toList ∧
      d.nesting < maxNesting - p.depth ∧ d.Homogeneous ∧ d.expr = e := by
  rw [← Grammar.expression_ok_iff heof hdenote, Parser.next]
  split <;> rename_i hrun <;> simp only [hrun]

/-! ### Filters that are read from a text -/

theorem Grammar.denotes_of_fits {t : Token} (h : t.kind.Fits t.value)
    (hk : t.kind ∈ Literal.scalarKinds ∨ t.kind ∈ Literal.listKinds) : Denotes t := by
  obtain ⟨kind, value, position⟩ := t
  rw [Denotes, Literal.ofToken]
  cases kind with
  | ref =>
      obtain ⟨n, hn⟩ := Option.isSome_iff_exists.mp h
      exact ⟨.ref n, by simp only [hn]; rfl⟩
  | date =>
      obtain ⟨d, hd⟩ := Option.isSome_iff_exists.mp h
      exact ⟨.date d, by simp only [hd]; rfl⟩
  | time =>
      obtain ⟨d, hd⟩ := Option.isSome_iff_exists.mp h
      exact ⟨.time d, by simp only [hd]; rfl⟩
  | bool | str | inStr | uri | number | dateTime => exact ⟨_, rfl⟩
  | name | and | or | not | member | comparison _ | arrow | openParen | closeParen | comma | eof =>
      simp [Literal.scalarKinds, Literal.listKinds] at hk

/-- The tokens of a text denote what they have to, and none of them is the mark of the end. -/
theorem tokens_of_tokenize {text : String} {s : TokenStream} (h : tokenize text = .ok s) :
    (∀ t ∈ s.tokens, t.kind ≠ .eof) ∧ Grammar.AllDenote s.tokens := by
  have hfits := Cursor.fits_of_mem_tokens h
  refine ⟨fun t ht heof => ?_, fun t ht hk => Grammar.denotes_of_fits (hfits t ht) hk⟩
  have := hfits t ht
  rwa [heof] at this

end EntityFilter
