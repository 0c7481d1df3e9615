import EntityFilter.Filter.Parser

/-!
# Derivations of the grammar

The grammar of filters as a type of trees, apart from the rules that read it.  A derivation keeps
its tokens at the leaves, each with the proof that it is of the kind that the grammar has there;
`yield` lists them from left to right, and `expr` is the filter that the derivation stands for.
The bounds that the grammar itself does not express are `nesting` and `Homogeneous`.

**The grammar is unambiguous** (`Derivation.eq_of_yield_eq`).  Two derivations of the same tokens
are equal.  The proof reads two trees side by side (`Decodes`): if the same tokens start with the
yield of either, and what is left of them could not go on either tree, then the trees are the
same and so is what is left.  Which tokens cannot go on a tree is said by `EndsTerm`, `EndsAll`
and `EndsAny`.
-/

namespace EntityFilter

namespace Derivation

/-! ### Trees -/

/-- A token of the kind `kind`. -/
abbrev Tok (kind : TokenKind) : Type :=
  { t : Token // t.kind = kind }

/-- One or more of `α`, with tokens of kind `separator` between them. -/
inductive Chain (separator : TokenKind) (α : Type) : Type
  | one (item : α)
  | more (item : α) (mark : Tok separator) (rest : Chain separator α)

/-- `path := NAME ('->' NAME)*` -/
abbrev Names : Type :=
  Chain .arrow (Tok .name)

/-- A token that a comparison accepts as a value. -/
abbrev Scalar : Type :=
  { t : Token // t.kind ∈
    [TokenKind.bool, .ref, .str, .uri, .number, .date, .dateTime, .time] }

/-- A token that a list may hold. -/
abbrev Element : Type :=
  { t : Token // t.kind ∈ [TokenKind.inStr, .str, .uri, .number, .ref] }

/-- The sign of a comparison. -/
structure Operator where
  op : Comparison
  token : Tok (.comparison op)

/-- `list := '(' element (',' element)* ')'` -/
structure Elements where
  opening : Tok .openParen
  elements : Chain .comma Element
  closing : Tok .closeParen

/-- `term := '(' condition ')' | NOT path | path comparison value | path IN list | path` -/
inductive Term : Type
  | group (opening : Tok .openParen) (inner : Chain .or (Chain .and Term))
      (closing : Tok .closeParen)
  | missing (word : Tok .not) (path : Names)
  | compare (path : Names) (operator : Operator) (value : Scalar)
  | member (path : Names) (word : Tok .member) (list : Elements)
  | has (path : Names)

/-- `all := term (AND term)*` -/
abbrev All : Type :=
  Chain .and Term

/-- `condition := all (OR all)*` -/
abbrev Any : Type :=
  Chain .or All

/-! ### The tokens of a tree -/

namespace Chain

variable {separator : TokenKind} {α β : Type}

/-- What stands between the separators. -/
def items : Chain separator α → List α
  | one a         => [a]
  | more a _ rest => a :: rest.items

/-- The tokens of a chain, where `tokens` gives those of its items. -/
def yield (tokens : α → List Token) : Chain separator α → List Token
  | one a            => tokens a
  | more a mark rest => tokens a ++ mark.1 :: rest.yield tokens

/-- A first item, and others behind a separator each. -/
def link (first : α) : List (Tok separator × α) → Chain separator α
  | []                   => one first
  | (mark, next) :: rest => more first mark (link next rest)

@[simp] theorem items_link (first : α) (rest : List (Tok separator × α)) :
    (link first rest).items = first :: rest.map Prod.snd := by
  induction rest generalizing first with
  | nil => rfl
  | cons p rest ih => simp only [link, items, ih, List.map_cons]

@[simp] theorem yield_link (tokens : α → List Token) (first : α)
    (rest : List (Tok separator × α)) :
    (link first rest).yield tokens =
      tokens first ++ rest.flatMap fun p => p.1.1 :: tokens p.2 := by
  induction rest generalizing first with
  | nil => simp only [link, yield, List.flatMap_nil, List.append_nil]
  | cons p rest ih => simp only [link, yield, ih, List.flatMap_cons, List.cons_append]

theorem exists_link (c : Chain separator α) : ∃ first rest, c = link first rest := by
  induction c with
  | one a => exact ⟨a, [], rfl⟩
  | more a mark rest ih =>
      obtain ⟨next, others, rfl⟩ := ih
      exact ⟨a, (mark, next) :: others, rfl⟩

/-- The tokens of an item are tokens of the chain. -/
theorem mem_yield {tokens : α → List Token} {c : Chain separator α} {a : α} {t : Token}
    (ha : a ∈ c.items) (ht : t ∈ tokens a) : t ∈ c.yield tokens := by
  obtain ⟨first, rest, rfl⟩ := c.exists_link
  rw [items_link] at ha
  rw [yield_link, List.mem_append, List.mem_flatMap]
  rcases List.mem_cons.mp ha with rfl | ha
  · exact .inl ht
  · obtain ⟨p, hp, rfl⟩ := List.mem_map.mp ha
    exact .inr ⟨p, hp, List.mem_cons_of_mem _ ht⟩

end Chain

/-- The tokens of a path. -/
def Names.yield (path : Names) : List Token :=
  Chain.yield (fun name => [name.1]) path

/-- The tokens of a list. -/
def Elements.yield (list : Elements) : List Token :=
  list.opening.1 :: (list.elements.yield (fun e => [e.1]) ++ [list.closing.1])

mutual

/-- The tokens of a term. -/
def Term.yield : Term → List Token
  | .group opening inner closing => opening.1 :: (yieldAny inner ++ [closing.1])
  | .missing word path           => word.1 :: path.yield
  | .compare path operator value => path.yield ++ [operator.token.1, value.1]
  | .member path word list       => path.yield ++ word.1 :: list.yield
  | .has path                    => path.yield

/-- The tokens of terms joined by `AND`. -/
def yieldAll : All → List Token
  | .one t            => t.yield
  | .more t mark rest => t.yield ++ mark.1 :: yieldAll rest

/-- The tokens of a condition. -/
def yieldAny : Any → List Token
  | .one a            => yieldAll a
  | .more a mark rest => yieldAll a ++ mark.1 :: yieldAny rest

end

theorem yieldAll_eq (a : All) : yieldAll a = a.yield Term.yield := by
  induction a with
  | one t => simp only [yieldAll, Chain.yield]
  | more t mark rest ih => simp only [yieldAll, Chain.yield, ih]

theorem yieldAny_eq (c : Any) : yieldAny c = c.yield yieldAll := by
  induction c with
  | one a => simp only [yieldAny, Chain.yield]
  | more a mark rest ih => simp only [yieldAny, Chain.yield, ih]

/-! ### The filter of a tree -/

/-- The value that a token denotes.  The texts of tokens of other kinds are values too, so that
every tree has a filter. -/
def literalOf (t : Token) : Literal :=
  match Literal.ofToken t with
  | .ok value => value
  | .error _  => .str t.value

/-- The path of names with arrows between them. -/
def Names.path (names : Names) : Path :=
  ⟨names.items.map fun name => name.1.value⟩

/-- The values of a list. -/
def Elements.values (list : Elements) : List Literal :=
  list.elements.items.map fun e => literalOf e.1

mutual

/-- The filter of a term. -/
def Term.expr : Term → Expr
  | .group _ inner _             => .paren (Grammar.collapse .or (exprsAny inner))
  | .missing _ path              => .missing path.path
  | .compare path operator value => .compare path.path operator.op (literalOf value.1)
  | .member path _ list          => .member path.path list.values
  | .has path                    => .has path.path

/-- The filters that are joined by `AND`. -/
def exprsAll : All → List Expr
  | .one t         => [t.expr]
  | .more t _ rest => t.expr :: exprsAll rest

/-- The filters that are joined by `OR`. -/
def exprsAny : Any → List Expr
  | .one a         => [Grammar.collapse .and (exprsAll a)]
  | .more a _ rest => Grammar.collapse .and (exprsAll a) :: exprsAny rest

end

/-- The filter of terms joined by `AND`; a single one stands for itself. -/
def exprAll (a : All) : Expr :=
  Grammar.collapse .and (exprsAll a)

/-- The filter of a condition; a single alternative stands for itself. -/
def exprAny (c : Any) : Expr :=
  Grammar.collapse .or (exprsAny c)

theorem exprsAll_eq (a : All) : exprsAll a = a.items.map Term.expr := by
  induction a with
  | one t => simp only [exprsAll, Chain.items, List.map_cons, List.map_nil]
  | more t mark rest ih => simp only [exprsAll, Chain.items, ih, List.map_cons]

theorem exprsAny_eq (c : Any) : exprsAny c = c.items.map exprAll := by
  induction c with
  | one a => simp only [exprsAny, Chain.items, exprAll, List.map_cons, List.map_nil]
  | more a mark rest ih => simp only [exprsAny, Chain.items, exprAll, ih, List.map_cons]

/-! ### Bounds -/

mutual

/-- How deep parentheses around conditions nest in a term. -/
def Term.nesting : Term → Nat
  | .group _ inner _ => nestingAny inner + 1
  | _                => 0

/-- How deep parentheses nest in terms joined by `AND`. -/
def nestingAll : All → Nat
  | .one t         => t.nesting
  | .more t _ rest => max t.nesting (nestingAll rest)

/-- How deep parentheses nest in a condition. -/
def nestingAny : Any → Nat
  | .one a         => nestingAll a
  | .more a _ rest => max (nestingAll a) (nestingAny rest)

end

theorem nestingAll_lt_iff {a : All} {n : Nat} :
    nestingAll a < n ↔ ∀ t ∈ a.items, t.nesting < n := by
  induction a with
  | one t => simp [nestingAll, Chain.items]
  | more t mark rest ih => rw [nestingAll, Nat.max_lt, ih, Chain.items, List.forall_mem_cons]

theorem nestingAny_lt_iff {c : Any} {n : Nat} :
    nestingAny c < n ↔ ∀ a ∈ c.items, nestingAll a < n := by
  induction c with
  | one a => simp [nestingAny, Chain.items]
  | more a mark rest ih => rw [nestingAny, Nat.max_lt, ih, Chain.items, List.forall_mem_cons]

/-- The elements are all numbers and references, or all texts. -/
def Elements.Homogeneous (list : Elements) : Prop :=
  (∀ e ∈ list.elements.items, e.1.kind ∈ [TokenKind.number, .ref]) ∨
  (∀ e ∈ list.elements.items, e.1.kind ∈ [TokenKind.str, .inStr, .uri])

mutual

/-- The lists in a term. -/
def Term.lists : Term → List Elements
  | .group _ inner _ => listsAny inner
  | .member _ _ list => [list]
  | _                => []

/-- The lists in terms joined by `AND`. -/
def listsAll : All → List Elements
  | .one t         => t.lists
  | .more t _ rest => t.lists ++ listsAll rest

/-- The lists in a condition. -/
def listsAny : Any → List Elements
  | .one a         => listsAll a
  | .more a _ rest => listsAll a ++ listsAny rest

end

theorem mem_listsAll {l : Elements} {a : All} : l ∈ listsAll a ↔ ∃ t ∈ a.items, l ∈ t.lists := by
  induction a with
  | one t => simp [listsAll, Chain.items]
  | more t mark rest ih => simp [listsAll, Chain.items, ih]

theorem mem_listsAny {l : Elements} {c : Any} :
    l ∈ listsAny c ↔ ∃ a ∈ c.items, l ∈ listsAll a := by
  induction c with
  | one a => simp [listsAny, Chain.items]
  | more a mark rest ih => simp [listsAny, Chain.items, ih]

end Derivation

/-- `expression := condition eof` -/
structure Derivation where
  condition : Derivation.Any
  eof : Derivation.Tok .eof

namespace Derivation

/-- The tokens that are derived, with the mark of the end. -/
def yield (d : Derivation) : List Token :=
  yieldAny d.condition ++ [d.eof.1]

/-- The filter that is derived. -/
def expr (d : Derivation) : Expr :=
  exprAny d.condition

/-- How deep parentheses around conditions nest. -/
def nesting (d : Derivation) : Nat :=
  nestingAny d.condition

/-- No list mixes numbers and texts. -/
def Homogeneous (d : Derivation) : Prop :=
  ∀ list ∈ listsAny d.condition, list.Homogeneous

/-! ### Reading two trees side by side -/

/-- `ts` is at its end, or goes on with a token of a kind in `ends`. -/
def Stops (ends : TokenKind → Prop) (ts : List Token) : Prop :=
  ∀ t ∈ ts.head?, ends t.kind

/-- The tokens of `a`, with something behind them that stops by `ends`, are those of no other tree
with something else behind them that stops. -/
def Decodes {α : Type} (tokens : α → List Token) (ends : TokenKind → Prop) (a : α) : Prop :=
  ∀ b r r', tokens a ++ r = tokens b ++ r' → Stops ends r → Stops ends r' → a = b ∧ r = r'

/-- The kinds of tokens that cannot go on a term. -/
def EndsTerm (kind : TokenKind) : Prop :=
  kind ≠ .arrow ∧ kind ≠ .member ∧ ∀ op, kind ≠ .comparison op

/-- The kinds of tokens that cannot go on terms joined by `AND`. -/
def EndsAll (kind : TokenKind) : Prop :=
  EndsTerm kind ∧ kind ≠ .and

/-- The kinds of tokens that cannot go on a condition. -/
def EndsAny (kind : TokenKind) : Prop :=
  EndsAll kind ∧ kind ≠ .or

theorem stops_cons {ends : TokenKind → Prop} {t : Token} {ts : List Token} :
    Stops ends (t :: ts) ↔ ends t.kind := by
  simp [Stops]

theorem Stops.mono {ends ends' : TokenKind → Prop} {ts : List Token} (h : Stops ends ts)
    (hsub : ∀ k, ends k → ends' k) : Stops ends' ts :=
  fun t ht => hsub _ (h t ht)

/-- A token of a known kind is read off by itself. -/
theorem decodes_tok {kind : TokenKind} (ends : TokenKind → Prop) (a : Tok kind) :
    Decodes (fun t : Tok kind => [t.1]) ends a := by
  intro b r r' h _ _
  simp only [List.cons_append, List.nil_append, List.cons.injEq] at h
  exact ⟨Subtype.ext h.1, h.2⟩

namespace Chain

variable {separator : TokenKind} {α : Type} {tokens : α → List Token} {ends : TokenKind → Prop}

theorem decodes_one {a : α} (ha : Decodes tokens ends a) (hs : ends separator) :
    Decodes (Chain.yield tokens) (fun k => ends k ∧ k ≠ separator)
      (one a : Chain separator α) := by
  intro c r r' h hr hr'
  cases c with
  | one b =>
      obtain ⟨rfl, rfl⟩ := ha b r r' h (hr.mono fun _ => And.left) (hr'.mono fun _ => And.left)
      exact ⟨rfl, rfl⟩
  | more b mark rest =>
      -- the second chain goes on where the first one stops
      simp only [yield, List.append_assoc, List.cons_append] at h
      have hm : Stops ends (mark.1 :: (rest.yield tokens ++ r')) := by
        rw [stops_cons, mark.2]; exact hs
      obtain ⟨-, rfl⟩ := ha b _ _ h (hr.mono fun _ => And.left) hm
      exact absurd mark.2 (stops_cons.mp hr).2

theorem decodes_more {a : α} {mark : Tok separator} {rest : Chain separator α}
    (ha : Decodes tokens ends a) (hs : ends separator)
    (hrest : Decodes (Chain.yield tokens) (fun k => ends k ∧ k ≠ separator) rest) :
    Decodes (Chain.yield tokens) (fun k => ends k ∧ k ≠ separator) (more a mark rest) := by
  intro c r r' h hr hr'
  have hm : ∀ (m : Tok separator) ts, Stops ends (m.1 :: ts) := fun m ts => by
    rw [stops_cons, m.2]; exact hs
  cases c with
  | one b =>
      simp only [yield, List.append_assoc, List.cons_append] at h
      obtain ⟨-, rfl⟩ := ha b _ _ h (hm mark _) (hr'.mono fun _ => And.left)
      exact absurd mark.2 (stops_cons.mp hr').2
  | more b mark' rest' =>
      simp only [yield, List.append_assoc, List.cons_append] at h
      obtain ⟨rfl, htail⟩ := ha b _ _ h (hm mark _) (hm mark' _)
      obtain ⟨hmark, hchain⟩ := List.cons.inj htail
      obtain rfl := Subtype.ext hmark
      obtain ⟨rfl, rfl⟩ := hrest rest' r r' hchain hr hr'
      exact ⟨rfl, rfl⟩

theorem decodes {c : Chain separator α} (h : ∀ a, Decodes tokens ends a) (hs : ends separator) :
    Decodes (Chain.yield tokens) (fun k => ends k ∧ k ≠ separator) c := by
  induction c with
  | one a => exact decodes_one (h a) hs
  | more a mark rest ih => exact decodes_more (h a) hs ih

end Chain

theorem decodes_names (path : Names) : Decodes Names.yield (fun k => k ≠ .arrow) path := by
  intro path' r r' h hr hr'
  exact Chain.decodes (decodes_tok fun _ => True) trivial path' r r' h
    (hr.mono fun _ hk => ⟨trivial, hk⟩) (hr'.mono fun _ hk => ⟨trivial, hk⟩)

theorem decodes_elements (ends : TokenKind → Prop) (list : Elements) :
    Decodes Elements.yield ends list := by
  rintro ⟨opening', elements', closing'⟩ r r' h _ _
  obtain ⟨opening, elements, closing⟩ := list
  simp only [Elements.yield, List.cons_append, List.append_assoc, List.nil_append,
    List.cons.injEq] at h
  obtain ⟨hopening, h⟩ := h
  have hstop : ∀ (c : Tok .closeParen) ts,
      Stops (fun k => True ∧ k ≠ .comma) (c.1 :: ts) := fun c ts => by
    rw [stops_cons, c.2]; exact ⟨trivial, by decide⟩
  have hitem : ∀ e : Element, Decodes (fun e : Element => [e.1]) (fun _ => True) e := by
    intro e b r r' h _ _
    simp only [List.cons_append, List.nil_append, List.cons.injEq] at h
    exact ⟨Subtype.ext h.1, h.2⟩
  obtain ⟨rfl, htail⟩ :=
    Chain.decodes hitem trivial elements' _ _ h (hstop closing _) (hstop closing' _)
  obtain ⟨hclosing, rfl⟩ := List.cons.inj htail
  obtain rfl := Subtype.ext hopening
  obtain rfl := Subtype.ext hclosing
  exact ⟨rfl, rfl⟩

/-- A path is not empty, and starts with a name. -/
theorem Names.exists_yield (path : Names) : ∃ (name : Tok .name) (ts : List Token),
    path.yield = name.1 :: ts := by
  cases path with
  | one name => exact ⟨name, [], rfl⟩
  | more name mark rest => exact ⟨name, _, rfl⟩

/-- The kind of the token that a term starts with. -/
def Term.start : Term → TokenKind
  | .group _ _ _                               => .openParen
  | .missing _ _                               => .not
  | .compare _ _ _ | .member _ _ _ | .has _    => .name

theorem Term.exists_yield (t : Term) : ∃ first ts, t.yield = first :: ts ∧
    first.kind = t.start := by
  cases t with
  | group opening inner closing => exact ⟨opening.1, _, by rw [yield], opening.2⟩
  | missing word path => exact ⟨word.1, _, by rw [yield], word.2⟩
  | compare path _ _ | member path _ _ =>
      obtain ⟨name, ts, hp⟩ := path.exists_yield
      exact ⟨name.1, _, by rw [yield, hp, List.cons_append], name.2⟩
  | has path =>
      obtain ⟨name, ts, hp⟩ := path.exists_yield
      exact ⟨name.1, ts, by rw [yield, hp], name.2⟩

theorem Term.start_eq_of_yield_eq {t t' : Term} {r r' : List Token}
    (h : t.yield ++ r = t'.yield ++ r') : t.start = t'.start := by
  obtain ⟨first, ts, ht, hfirst⟩ := t.exists_yield
  obtain ⟨first', ts', ht', hfirst'⟩ := t'.exists_yield
  rw [ht, ht', List.cons_append, List.cons_append, List.cons.injEq] at h
  rw [← hfirst, ← hfirst', h.1]

/-- **A term in parentheses is read off** if the condition in it is. -/
theorem decodes_group {opening : Tok .openParen} {inner : Any} {closing : Tok .closeParen}
    (hinner : Decodes yieldAny EndsAny inner) :
    Decodes Term.yield EndsTerm (.group opening inner closing) := by
  intro t r r' h hr hr'
  have hstart := Term.start_eq_of_yield_eq h
  cases t with
  | group opening' inner' closing' =>
      simp only [Term.yield, List.cons_append, List.append_assoc, List.nil_append,
        List.cons.injEq] at h
      obtain ⟨hopening, h⟩ := h
      have hstop : ∀ (c : Tok .closeParen) ts, Stops EndsAny (c.1 :: ts) := fun c ts => by
        rw [stops_cons, c.2]; simp [EndsAny, EndsAll, EndsTerm]
      obtain ⟨rfl, htail⟩ := hinner inner' _ _ h (hstop closing _) (hstop closing' _)
      obtain ⟨hclosing, rfl⟩ := List.cons.inj htail
      obtain rfl := Subtype.ext hopening
      obtain rfl := Subtype.ext hclosing
      exact ⟨rfl, rfl⟩
  | missing _ _ | compare _ _ _ | member _ _ _ | has _ => simp [Term.start] at hstart

theorem decodes_missing (word : Tok .not) (path : Names) :
    Decodes Term.yield EndsTerm (.missing word path) := by
  intro t r r' h hr hr'
  have hstart := Term.start_eq_of_yield_eq h
  cases t with
  | missing word' path' =>
      simp only [Term.yield, List.cons_append, List.cons.injEq] at h
      obtain rfl := Subtype.ext h.1
      obtain ⟨rfl, rfl⟩ := decodes_names path path' r r' h.2 (hr.mono fun _ => And.left)
        (hr'.mono fun _ => And.left)
      exact ⟨rfl, rfl⟩
  | group _ _ _ | compare _ _ _ | member _ _ _ | has _ => simp [Term.start] at hstart

/-- A token that cannot go on a path stands behind it. -/
theorem stops_path {t : Token} (ts : List Token)
    (h : t.kind = .member ∨ ∃ op, t.kind = .comparison op) :
    Stops (fun k => k ≠ .arrow) (t :: ts) := by
  rw [stops_cons]
  rcases h with h | ⟨op, h⟩ <;> simp [h]

/-- **A term about the value of a path is read off.**  The path comes first on both sides; the
token behind it tells what is asked. -/
theorem decodes_compare (path : Names) (operator : Operator) (value : Scalar) :
    Decodes Term.yield EndsTerm (.compare path operator value) := by
  intro t r r' h hr hr'
  have hstart := Term.start_eq_of_yield_eq h
  have hop := stops_path (value.1 :: r) (.inr ⟨operator.op, operator.token.2⟩)
  cases t with
  | group _ _ _ | missing _ _ => simp [Term.start] at hstart
  | compare path' operator' value' =>
      simp only [Term.yield, List.append_assoc, List.cons_append, List.nil_append] at h
      have hop' := stops_path (value'.1 :: r') (.inr ⟨operator'.op, operator'.token.2⟩)
      obtain ⟨rfl, htail⟩ := decodes_names path path' _ _ h hop hop'
      obtain ⟨hoperator, hvalue, rfl⟩ : _ ∧ _ ∧ _ := by simpa only [List.cons.injEq] using htail
      obtain ⟨op, token, htoken⟩ := operator
      obtain ⟨op', token', htoken'⟩ := operator'
      obtain rfl : token = token' := hoperator
      obtain rfl : op = op' := by simpa [htoken] using htoken'
      obtain rfl := Subtype.ext hvalue
      exact ⟨rfl, rfl⟩
  | member path' word list =>
      simp only [Term.yield, List.append_assoc, List.cons_append, List.nil_append] at h
      obtain ⟨-, htail⟩ := decodes_names path path' _ _ h hop (stops_path _ (.inl word.2))
      have hkind := congrArg Token.kind (List.cons.inj htail).1
      rw [operator.token.2, word.2] at hkind
      cases hkind
  | has path' =>
      simp only [Term.yield, List.append_assoc, List.cons_append, List.nil_append] at h
      obtain ⟨-, rfl⟩ := decodes_names path path' _ _ h hop (hr'.mono fun _ => And.left)
      exact absurd operator.token.2 ((stops_cons.mp hr').2.2 operator.op)

theorem decodes_member (path : Names) (word : Tok .member) (list : Elements) :
    Decodes Term.yield EndsTerm (.member path word list) := by
  intro t r r' h hr hr'
  have hstart := Term.start_eq_of_yield_eq h
  have hword := stops_path (list.yield ++ r) (.inl word.2)
  cases t with
  | group _ _ _ | missing _ _ => simp [Term.start] at hstart
  | compare path' operator value =>
      simp only [Term.yield, List.append_assoc, List.cons_append, List.nil_append] at h
      obtain ⟨-, htail⟩ := decodes_names path path' _ _ h hword
        (stops_path _ (.inr ⟨operator.op, operator.token.2⟩))
      have hkind := congrArg Token.kind (List.cons.inj htail).1
      rw [operator.token.2, word.2] at hkind
      cases hkind
  | member path' word' list' =>
      simp only [Term.yield, List.append_assoc, List.cons_append] at h
      obtain ⟨rfl, htail⟩ := decodes_names path path' _ _ h hword (stops_path _ (.inl word'.2))
      obtain ⟨hmark, hlist⟩ := List.cons.inj htail
      obtain ⟨rfl, rfl⟩ := decodes_elements EndsTerm list list' r r' hlist hr hr'
      obtain rfl := Subtype.ext hmark
      exact ⟨rfl, rfl⟩
  | has path' =>
      simp only [Term.yield, List.append_assoc, List.cons_append] at h
      obtain ⟨-, rfl⟩ := decodes_names path path' _ _ h hword (hr'.mono fun _ => And.left)
      exact absurd word.2 (stops_cons.mp hr').2.1

theorem decodes_has (path : Names) : Decodes Term.yield EndsTerm (.has path) := by
  intro t r r' h hr hr'
  have hstart := Term.start_eq_of_yield_eq h
  have hstop : Stops (fun k => k ≠ .arrow) r := hr.mono fun _ => And.left
  cases t with
  | group _ _ _ | missing _ _ => simp [Term.start] at hstart
  | compare path' operator value =>
      -- the other tree goes on where this one stops, so it is the one to be read off
      have hdec := decodes_compare path' operator value (.has path) r' r h.symm hr' hr
      exact ⟨hdec.1.symm, hdec.2.symm⟩
  | member path' word list =>
      have hdec := decodes_member path' word list (.has path) r' r h.symm hr' hr
      exact ⟨hdec.1.symm, hdec.2.symm⟩
  | has path' =>
      simp only [Term.yield] at h
      obtain ⟨rfl, rfl⟩ := decodes_names path path' r r' h hstop (hr'.mono fun _ => And.left)
      exact ⟨rfl, rfl⟩

mutual

theorem decodes_term : ∀ t : Term, Decodes Term.yield EndsTerm t
  | .group _ inner _             => decodes_group (decodes_any inner)
  | .missing word path           => decodes_missing word path
  | .compare path operator value => decodes_compare path operator value
  | .member path word list       => decodes_member path word list
  | .has path                    => decodes_has path

theorem decodes_all : ∀ a : All, Decodes yieldAll EndsAll a
  | .one t => by
      rw [funext yieldAll_eq]
      exact Chain.decodes_one (decodes_term t) (by simp [EndsTerm])
  | .more t mark rest => by
      have hrest := decodes_all rest
      rw [funext yieldAll_eq] at hrest ⊢
      exact Chain.decodes_more (decodes_term t) (by simp [EndsTerm]) hrest

theorem decodes_any : ∀ c : Any, Decodes yieldAny EndsAny c
  | .one a => by
      rw [funext yieldAny_eq]
      exact Chain.decodes_one (decodes_all a) (by simp [EndsAll, EndsTerm])
  | .more a mark rest => by
      have hrest := decodes_any rest
      rw [funext yieldAny_eq] at hrest ⊢
      exact Chain.decodes_more (decodes_all a) (by simp [EndsAll, EndsTerm]) hrest

end

end Derivation

end EntityFilter
