import EntityFilter.Proofs.Filter.Proper
import EntityFilter.Proofs.Filter.Stability

/-!
# Every proper filter has a text

A proper filter is written with one blank between its lexemes (`Expr.canonicalText`).  Its lexemes
read (`Expr.reads_lexemes`), so the text has their tokens; and tokens with the kinds and values of
these lexemes, wherever they stand, are derived with the filter as their value
(`Derivation.derivable`).

**Reading gives exactly the proper filters** (`exists_parse_iff`) whose parentheses do not nest too
deep, and the canonical text of such a filter is read as it.
-/

namespace EntityFilter

/-! ### The text of a filter -/

/-- A token that is written as its value. -/
def Lexeme.verbatim (kind : TokenKind) (value : String) : Lexeme :=
  ⟨kind, value, value.toList⟩

/-- The token that stands for a value. -/
def Literal.lexeme : Literal → Lexeme
  | .number text   => .verbatim .number text
  | .ref id        => ⟨.ref, Text.natural id.toNat, '@' :: (Text.natural id.toNat).toList⟩
  | .str text      => ⟨.str, text, '"' :: (Reading.escaped text.toList ++ ['"'])⟩
  | .uri text      => ⟨.uri, text, '\x60' :: (text.toList ++ ['\x60'])⟩
  | .bool value    => .verbatim .bool (if value then "true" else "false")
  | .date d        => .verbatim .date d.text
  | .time t        => .verbatim .time t.text
  | .dateTime text => .verbatim .dateTime text

/-- The lexemes of the items, with `mark` between two of them. -/
def joinedBy {β : Type} (mark : Lexeme) (lexemes : β → List Lexeme) (items : List β) :
    List Lexeme :=
  (items.flatMap fun b => mark :: lexemes b).tail

/-- The tokens of a path. -/
def Path.lexemes (p : Path) : List Lexeme :=
  joinedBy (.verbatim .arrow "->") (fun name => [.verbatim .name name]) p.segments

/-- The tokens of a list. -/
def Literal.listLexemes (values : List Literal) : List Lexeme :=
  .verbatim .openParen "(" ::
    (joinedBy (.verbatim .comma ",") (fun v => [v.lexeme]) values ++ [.verbatim .closeParen ")"])

namespace Expr

mutual

/-- The tokens of a filter. -/
def lexemes : Expr → List Lexeme
  | or operands           => (lexemesBehind (.verbatim .or "or") operands).tail
  | and operands          => (lexemesBehind (.verbatim .and "and") operands).tail
  | paren inner           =>
    .verbatim .openParen "(" :: (inner.lexemes ++ [.verbatim .closeParen ")"])
  | has path              => path.lexemes
  | missing path          => .verbatim .not "not" :: path.lexemes
  | compare path op value =>
    path.lexemes ++ [.verbatim (.comparison op) op.spelling, value.lexeme]
  | member path values    => path.lexemes ++ .verbatim .member "in" :: Literal.listLexemes values

/-- The tokens of several filters, each behind `mark`. -/
def lexemesBehind (mark : Lexeme) : List Expr → List Lexeme
  | []        => []
  | e :: rest => mark :: (e.lexemes ++ lexemesBehind mark rest)

end

/-- The filter as a text, with one blank between two tokens. -/
def canonicalText (e : Expr) : String :=
  String.ofList (e.lexemes.flatMap fun l => ' ' :: l.spelling).tail

theorem lexemesBehind_eq (mark : Lexeme) (es : List Expr) :
    lexemesBehind mark es = es.flatMap fun e => mark :: e.lexemes := by
  induction es with
  | nil => rfl
  | cons e rest ih => rw [lexemesBehind, List.flatMap_cons, ih, List.cons_append]

theorem lexemes_or (es : List Expr) :
    (or es).lexemes = joinedBy (.verbatim .or "or") lexemes es := by
  rw [lexemes, lexemesBehind_eq, joinedBy]

theorem lexemes_and (es : List Expr) :
    (and es).lexemes = joinedBy (.verbatim .and "and") lexemes es := by
  rw [lexemes, lexemesBehind_eq, joinedBy]

end Expr

/-! ### The lexemes read -/

theorem mem_joinedBy {β : Type} {mark : Lexeme} {lexemes : β → List Lexeme} {items : List β}
    {l : Lexeme} (h : l ∈ joinedBy mark lexemes items) : l = mark ∨ ∃ b ∈ items, l ∈ lexemes b := by
  obtain ⟨b, hb, hl⟩ := List.mem_flatMap.mp (List.mem_of_mem_tail h)
  exact (List.mem_cons.mp hl).imp_right fun hl => ⟨b, hb, hl⟩

/-- The words that are no names. -/
def keywords : List (TokenKind × String) :=
  [(.and, "and"), (.or, "or"), (.not, "not"), (.member, "in"), (.bool, "true"), (.bool, "false")]

open Reading in
theorem Lexeme.reads_keyword {kind : TokenKind} {word : String} (h : (kind, word) ∈ keywords) :
    (verbatim kind word).Reads := by
  simp only [keywords, List.mem_cons, Prod.mk.injEq, List.not_mem_nil, or_false] at h
  rcases h with ⟨rfl, rfl⟩ | ⟨rfl, rfl⟩ | ⟨rfl, rfl⟩ | ⟨rfl, rfl⟩ | ⟨rfl, rfl⟩ | ⟨rfl, rfl⟩
  · exact reads_word (show "and".toList = ['a', 'n', 'd'] from rfl) rfl (by simp [isNamePart])
  · exact reads_word (show "or".toList = ['o', 'r'] from rfl) rfl (by simp [isNamePart])
  · exact reads_word (show "not".toList = ['n', 'o', 't'] from rfl) rfl (by simp [isNamePart])
  · exact reads_word (show "in".toList = ['i', 'n'] from rfl) rfl (by simp [isNamePart])
  · exact reads_word (show "true".toList = ['t', 'r', 'u', 'e'] from rfl) rfl (by simp [isNamePart])
  · exact reads_word (show "false".toList = ['f', 'a', 'l', 's', 'e'] from rfl) rfl
      (by simp [isNamePart])

theorem Date.reads_text {d : Date} (h : 0 ≤ d.year ∧ d.year ≤ 9999) :
    (Lexeme.verbatim .date d.text).Reads := by
  obtain ⟨-, -, -, hmonth, -, -⟩ := d.isDay
  have hlength : (Text.padded 2 d.month).toList.length = 2 :=
    Text.length_padded (by decide) (by omega)
  obtain ⟨m, more, hm⟩ := List.exists_cons_of_length_pos (l := (Text.padded 2 d.month).toList)
    (by omega)
  have hfield : ∀ width n, ∀ c ∈ (Text.padded width n).toList, isDayChar c := fun _ _ c hc => by
    simp [isDayChar, Text.isDigit_of_mem_padded hc]
  refine Reading.reads_date ?_ ?_ (by rw [read?_text h]; rfl)
  · exact ⟨(Text.padded 4 d.year.toNat).toList, m, _, by rw [toList_text h, hm, List.cons_append],
      Text.length_padded (by decide) (by omega), fun c => Text.isDigit_of_mem_padded,
      Text.isDigit_of_mem_padded (hm ▸ List.mem_cons_self)⟩
  · simp only [toList_text h, List.forall_mem_append, List.forall_mem_cons]
    exact ⟨hfield 4 _, rfl, hfield 2 _, rfl, hfield 2 _⟩

theorem TimeOfDay.reads_text (t : TimeOfDay) : (Lexeme.verbatim .time t.text).Reads := by
  obtain ⟨hhour, -, -, -⟩ := t.isTime
  have hfield : ∀ width n, ∀ c ∈ (Text.padded width n).toList, Reading.isTimeChar c :=
    fun _ _ c hc => by simp [Reading.isTimeChar, Text.isDigit_of_mem_padded hc]
  have hfraction : ∀ c ∈ (fractionText t.nano).toList, Reading.isTimeChar c := by
    have hpoint : ∀ width n, ∀ c ∈ ("." ++ Text.padded width n).toList, Reading.isTimeChar c := by
      intro width n
      rw [String.toList_append, List.forall_mem_append]
      exact ⟨by simp [Reading.isTimeChar], hfield width n⟩
    rw [fractionText]
    split
    · simp
    · split
      · exact hpoint _ _
      · split <;> exact hpoint _ _
  refine Reading.reads_time t.toList_text (Text.length_padded (by decide) (by omega))
    (fun c => Text.isDigit_of_mem_padded) ?_ (by rw [read?_text t]; rfl)
  simp only [List.forall_mem_append, List.forall_mem_cons]
  exact ⟨hfield 2 _, rfl, hfield 2 _, hfraction⟩

theorem Literal.reads_lexeme {v : Literal} (h : v.Proper) : v.lexeme.Reads := by
  cases v with
  | number text => exact Reading.reads_number h
  | ref id =>
      refine Reading.reads_ref ?_
      rw [Int.toNat_of_nonneg h.1]
      exact h.2
  | str text => exact Reading.reads_str text
  | uri text => exact Reading.reads_uri h
  | bool value => cases value <;> exact Lexeme.reads_keyword (by simp [keywords])
  | date d => exact Date.reads_text h
  | time t => exact TimeOfDay.reads_text t
  | dateTime text => exact Reading.reads_dateTime h

theorem Path.reads_lexemes {p : Path} (h : p.Proper) : ∀ l ∈ p.lexemes, l.Reads := by
  intro l hl
  rcases mem_joinedBy hl with rfl | ⟨name, hname, hl⟩
  · exact Reading.reads_arrow
  · rw [List.mem_singleton.mp hl]
    exact Reading.reads_name (h.2 name hname)

theorem Literal.reads_listLexemes {values : List Literal} (h : ProperList values) :
    ∀ l ∈ listLexemes values, l.Reads := by
  rw [listLexemes, List.forall_mem_cons, List.forall_mem_append, List.forall_mem_singleton]
  refine ⟨Reading.reads_openParen, fun l hl => ?_, Reading.reads_closeParen⟩
  rcases mem_joinedBy hl with rfl | ⟨v, hv, hl⟩
  · exact Reading.reads_comma
  · rw [List.mem_singleton.mp hl]
    exact reads_lexeme (h.2.1 v hv)

mutual

/-- **The lexemes of a proper filter read.** -/
theorem Expr.reads_lexemes : ∀ e : Expr, e.Proper → ∀ l ∈ e.lexemes, l.Reads
  | .or operands, h => fun l hl => by
      rw [Expr.lexemes] at hl
      exact Expr.reads_lexemesBehind operands (Lexeme.reads_keyword (by simp [keywords])) h.2.2 l
        (List.mem_of_mem_tail hl)
  | .and operands, h => fun l hl => by
      rw [Expr.lexemes] at hl
      exact Expr.reads_lexemesBehind operands (Lexeme.reads_keyword (by simp [keywords])) h.2.2 l
        (List.mem_of_mem_tail hl)
  | .paren inner, h => by
      rw [Expr.lexemes, List.forall_mem_cons, List.forall_mem_append, List.forall_mem_singleton]
      exact ⟨Reading.reads_openParen, Expr.reads_lexemes inner h, Reading.reads_closeParen⟩
  | .has path, h => by
      rw [Expr.lexemes]
      exact Path.reads_lexemes h
  | .missing path, h => by
      rw [Expr.lexemes, List.forall_mem_cons]
      exact ⟨Lexeme.reads_keyword (by simp [keywords]), Path.reads_lexemes h⟩
  | .compare path op value, h => by
      rw [Expr.lexemes, List.forall_mem_append, List.forall_mem_cons, List.forall_mem_singleton]
      exact ⟨Path.reads_lexemes h.1, Reading.reads_comparison op, Literal.reads_lexeme h.2⟩
  | .member path values, h => by
      rw [Expr.lexemes, List.forall_mem_append, List.forall_mem_cons]
      exact ⟨Path.reads_lexemes h.1, Lexeme.reads_keyword (by simp [keywords]),
        Literal.reads_listLexemes h.2⟩

theorem Expr.reads_lexemesBehind {mark : Lexeme} : ∀ es : List Expr, mark.Reads →
    Expr.AllProper es → ∀ l ∈ Expr.lexemesBehind mark es, l.Reads
  | [], _, _ => by simp [Expr.lexemesBehind]
  | e :: rest, hmark, h => by
      rw [Expr.lexemesBehind, List.forall_mem_cons, List.forall_mem_append]
      exact ⟨hmark, Expr.reads_lexemes e h.1, Expr.reads_lexemesBehind rest hmark h.2⟩

end

/-- Lexemes with one blank between two of them are laid out. -/
theorem laid_blanks (ls : List Lexeme) : Laid (ls.flatMap fun l => ' ' :: l.spelling).tail ls := by
  have hbehind : ∀ ls : List Lexeme, Laid (ls.flatMap fun l => ' ' :: l.spelling) ls ∧
      Text.StartsBlank (ls.flatMap fun l => ' ' :: l.spelling) := by
    intro ls
    induction ls with
    | nil => exact ⟨.nil (by simp), by simp [Text.StartsBlank]⟩
    | cons l rest ih =>
        refine ⟨@Laid.cons [' '] l _ _ (List.forall_mem_singleton.mpr rfl) ih.2 ih.1,
          fun c hc => ?_⟩
        obtain rfl := Option.some.inj hc
        rfl
  cases ls with
  | nil => exact .nil (by simp)
  | cons l rest => exact @Laid.cons [] l _ _ (by simp) (hbehind rest).2 (hbehind rest).1

/-! ### Derivations of the tokens -/

theorem spells_nil {ts : List Token} : Spells ts [] ↔ ts = [] := by
  simp [Spells]

theorem spells_append {ts : List Token} {ls ms : List Lexeme} :
    Spells ts (ls ++ ms) ↔ ∃ us vs, ts = us ++ vs ∧ Spells us ls ∧ Spells vs ms := by
  simp only [Spells, List.map_append]
  exact List.map_eq_append_iff

theorem spells_cons {ts : List Token} {l : Lexeme} {ls : List Lexeme} :
    Spells ts (l :: ls) ↔
      ∃ t us, ts = t :: us ∧ t.kind = l.kind ∧ t.value = l.value ∧ Spells us ls := by
  simp only [Spells, List.map_cons, List.map_eq_cons_iff, Prod.mk.injEq]
  constructor
  · rintro ⟨t, us, hts, ⟨hkind, hvalue⟩, hus⟩
    exact ⟨t, us, hts, hkind, hvalue, hus⟩
  · rintro ⟨t, us, hts, hkind, hvalue, hus⟩
    exact ⟨t, us, hts, ⟨hkind, hvalue⟩, hus⟩

theorem spells_singleton {ts : List Token} {l : Lexeme} :
    Spells ts [l] ↔ ∃ t, ts = [t] ∧ t.kind = l.kind ∧ t.value = l.value := by
  simp only [spells_cons, spells_nil]
  constructor
  · rintro ⟨t, us, rfl, hkind, hvalue, rfl⟩
    exact ⟨t, rfl, hkind, hvalue⟩
  · rintro ⟨t, rfl, hkind, hvalue⟩
    exact ⟨t, [], rfl, hkind, hvalue, rfl⟩

namespace Derivation

/-- Tokens of items with `mark` between them form a chain, if the tokens of each item form a
tree. -/
theorem Chain.exists_of_spells {α β : Type} {tokens : α → List Token} {value : α → β}
    {good : α → Prop} {lexemes : β → List Lexeme} {mark : Lexeme} {bs : List β} (hne : bs ≠ [])
    (hitem : ∀ b ∈ bs, ∀ ts, Spells ts (lexemes b) → ∃ a, tokens a = ts ∧ value a = b ∧ good a)
    {ts : List Token} (hts : Spells ts (joinedBy mark lexemes bs)) :
    ∃ c : Chain mark.kind α, c.yield tokens = ts ∧ c.items.map value = bs ∧
      ∀ a ∈ c.items, good a := by
  induction bs generalizing ts with
  | nil => exact absurd rfl hne
  | cons b rest ih =>
      obtain ⟨hb, hrest⟩ := List.forall_mem_cons.mp hitem
      cases rest with
      | nil =>
          simp only [joinedBy, List.flatMap_cons, List.flatMap_nil, List.append_nil,
            List.tail_cons] at hts
          obtain ⟨a, hyield, hvalue, hgood⟩ := hb ts hts
          exact ⟨.one a, hyield, by rw [items, List.map_singleton, hvalue],
            by simpa [items] using hgood⟩
      | cons b' rest =>
          -- the token of the first mark links the tree of `b` to the chain of the rest
          have hsplit : joinedBy mark lexemes (b :: b' :: rest) =
              lexemes b ++ mark :: joinedBy mark lexemes (b' :: rest) := rfl
          rw [hsplit, spells_append] at hts
          obtain ⟨us, vs, rfl, hus, hvs⟩ := hts
          obtain ⟨t, vs, rfl, hkind, -, hvs⟩ := spells_cons.mp hvs
          obtain ⟨a, rfl, rfl, hgood⟩ := hb us hus
          obtain ⟨c, rfl, hvalues, hgoods⟩ := ih (List.cons_ne_nil _ _) hrest hvs
          refine ⟨.more a ⟨t, hkind⟩ c, rfl, by rw [items, List.map_cons, hvalues], ?_⟩
          rw [items, List.forall_mem_cons]
          exact ⟨hgood, hgoods⟩

/-- A token with the kind and value of a literal denotes it. -/
theorem literalOf_of_lexeme {v : Literal} (hv : v.Proper) {t : Token}
    (hkind : t.kind = v.lexeme.kind) (hvalue : t.value = v.lexeme.value) : literalOf t = v := by
  obtain ⟨kind, value, position⟩ := t
  obtain rfl : kind = v.lexeme.kind := hkind
  obtain rfl : value = v.lexeme.value := hvalue
  refine Grammar.literalOf_eq ?_
  cases v with
  | number text | str text | uri text | dateTime text => rfl
  | bool value => cases value <;> rfl
  | ref id =>
      have hid : ((id.toNat : Nat) : Int) = id := Int.toNat_of_nonneg hv.1
      have hread : Text.int64? (Text.natural id.toNat).toList = some id := by
        rw [Text.natural, String.toList_ofList, Text.int64?_toDigits (hid ▸ hv.2), hid]
      simp only [Literal.ofToken, Literal.lexeme, hread]
      rfl
  | date d =>
      simp only [Literal.ofToken, Literal.lexeme, Lexeme.verbatim, Date.read?_text hv]
      rfl
  | time t =>
      simp only [Literal.ofToken, Literal.lexeme, Lexeme.verbatim, TimeOfDay.read?_text t]
      rfl

theorem kind_lexeme_mem (v : Literal) : v.lexeme.kind ∈
    [TokenKind.bool, .ref, .str, .uri, .number, .date, .dateTime, .time] := by
  cases v <;> simp [Literal.lexeme, Lexeme.verbatim]

theorem kind_lexeme_of_isNumeric {v : Literal} (h : v.isNumeric) :
    v.lexeme.kind ∈ [TokenKind.number, .ref] := by
  cases v with
  | number _ | ref _ => simp [Literal.lexeme, Lexeme.verbatim]
  | _ => cases h

theorem kind_lexeme_of_isTextual {v : Literal} (h : v.isTextual) :
    v.lexeme.kind ∈ [TokenKind.str, .inStr, .uri] := by
  cases v with
  | str _ | uri _ => simp [Literal.lexeme]
  | _ => cases h

/-- A literal that may stand in a list has a token that may. -/
theorem kind_lexeme_mem_list {v : Literal} (h : v.isNumeric ∨ v.isTextual) :
    v.lexeme.kind ∈ [TokenKind.inStr, .str, .uri, .number, .ref] := by
  cases v with
  | number _ | ref _ | str _ | uri _ => simp [Literal.lexeme, Lexeme.verbatim]
  | _ => rcases h with h | h <;> cases h

theorem exists_names {p : Path} (hp : p.Proper) {ts : List Token} (hts : Spells ts p.lexemes) :
    ∃ names : Names, names.yield = ts ∧ names.path = p := by
  have hname : ∀ name ∈ p.segments, ∀ ts, Spells ts [Lexeme.verbatim .name name] →
      ∃ t : Tok .name, [t.1] = ts ∧ t.1.value = name ∧ True := by
    intro name _ ts hts
    obtain ⟨t, rfl, hkind, hvalue⟩ := spells_singleton.mp hts
    exact ⟨⟨t, hkind⟩, rfl, hvalue, trivial⟩
  obtain ⟨names, hyield, hvalues, -⟩ := Chain.exists_of_spells hp.1 hname hts
  exact ⟨names, hyield, congrArg Path.mk hvalues⟩

theorem exists_elements {values : List Literal} (h : Literal.ProperList values) {ts : List Token}
    (hts : Spells ts (Literal.listLexemes values)) :
    ∃ list : Elements, list.yield = ts ∧ list.values = values ∧ list.Homogeneous := by
  obtain ⟨hne, hproper, hkinds⟩ := h
  obtain ⟨opening, rest, rfl, hopening, -, hrest⟩ := spells_cons.mp hts
  obtain ⟨us, vs, rfl, hus, hvs⟩ := spells_append.mp hrest
  obtain ⟨closing, rfl, hclosing, -⟩ := spells_singleton.mp hvs
  have hlist : ∀ v ∈ values, v.lexeme.kind ∈ [TokenKind.inStr, .str, .uri, .number, .ref] :=
    fun v hv => kind_lexeme_mem_list (hkinds.imp (fun h => h v hv) fun h => h v hv)
  -- the kind of an element is that of its literal, so one choice of kinds serves for both
  have helement : ∀ v ∈ values, ∀ ts, Spells ts [v.lexeme] → ∃ e : Element, [e.1] = ts ∧
      literalOf e.1 = v ∧ e.1.kind = (literalOf e.1).lexeme.kind := by
    intro v hv ts hts
    obtain ⟨t, rfl, hkind, hvalue⟩ := spells_singleton.mp hts
    have hliteral := literalOf_of_lexeme (hproper v hv) hkind hvalue
    exact ⟨⟨t, hkind ▸ hlist v hv⟩, rfl, hliteral, by rw [hliteral]; exact hkind⟩
  obtain ⟨elements, rfl, hvalues, hgood⟩ := Chain.exists_of_spells hne helement hus
  have hmem : ∀ e ∈ elements.items, literalOf e.1 ∈ values := fun e he =>
    hvalues ▸ List.mem_map_of_mem he
  refine ⟨⟨⟨opening, hopening⟩, elements, ⟨closing, hclosing⟩⟩, rfl, hvalues, ?_⟩
  refine hkinds.imp (fun hnumeric e he => ?_) (fun htextual e he => ?_)
  · rw [hgood e he]
    exact kind_lexeme_of_isNumeric (hnumeric _ (hmem e he))
  · rw [hgood e he]
    exact kind_lexeme_of_isTextual (htextual _ (hmem e he))

/-! ### Trees -/

/-- Tokens with the kinds and values of the filter's lexemes are derived as a term. -/
def IsTerm (e : Expr) : Prop :=
  ∀ ts, Spells ts e.lexemes →
    ∃ t : Term, t.yield = ts ∧ t.expr = e ∧ ∀ l ∈ t.lists, l.Homogeneous

/-- Tokens with the kinds and values of the filter's lexemes are derived as terms joined by
`AND`. -/
def IsAll (e : Expr) : Prop :=
  ∀ ts, Spells ts e.lexemes →
    ∃ a : All, yieldAll a = ts ∧ exprAll a = e ∧ ∀ l ∈ listsAll a, l.Homogeneous

/-- Tokens with the kinds and values of the filter's lexemes are derived as a condition. -/
def IsAny (e : Expr) : Prop :=
  ∀ ts, Spells ts e.lexemes →
    ∃ c : Any, yieldAny c = ts ∧ exprAny c = e ∧ ∀ l ∈ listsAny c, l.Homogeneous

theorem isTerm_paren {e : Expr} (h : IsAny e) : IsTerm (.paren e) := by
  intro ts hts
  rw [Expr.lexemes] at hts
  obtain ⟨opening, rest, rfl, hopening, -, hrest⟩ := spells_cons.mp hts
  obtain ⟨us, vs, rfl, hus, hvs⟩ := spells_append.mp hrest
  obtain ⟨closing, rfl, hclosing, -⟩ := spells_singleton.mp hvs
  obtain ⟨inner, rfl, rfl, hlists⟩ := h us hus
  exact ⟨.group ⟨opening, hopening⟩ inner ⟨closing, hclosing⟩, by rw [Term.yield],
    by rw [Term.expr, exprAny], by rwa [Term.lists]⟩

theorem isTerm_has {p : Path} (hp : p.Proper) : IsTerm (.has p) := by
  intro ts hts
  rw [Expr.lexemes] at hts
  obtain ⟨names, rfl, rfl⟩ := exists_names hp hts
  exact ⟨.has names, by rw [Term.yield], by rw [Term.expr], by simp [Term.lists]⟩

theorem isTerm_missing {p : Path} (hp : p.Proper) : IsTerm (.missing p) := by
  intro ts hts
  rw [Expr.lexemes] at hts
  obtain ⟨word, us, rfl, hword, -, hus⟩ := spells_cons.mp hts
  obtain ⟨names, rfl, rfl⟩ := exists_names hp hus
  exact ⟨.missing ⟨word, hword⟩ names, by rw [Term.yield], by rw [Term.expr],
    by simp [Term.lists]⟩

theorem isTerm_compare {p : Path} (hp : p.Proper) (op : Comparison) {v : Literal} (hv : v.Proper) :
    IsTerm (.compare p op v) := by
  intro ts hts
  rw [Expr.lexemes] at hts
  obtain ⟨us, vs, rfl, hus, hvs⟩ := spells_append.mp hts
  obtain ⟨names, rfl, rfl⟩ := exists_names hp hus
  obtain ⟨sign, vs, rfl, hsign, -, hvs⟩ := spells_cons.mp hvs
  obtain ⟨t, rfl, hkind, hvalue⟩ := spells_singleton.mp hvs
  refine ⟨.compare names ⟨op, ⟨sign, hsign⟩⟩ ⟨t, hkind ▸ kind_lexeme_mem v⟩, by rw [Term.yield], ?_,
    by simp [Term.lists]⟩
  rw [Term.expr, literalOf_of_lexeme hv hkind hvalue]

theorem isTerm_member {p : Path} (hp : p.Proper) {values : List Literal}
    (hvalues : Literal.ProperList values) : IsTerm (.member p values) := by
  intro ts hts
  rw [Expr.lexemes] at hts
  obtain ⟨us, vs, rfl, hus, hvs⟩ := spells_append.mp hts
  obtain ⟨names, rfl, rfl⟩ := exists_names hp hus
  obtain ⟨word, vs, rfl, hword, -, hvs⟩ := spells_cons.mp hvs
  obtain ⟨list, rfl, rfl, hlist⟩ := exists_elements hvalues hvs
  exact ⟨.member names ⟨word, hword⟩ list, by rw [Term.yield], by rw [Term.expr],
    by simpa [Term.lists] using hlist⟩

theorem isAll_of_isTerm {e : Expr} (h : IsTerm e) : IsAll e := by
  intro ts hts
  obtain ⟨t, rfl, rfl, hlists⟩ := h ts hts
  exact ⟨.one t, by rw [yieldAll], by rw [exprAll, exprsAll, Grammar.collapse],
    by rwa [listsAll]⟩

theorem isAny_of_isAll {e : Expr} (h : IsAll e) : IsAny e := by
  intro ts hts
  obtain ⟨a, rfl, rfl, hlists⟩ := h ts hts
  exact ⟨.one a, by rw [yieldAny], by rw [exprAny, exprsAny, Grammar.collapse, exprAll],
    by rwa [listsAny]⟩

theorem collapse_of_two {join : List Expr → Expr} {es : List Expr} (h : 2 ≤ es.length) :
    Grammar.collapse join es = join es := by
  match es, h with
  | _ :: _ :: _, _ => rfl

theorem isAll_and {es : List Expr} (hlength : 2 ≤ es.length) (h : ∀ e ∈ es, IsTerm e) :
    IsAll (.and es) := by
  intro ts hts
  rw [Expr.lexemes_and] at hts
  have hne : es ≠ [] := List.ne_nil_of_length_pos (by omega)
  obtain ⟨a, rfl, rfl, hlists⟩ : ∃ a : All, a.yield Term.yield = ts ∧ a.items.map Term.expr = es ∧
      ∀ t ∈ a.items, ∀ l ∈ t.lists, l.Homogeneous :=
    Chain.exists_of_spells hne (fun e he => h e he) hts
  refine ⟨a, yieldAll_eq a, ?_, fun l hl => ?_⟩
  · rw [exprAll, exprsAll_eq, collapse_of_two hlength]
  · obtain ⟨t, ht, hl⟩ := mem_listsAll.mp hl
    exact hlists t ht l hl

theorem isAny_or {es : List Expr} (hlength : 2 ≤ es.length) (h : ∀ e ∈ es, IsAll e) :
    IsAny (.or es) := by
  intro ts hts
  rw [Expr.lexemes_or] at hts
  have hne : es ≠ [] := List.ne_nil_of_length_pos (by omega)
  obtain ⟨c, rfl, rfl, hlists⟩ : ∃ c : Any, c.yield yieldAll = ts ∧ c.items.map exprAll = es ∧
      ∀ a ∈ c.items, ∀ l ∈ listsAll a, l.Homogeneous :=
    Chain.exists_of_spells hne (fun e he => h e he) hts
  refine ⟨c, yieldAny_eq c, ?_, fun l hl => ?_⟩
  · rw [exprAny, exprsAny_eq, collapse_of_two hlength]
  · obtain ⟨a, ha, hl⟩ := mem_listsAny.mp hl
    exact hlists a ha l hl

/-- The tokens of the filter are derived at every place where the grammar has room for it. -/
structure Derivable (e : Expr) : Prop where
  term : !e.isOr && !e.isAnd → IsTerm e
  all : !e.isOr → IsAll e
  any : IsAny e

theorem Derivable.of_isTerm {e : Expr} (h : IsTerm e) : Derivable e where
  term _ := h
  all _ := isAll_of_isTerm h
  any := isAny_of_isAll (isAll_of_isTerm h)

mutual

/-- **The tokens of a proper filter are derived**, with the filter as their value. -/
theorem derivable : ∀ e : Expr, e.Proper → Derivable e
  | .or es, h => by
      have hoperands := derivable_of_mem es h.2.2
      have hany := isAny_or h.1 fun e he => (hoperands e he).all (h.2.1 e he)
      exact ⟨fun hor => absurd hor (by simp [Expr.isOr]),
        fun hor => absurd hor (by simp [Expr.isOr]), hany⟩
  | .and es, h => by
      have hoperands := derivable_of_mem es h.2.2
      have hall := isAll_and h.1 fun e he => (hoperands e he).term (h.2.1 e he)
      exact ⟨fun hand => absurd hand (by simp [Expr.isAnd]), fun _ => hall, isAny_of_isAll hall⟩
  | .paren inner, h => .of_isTerm (isTerm_paren (derivable inner h).any)
  | .has _, h => .of_isTerm (isTerm_has h)
  | .missing _, h => .of_isTerm (isTerm_missing h)
  | .compare _ op _, h => .of_isTerm (isTerm_compare h.1 op h.2)
  | .member _ _, h => .of_isTerm (isTerm_member h.1 h.2)

theorem derivable_of_mem : ∀ es : List Expr, Expr.AllProper es → ∀ e ∈ es, Derivable e
  | [], _ => by simp
  | e :: rest, h => List.forall_mem_cons.mpr ⟨derivable e h.1, derivable_of_mem rest h.2⟩

end

end Derivation

/-- The canonical text of a proper filter is read as it. -/
theorem parse_canonicalText {e : Expr} (hproper : e.Proper) (hnesting : e.nesting < maxNesting) :
    parse e.canonicalText = .ok e := by
  have htext : (Cursor.start e.canonicalText).rest =
      (e.lexemes.flatMap fun l => ' ' :: l.spelling).tail := String.toList_ofList
  obtain ⟨s, hs, hspells⟩ :=
    (laid_blanks e.lexemes).tokens (e.reads_lexemes hproper) (Cursor.start e.canonicalText) htext
  -- the filter is the value of the derivation from here on
  obtain ⟨c, hyield, rfl, hlists⟩ := (Derivation.derivable e hproper).any s.tokens hspells
  have htokens : tokenize (Derivation.exprAny c).canonicalText = .ok s := hs
  obtain ⟨heof, hdenote⟩ := tokens_of_tokenize htokens
  have hnext : (⟨s, 0⟩ : Parser).next.1 = .ok (Derivation.exprAny c) := by
    refine (Parser.next_eq_ok_iff heof hdenote).mpr ⟨⟨c, ⟨s.eof, rfl⟩⟩, ?_, ?_, hlists, rfl⟩
    · rw [Derivation.yield, hyield, TokenStream.toList]
    · rw [← Derivation.nesting_expr]
      exact hnesting
  rw [parse, Parser.start, htokens]
  exact hnext

/-- **Reading gives exactly the proper filters** whose parentheses nest at most 199 deep, and each
of them is what its canonical text is read as. -/
theorem exists_parse_iff (e : Expr) :
    ((∃ text, parse text = .ok e) ↔ e.Proper ∧ e.nesting ≤ 199) ∧
    (parse e.canonicalText = .ok e ↔ e.Proper ∧ e.nesting ≤ 199) := by
  have hforward : ∀ text, parse text = .ok e → e.Proper ∧ e.nesting ≤ 199 := fun text h => by
    obtain ⟨hproper, hnesting⟩ := proper_of_parse h
    rw [maxNesting] at hnesting
    exact ⟨hproper, by omega⟩
  have hbackward : e.Proper ∧ e.nesting ≤ 199 → parse e.canonicalText = .ok e := fun h =>
    parse_canonicalText h.1 (by rw [maxNesting]; omega)
  refine ⟨⟨?_, fun h => ⟨_, hbackward h⟩⟩, hforward _, hbackward⟩
  rintro ⟨text, h⟩
  exact hforward text h

end EntityFilter
