import EntityFilter.Proofs.Query.Statements

/-!
# What users supply stands between quotes

The texts in a filter and the names in a request reach the statement only as contents of string
literals.  **A scan of the statement finds exactly these contents, and what it finds outside them
does not depend on them** (`Query.literals_quoted`).

For the second part a filter is blanked (`Expr.blank`): its names and texts are taken out, and all
else stays.  Rendering and then taking out the literals gives the same pieces as rendering the
blanked filter (`Expr.blank_numbered`).
-/

namespace EntityFilter

open Sql (Piece Item)
open Sql.Piece (code literal identifier)

/-! ### Blanks -/

/-- The literal without its text, if it is a string or a URI. -/
def Literal.blank : Literal → Literal
  | .str _ => .str ""
  | .uri _ => .uri ""
  | value  => value

/-- The path without its names. -/
def Path.blank (p : Path) : Path :=
  ⟨p.segments.map fun _ => ""⟩

/-- The condition without its texts. -/
def Condition.blank : Condition → Condition
  | .compare op value => .compare op value.blank
  | .member values    => .member (values.map Literal.blank)

/-- The mention without its names and texts. -/
def Reference.blank (r : Reference) : Reference :=
  ⟨r.path.blank, r.condition.map Condition.blank⟩

namespace Expr

mutual

/-- The filter without its names and texts. -/
def blank : Expr → Expr
  | .or operands           => .or (blankAll operands)
  | .and operands          => .and (blankAll operands)
  | .paren inner           => .paren inner.blank
  | .has path              => .has path.blank
  | .missing path          => .missing path.blank
  | .compare path op value => .compare path.blank op value.blank
  | .member path values    => .member path.blank (values.map Literal.blank)

def blankAll : List Expr → List Expr
  | []        => []
  | e :: rest => e.blank :: blankAll rest

end

end Expr

/-- The walk without the name of its tag. -/
def Closure.blank (c : Closure) : Closure := { c with tag := "" }

/-- The lookup without the name of its tag. -/
def Lookup.blank (l : Lookup) : Lookup := { l with tag := "" }

/-- The same selection, or the same number of names. -/
def TagSelection.Alike (s t : TagSelection) : Prop :=
  s = t ∨ ∃ names others, s = .named names ∧ t = .named others ∧ names.length = others.length

/-! ### Parts of filters -/

section Parts

variable (schema : String)

theorem Closure.blank_sql (c : Closure) :
    Sql.blank (c.blank.sql schema) = Sql.blank (c.sql schema) := by
  simp [Closure.sql, Closure.blank, Sql.blank]

theorem Lookup.blank_sql (l : Lookup) :
    Sql.blank (l.blank.sql schema) = Sql.blank (l.sql schema) := by
  obtain ⟨mention, tag, source⟩ := l
  cases source <;> simp [Lookup.sql, Lookup.blank, Sql.blank]

theorem Sql.blank_tagRows (n : Nat) (tag : String) :
    Sql.blank (Sql.tagRows schema n "") = Sql.blank (Sql.tagRows schema n tag) := by
  simp [Sql.tagRows, Sql.blank]

theorem Literal.blank_sql (value : Literal) :
    Sql.blank value.blank.toSql.sql = Sql.blank value.toSql.sql := by
  cases value <;> rfl

theorem Literal.isNumeric_blank (value : Literal) : value.blank.isNumeric = value.isNumeric := by
  cases value <;> rfl

theorem Literal.kinds_blank (value : Literal) : value.blank.kinds = value.kinds := by
  cases value <;> rfl

theorem Condition.kinds_blank (c : Condition) : c.blank.kinds = c.kinds := by
  cases c with
  | compare op value => exact value.kinds_blank
  | member values =>
      have hfirst : (values.map Literal.blank).head?.any Literal.isNumeric =
          values.head?.any Literal.isNumeric := by
        cases values <;> simp [Literal.isNumeric_blank]
      rw [blank, kinds, kinds, kindsOfList, kindsOfList, hfirst]

theorem Sql.blank_between {α : Type} {f g : α → List Piece} {separator : List Piece} {as : List α}
    (h : ∀ a ∈ as, Sql.blank (f a) = Sql.blank (g a)) :
    Sql.blank (Sql.between separator (as.map f)) =
      Sql.blank (Sql.between separator (as.map g)) := by
  induction as with
  | nil => rfl
  | cons a as ih =>
      obtain ⟨ha, has⟩ := List.forall_mem_cons.mp h
      cases as with
      | nil => exact ha
      | cons b as => simpa [Sql.between, ha] using ih has

theorem Condition.blank_test (c : Condition) :
    Sql.blank c.blank.test.sql = Sql.blank c.test.sql := by
  cases c with
  | compare op value =>
      simp only [blank, test, Test.sql, Sql.blank_append, value.blank_sql]
  | member values =>
      simp only [blank, test, Test.sql, Sql.blank_append, List.map_map]
      rw [Sql.blank_between fun value _ => value.blank_sql]
      rfl

theorem Condition.blank_dispatch (c : Condition) (n : Nat) :
    Sql.blank (c.blank.dispatch n).sql = Sql.blank (c.dispatch n).sql := by
  have hbranch : ∀ kind, Sql.blank ((c.blank.dispatch n).branch kind) =
      Sql.blank ((c.dispatch n).branch kind) := fun kind => by
    simp only [Dispatch.branch, dispatch, Sql.blank_append, c.blank_test]
  simp only [Dispatch.sql, Sql.blank_append]
  -- the kinds are those of the literals, which blanks keep, so the branches are the same in number
  rw [show (c.blank.dispatch n).kinds = (c.dispatch n).kinds from c.kinds_blank]
  congr 2
  induction (c.dispatch n).kinds with
  | nil => rfl
  | cons kind kinds ih => simp only [List.flatMap_cons, Sql.blank_append, hbranch, ih]

/-! ### Mentions of tags -/

theorem Path.isChain_blank (p : Path) : p.blank.isChain = p.isChain := by
  simp [isChain, blank]

theorem Path.terminal_blank (p : Path) : p.blank.terminal = "" := by
  rw [terminal, blank, List.getLastD_eq_getLast?, List.getLast?_map]
  cases p.segments.getLast? <;> rfl

theorem Path.mentions_blank (p : Path) : p.blank.mentions = p.mentions.map fun _ => "" := by
  rw [mentions, terminal_blank]
  simp [mentions, blank]

theorem Path.length_mentions_blank (p : Path) : p.blank.mentions.length = p.mentions.length := by
  rw [mentions_blank, List.length_map]

theorem RowSource.blank_behind {inner other : RowSource}
    (h : Sql.blank (inner.sql schema) = Sql.blank (other.sql schema)) (first : Nat)
    {tags names : List String} (hlength : tags.length = names.length) :
    Sql.blank ((inner.behind first tags).sql schema) =
      Sql.blank ((other.behind first names).sql schema) := by
  induction tags generalizing inner other first names with
  | nil =>
      obtain rfl := List.eq_nil_of_length_eq_zero hlength.symm
      exact h
  | cons tag tags ih =>
      obtain ⟨name, names, rfl⟩ := List.exists_cons_of_length_eq_add_one hlength.symm
      refine ih ?_ (first + 1) (by simpa using hlength)
      simp only [RowSource.sql, Sql.blank_append, h, ← Sql.blank_tagRows schema first tag,
        ← Sql.blank_tagRows schema first name]

theorem Reference.blank_last (options : CompileOptions) (k : Nat) (r : Reference) :
    Sql.blank ((r.blank.last options k).sql schema) =
      Sql.blank ((r.last options k).sql schema) := by
  obtain ⟨path, condition⟩ := r
  cases condition with
  | none =>
      rw [blank, last, path.terminal_blank]
      exact Sql.blank_tagRows schema _ path.terminal
  | some c =>
      have hlookup := Lookup.blank_sql schema ⟨k + 1, path.terminal, options.kindSource⟩
      have htag : ∀ t : String, Sql.blank [code t, literal "", code " AND "] =
          Sql.blank [code t, literal path.terminal, code " AND "] := fun _ => rfl
      rw [Lookup.blank] at hlookup
      simp only [last, blank, Option.map_some, RowSource.sql, Sql.blank_append, htag, hlookup,
        c.blank_dispatch, path.terminal_blank]

/-- Taking out the literals of a mention leaves what the blanked mention leaves. -/
theorem Reference.blank_numbered (options : CompileOptions) (k : Nat) (r : Reference) :
    Sql.blank ((r.blank.numbered options k).sql schema) =
      Sql.blank ((r.numbered options k).sql schema) := by
  by_cases hchain : r.path.isChain
  · have hlength : r.blank.path.segments.dropLast.reverse.length =
        r.path.segments.dropLast.reverse.length := by simp [blank, Path.blank]
    rw [numbered, numbered, if_pos hchain,
      if_pos (show r.blank.path.isChain from r.path.isChain_blank.trans hchain)]
    simp only [Predicate.sql, Sql.blank_append,
      RowSource.blank_behind schema (r.blank_last schema options k) (k + 2) hlength]
  · rw [numbered, numbered, if_neg hchain,
      if_neg (show ¬ r.blank.path.isChain from fun h => hchain (r.path.isChain_blank.symm.trans h))]
    obtain ⟨path, condition⟩ := r
    cases condition with
    | none =>
        simp only [blank, Option.map_none, Predicate.sql, RowSource.sql, Sql.blank_append,
          path.terminal_blank, Sql.blank_tagRows schema _ path.terminal]
    | some c =>
        have htag : ∀ t : String, Sql.blank [code t, literal "", code " AND "] =
            Sql.blank [code t, literal path.terminal, code " AND "] := fun _ => rfl
        simp only [blank, Option.map_some, Predicate.sql, Sql.blank_append, htag, c.blank_dispatch,
          path.terminal_blank]

end Parts

/-! ### Filters -/

theorem Predicate.blank_grouped {ps qs : List Piece} (h : Sql.blank ps = Sql.blank qs)
    (group : Bool) : Sql.blank (grouped group ps) = Sql.blank (grouped group qs) := by
  cases group with
  | false => exact h
  | true => simp only [grouped, ↓reduceIte, Sql.blank_append, h]

namespace Expr

mutual

theorem references_blank : ∀ e : Expr, e.blank.references = e.references.map Reference.blank
  | .or operands | .and operands => by
      simp only [blank, references, referencesOfAll_blankAll operands]
  | .paren inner => by simp only [blank, references, references_blank inner]
  | .has path | .missing path | .compare path op value | .member path values => rfl

theorem referencesOfAll_blankAll : ∀ es : List Expr,
    referencesOfAll (blankAll es) = (referencesOfAll es).map Reference.blank
  | [] => rfl
  | e :: rest => by
      simp only [blankAll, referencesOfAll, references_blank e, referencesOfAll_blankAll rest,
        List.map_append]

end

theorem widthOf_map_blank (rs : List Reference) :
    widthOf (rs.map Reference.blank) = widthOf rs := by
  induction rs with
  | nil => rfl
  | cons r rs ih =>
      rw [List.map_cons, widthOf_cons, widthOf_cons, ih]
      exact congrArg (· + widthOf rs) r.path.length_mentions_blank

theorem isAnd_numbered_blank (options : CompileOptions) (k : Nat) (e : Expr) :
    (e.blank.numbered options k).isAnd = (e.numbered options k).isAnd := by
  cases e with
  | or operands | and operands | paren inner | missing path =>
      simp [blank, numbered, Predicate.isAnd]
  | has path | compare path op value | member path values =>
      simp [blank, numbered, Reference.isAnd_numbered]

mutual

/-- **Taking out the literals of a filter leaves what the blanked filter leaves.** -/
theorem blank_numbered (schema : String) (options : CompileOptions) : ∀ (e : Expr) (k : Nat),
    Sql.blank ((e.blank.numbered options k).sql schema) =
      Sql.blank ((e.numbered options k).sql schema)
  | .or operands, k => by
      simp only [blank, numbered, Predicate.sql, blank_sqlAny schema options operands k]
  | .and operands, k => by
      simp only [blank, numbered, Predicate.sql, blank_sqlAll schema options operands k]
  | .paren inner, k => by
      simp only [blank, numbered, Predicate.sql, Sql.blank_append,
        blank_numbered schema options inner k]
  | .missing path, k => by
      simp only [blank, numbered, Predicate.sql, Sql.blank_append]
      exact congrArg _ (Reference.blank_numbered schema options k ⟨path, none⟩)
  | .has path, k => Reference.blank_numbered schema options k ⟨path, none⟩
  | .compare path op value, k =>
      Reference.blank_numbered schema options k ⟨path, some (.compare op value)⟩
  | .member path values, k =>
      Reference.blank_numbered schema options k ⟨path, some (.member values)⟩

theorem blank_sqlAny (schema : String) (options : CompileOptions) : ∀ (es : List Expr) (k : Nat),
    Sql.blank (Predicate.sqlAny schema (numberedAll options k (blankAll es))) =
      Sql.blank (Predicate.sqlAny schema (numberedAll options k es))
  | [], k => rfl
  | [e], k => by
      simp only [blankAll, numberedAll, Predicate.sqlAny, isAnd_numbered_blank]
      exact Predicate.blank_grouped (blank_numbered schema options e k) _
  | e :: next :: rest, k => by
      have hfirst := Predicate.blank_grouped (blank_numbered schema options e k)
        (e.numbered options k).isAnd
      -- a blanked operand is put in parentheses where the operand is, and draws as many aliases
      have hrest := blank_sqlAny schema options (next :: rest) (k + widthOf e.references)
      simp only [blankAll, numberedAll, Predicate.sqlAny, Sql.blank_append, isAnd_numbered_blank,
        hfirst, references_blank, widthOf_map_blank] at hrest ⊢
      rw [hrest]

theorem blank_sqlAll (schema : String) (options : CompileOptions) : ∀ (es : List Expr) (k : Nat),
    Sql.blank (Predicate.sqlAll schema (numberedAll options k (blankAll es))) =
      Sql.blank (Predicate.sqlAll schema (numberedAll options k es))
  | [], k => rfl
  | [e], k => blank_numbered schema options e k
  | e :: next :: rest, k => by
      have hrest := blank_sqlAll schema options (next :: rest) (k + widthOf e.references)
      simp only [blankAll, numberedAll, Predicate.sqlAll, Sql.blank_append,
        blank_numbered schema options e k, references_blank, widthOf_map_blank] at hrest ⊢
      rw [hrest]

end

end Expr

/-! ### Walks and lookups -/

theorem gather_map_blank {γ : Type} {f : Nat → Reference → List γ} {g : γ → γ}
    (h : ∀ k r, f k r.blank = (f k r).map g) (k : Nat) (rs : List Reference) :
    gather f k (rs.map Reference.blank) = (gather f k rs).map g := by
  induction rs generalizing k with
  | nil => rfl
  | cons r rs ih =>
      have hlength : r.blank.path.mentions.length = r.path.mentions.length :=
        r.path.length_mentions_blank
      rw [List.map_cons, gather, gather, List.map_append, h, hlength, ih]

theorem Reference.closures_blank (options : CompileOptions) (k : Nat) (r : Reference) :
    r.blank.closures options k = (r.closures options k).map Closure.blank := by
  have hpath : r.blank.path.mentions = r.path.mentions.map fun _ => "" := r.path.mentions_blank
  have hsome : r.blank.condition.isSome = r.condition.isSome := by simp [blank]
  rw [closures, closures, closuresFrom, closuresFrom, hsome, hpath]
  split
  · rw [List.zipIdx_map, List.map_map, List.map_map]
    rfl
  · rfl

theorem Reference.lookups_blank (options : CompileOptions) (k : Nat) (r : Reference) :
    r.blank.lookups options k = (r.lookups options k).map Lookup.blank := by
  have hsome : r.blank.condition.isSome = r.condition.isSome := by simp [blank]
  have hchain : r.blank.path.isChain = r.path.isChain := r.path.isChain_blank
  have hterminal : r.blank.path.terminal = "" := r.path.terminal_blank
  rw [lookups, lookups, hsome, hchain, hterminal]
  split <;> rfl

section Statements

variable (schema : String) {options : CompileOptions} {e other : Expr} {f g : CompiledFilter}
  {s t : TagSelection}

theorem Closure.blank_sqlAll (cs : List Closure) :
    Sql.blank (Closure.sqlAll schema (cs.map Closure.blank)) =
      Sql.blank (Closure.sqlAll schema cs) := by
  cases cs with
  | nil => rfl
  | cons c rest =>
      have hwalks : Sql.blank (Sql.between [code ", "]
          ((c :: rest).map fun c => c.blank.sql schema)) =
          Sql.blank (Sql.between [code ", "] ((c :: rest).map (Closure.sql schema))) :=
        Sql.blank_between fun c _ => c.blank_sql schema
      simp only [List.map_cons, sqlAll, Sql.blank_append, List.map_map, Function.comp_def]
        at hwalks ⊢
      rw [hwalks]

theorem Lookup.blank_sqlAll (ls : List Lookup) :
    Sql.blank ((ls.map Lookup.blank).flatMap fun l => [code ", "] ++ l.sql schema) =
      Sql.blank (ls.flatMap fun l => [code ", "] ++ l.sql schema) := by
  induction ls with
  | nil => rfl
  | cons l ls ih =>
      simp only [List.map_cons, List.flatMap_cons, Sql.blank_append, ih, l.blank_sql schema]

theorem Query.blank_opening (columns : List String) (hf : compileExpr options e = .ok f) :
    Sql.blank (opening schema columns s f) = Sql.blank (opening schema columns s
      ⟨gather (Reference.closures options) 0 e.blank.references,
        gather (Reference.lookups options) 0 e.blank.references,
        e.blank.numbered options 0, 0⟩) := by
  obtain ⟨-, -, rfl⟩ := compileExpr_eq_ok_iff.mp hf
  simp only [opening, candidates, Sql.blank_append, Expr.references_blank,
    gather_map_blank (Reference.closures_blank options), Closure.blank_sqlAll,
    gather_map_blank (Reference.lookups_blank options), Lookup.blank_sqlAll]

theorem CompiledFilter.blank_predicate (hf : compileExpr options e = .ok f) :
    Sql.blank (f.predicate.sql schema) = Sql.blank ((e.blank.numbered options 0).sql schema) := by
  obtain ⟨-, -, rfl⟩ := compileExpr_eq_ok_iff.mp hf
  exact (e.blank_numbered schema options 0).symm

/-! ### Statements -/

theorem TagSelection.Alike.includesTags (h : s.Alike t) : s.includesTags = t.includesTags := by
  obtain rfl | ⟨names, others, rfl, rfl, -⟩ := h <;> rfl

namespace Query

theorem blank_tagRestriction (h : s.Alike t) :
    Sql.blank (tagRestriction s) = Sql.blank (tagRestriction t) := by
  obtain rfl | ⟨names, others, rfl, rfl, hlength⟩ := h
  · rfl
  · have hnames : ∀ names : List String,
        Sql.blank (Sql.between [code ", "] (names.map fun t => [literal t])) =
          Sql.blank (Sql.between [code ", "] (List.replicate names.length [literal ""])) :=
      fun names => by
        rw [← List.map_const']
        exact Sql.blank_between fun t _ => rfl
    simp only [tagRestriction, Sql.blank_append, hnames, hlength]

/-- **Outside its literals, a statement is the same for filters that differ in names and texts.** -/
theorem blank_found (columns : List String) (hblank : e.blank = other.blank) (halike : s.Alike t)
    (hf : compileExpr options e = .ok f) (hg : compileExpr options other = .ok g) :
    Sql.blank (found schema columns s f) = Sql.blank (found schema columns t g) := by
  have hopening : opening schema columns s = opening schema columns t := by
    funext f
    rw [opening, opening, halike.includesTags]
  simp only [found, Sql.blank_append, blank_tagRestriction halike, hopening,
    blank_opening schema columns hf, blank_opening schema columns hg,
    CompiledFilter.blank_predicate schema hf, CompiledFilter.blank_predicate schema hg, hblank]

end Query

end Statements

namespace Query

/-- **User text stays between quotes.**  A scan of a statement ends outside quotes.  It finds the
literals of the filter and the request, and outside them it finds the same for every query that
differs only in names of tags and texts. -/
theorem literals_quoted {compiler : QueryCompiler} {q : Query} {c : CompiledQuery}
    (h : compile compiler q = .ok c) :
    ∃ e items, parse q.filter = .ok e ∧ Sql.scan ['\''] c.sql = some items ∧
      Item.contents items = literals compiler.options e (.ofRequested q.tags) ++ ["lib"] ∧
      ∀ other d e', compile compiler other = .ok d → parse other.filter = .ok e' →
        other.schema = q.schema → other.orgId = q.orgId → other.userId = q.userId →
        e'.blank = e.blank → (TagSelection.ofRequested other.tags).Alike (.ofRequested q.tags) →
        ∃ others, Sql.scan ['\''] d.sql = some others ∧
          Item.skeleton others = Item.skeleton items := by
  obtain ⟨-, e, f, he, hf, rfl⟩ := compile_eq_ok_iff.mp h
  have hrenders := renders_compiled h he
  refine ⟨e, _, he, hrenders.scan_eq, hrenders.contents_eq, ?_⟩
  intro other d e' hother he' hschema horg huser hblank halike
  refine ⟨_, (renders_compiled hother he').scan_eq, ?_⟩
  obtain ⟨-, e'', g, he'', hg, rfl⟩ := compile_eq_ok_iff.mp hother
  obtain rfl : e'' = e' := Except.ok.inj (he''.symm.trans he')
  rw [Sql.skeleton_items, Sql.skeleton_items]
  simp only [rows, closing, Sql.blank_append, hschema, horg, huser, halike.includesTags,
    blank_found q.schema compiler.columns.names hblank halike hg hf]

set_option maxRecDepth 8000 in
/-- Quotes in a filter and in a name that is asked for change nothing outside the literals. -/
theorem quotes_in_filter_quoted :
    let q : Query := { filter := "dis == \"it's\"", tags := ["o'clock"] }
    let other : Query := { filter := "name == \"' OR '1' = '1\"", tags := ["a"] }
    ∃ c d items others, compile .standard q = .ok c ∧ compile .standard other = .ok d ∧
      Sql.scan ['\''] c.sql = some items ∧ Sql.scan ['\''] d.sql = some others ∧
      Item.contents items = ["dis", ",", ",", ",", "dis", "%,str,%", "it's", "o'clock", "lib"] ∧
      Item.skeleton others = Item.skeleton items := by
  intro q other
  have hparse : parse q.filter = .ok (.compare ⟨["dis"]⟩ .eq (.str "it's")) := by cbv
  have hother : parse other.filter = .ok (.compare ⟨["name"]⟩ .eq (.str "' OR '1' = '1")) := by cbv
  have hc : ∃ c, compile .standard q = .ok c :=
    ⟨_, compile_eq_ok_iff.mpr ⟨by decide, _, _, hparse, rfl, rfl⟩⟩
  have hd : ∃ d, compile .standard other = .ok d :=
    ⟨_, compile_eq_ok_iff.mpr ⟨by decide, _, _, hother, rfl, rfl⟩⟩
  obtain ⟨c, hc⟩ := hc
  obtain ⟨d, hd⟩ := hd
  obtain ⟨e, items, he, hscan, hcontents, hsame⟩ := literals_quoted hc
  obtain rfl := Except.ok.inj (he.symm.trans hparse)
  obtain ⟨others, hothers, hskeleton⟩ := hsame other d _ hd hother rfl rfl rfl rfl
    (.inr ⟨_, _, rfl, rfl, rfl⟩)
  refine ⟨c, d, items, others, hc, hd, hscan, hothers, hcontents.trans ?_, hskeleton⟩
  decide

end Query

end EntityFilter
