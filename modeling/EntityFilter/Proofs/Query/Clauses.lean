import EntityFilter.Proofs.Query.Select

/-!
# Clauses of statements

A statement that selects from a list of tables is read into its clauses (`Sql.Clauses.ofItems?`):
the entries of its list of columns, those of its list of tables, and the conditions between `AND`.
From the clauses can be told which rows the tables are given names for (`declared`), of which rows
columns are used (`used`), what is selected under a name, and which columns are compared with a
literal or with each other.

**Clauses that are written are read back** (`Sql.Clauses.ofItems?_written`).  Writing is made of
signs (`Sql.Sign`), each of which ends the word in front of it.
-/

namespace EntityFilter

namespace Sql

/-! ### Reading clauses -/

/-- A statement: the entries of its two lists, its conditions, and what follows them. -/
structure Clauses (α : Type) where
  columns : List (List α)
  tables : List (List α)
  conditions : List (List α)
  tail : List α
deriving DecidableEq, Repr

namespace Clauses

variable {α β : Type}

/-- The part stands behind all conditions. -/
def endsConditions (p : Part) : Bool :=
  p == .word "GROUP" || p == .word "LIMIT"

/-- The clauses of a statement with these parts. -/
def ofParts? (parts : List Part) : Option (Clauses Part) := do
  let (_, rest) ← Part.cut? "SELECT" parts
  let (columns, rest) ← Part.cut? "FROM" rest
  let (tables, rest) ← Part.cut? "WHERE" rest
  pure ⟨columns.splitOn .comma, tables.splitOn .comma,
    (rest.takeWhile fun p => !endsConditions p).splitOn (.word "AND"),
    rest.dropWhile fun p => !endsConditions p⟩

/-- The clauses of the statement that is scanned into these items. -/
def ofItems? (is : List Item) : Option (Clauses Part) :=
  (partsFrom (.outside []) is).bind ofParts?

/-- The rows that the tables are given names for. -/
def declared (s : Clauses Part) : List String :=
  s.tables.filterMap fun entry => entry.getLast?.bind Part.word?

/-- The rows of which columns are mentioned, also in parentheses. -/
def rowsOf (parts : List Part) : List String :=
  (parts.flatMap Part.words).filterMap fun w => (dotted? w).map Prod.fst

/-- The rows of which columns are selected, restricted or grouped. -/
def used (s : Clauses Part) : List String :=
  rowsOf (s.columns.flatten ++ s.conditions.flatten ++ s.tail)

/-- What is selected under a name. -/
def selected (s : Clauses Part) (name : String) : List (List Part) :=
  s.columns.filterMap fun entry =>
    match entry.reverse with
    | .word n :: .word "AS" :: value => if n = name then some value.reverse else none
    | _                              => none

/-- The columns that have to be equal to a literal. -/
def tests (s : Clauses Part) : List (String × String) :=
  s.conditions.filterMap fun
    | [.word column, .word "=", .literal content] => some (column, String.ofList content)
    | _                                           => none

/-- The columns that have to be equal to another one. -/
def joins (s : Clauses Part) : List (String × String) :=
  s.conditions.filterMap fun
    | [.word column, .word "=", .word other] => some (column, other)
    | _                                      => none

example :
    ((scan ['\'']
      "SELECT f(a.x), b.y AS z FROM t a, u b WHERE a.k = b.k AND b.n = 'm' LIMIT 1").bind ofItems?).map (fun s => (s.declared, s.used, s.selected "z", s.tests, s.joins)) =
    some (["a", "b"], ["a", "b", "a", "b", "b"], [[.word "b.y"]], [("b.n", "m")],
      [("a.k", "b.k")]) := by
  cbv

theorem rowsOf_append (ps qs : List Part) : rowsOf (ps ++ qs) = rowsOf ps ++ rowsOf qs := by
  rw [rowsOf, List.flatMap_append, List.filterMap_append]
  rfl

/-- The rows are those of the single parts. -/
theorem rowsOf_subset_iff {ps : List Part} {rows : List String} :
    rowsOf ps ⊆ rows ↔ ∀ p ∈ ps, rowsOf [p] ⊆ rows := by
  induction ps with
  | nil => simp [rowsOf]
  | cons p ps ih =>
      rw [← List.singleton_append, rowsOf_append, List.append_subset, ih, List.singleton_append,
        List.forall_mem_cons]

theorem rowsOf_flatten_subset {entries : List (List Part)} {rows : List String} :
    rowsOf entries.flatten ⊆ rows ↔ ∀ entry ∈ entries, rowsOf entry ⊆ rows := by
  induction entries with
  | nil => simp [rowsOf]
  | cons entry entries ih =>
      rw [List.flatten_cons, rowsOf_append, List.append_subset, ih, List.forall_mem_cons]

/-- The rows that are used are those of the entries. -/
theorem used_subset_iff {s : Clauses Part} {rows : List String} :
    s.used ⊆ rows ↔ (∀ entry ∈ s.columns, rowsOf entry ⊆ rows) ∧
      (∀ entry ∈ s.conditions, rowsOf entry ⊆ rows) ∧ rowsOf s.tail ⊆ rows := by
  rw [used, rowsOf_append, rowsOf_append, List.append_subset, List.append_subset,
    rowsOf_flatten_subset, rowsOf_flatten_subset, and_assoc]

theorem rowsOf_word (w : String) : rowsOf [.word w] = ((dotted? w).map Prod.fst).toList := by
  simp only [rowsOf, List.flatMap_singleton, Part.words]
  cases h : dotted? w <;> simp [h]

/-- The row of a column. -/
theorem rowsOf_dotted {row column : String} (hrow : '.' ∉ row.toList)
    (hcolumn : '.' ∉ column.toList) : rowsOf [.word (row ++ "." ++ column)] = [row] := by
  rw [rowsOf_word, dotted?_append hrow hcolumn]
  rfl

/-! ### Clauses in a row -/

/-- The clauses behind their words, with signs between the entries. -/
def inRow (word : String → α) (comma : α) (s : Clauses α) : List α :=
  word "SELECT" :: ([comma].intercalate s.columns ++ word "FROM" ::
    ([comma].intercalate s.tables ++ word "WHERE" ::
      ([word "AND"].intercalate s.conditions ++ s.tail)))

/-- The words that stand between clauses, conditions and what follows them. -/
def keywords : List String :=
  ["FROM", "WHERE", "AND", "GROUP", "LIMIT"]

/-- The part does not end an entry. -/
def Ordinary (p : Part) : Prop :=
  p ≠ .comma ∧ ∀ w ∈ keywords, p ≠ .word w

/-- There are entries, and they are read to their ends. -/
structure WellFormed (s : Clauses Part) : Prop where
  columns_ne : s.columns ≠ []
  tables_ne : s.tables ≠ []
  conditions_ne : s.conditions ≠ []
  ordinary : ∀ entry ∈ s.columns ++ s.tables ++ s.conditions, ∀ p ∈ entry, Ordinary p
  tail : ∃ p rest, s.tail = p :: rest ∧ endsConditions p

end Clauses

section Intercalate

variable {α β : Type}

theorem intercalate_cons (separator first : List α) (others : List (List α)) :
    separator.intercalate (first :: others) =
      first ++ others.flatMap fun entry => separator ++ entry := by
  induction others generalizing first with
  | nil => simp [List.intercalate]
  | cons next others ih => rw [List.intercalate_cons_cons, ih, List.flatMap_cons]; simp

theorem mem_intercalate {separator : List α} {entries : List (List α)} {a : α}
    (h : a ∈ separator.intercalate entries) : a ∈ separator ∨ ∃ entry ∈ entries, a ∈ entry := by
  cases entries with
  | nil => simp [List.intercalate] at h
  | cons first others =>
      rw [intercalate_cons, List.mem_append, List.mem_flatMap] at h
      rcases h with h | ⟨entry, hentry, h⟩
      · exact .inr ⟨first, List.mem_cons_self, h⟩
      · rcases List.mem_append.mp h with h | h
        · exact .inl h
        · exact .inr ⟨entry, List.mem_cons_of_mem _ hentry, h⟩

theorem map_intercalate (f : α → β) (separator : List α) (entries : List (List α)) :
    (separator.intercalate entries).map f =
      (separator.map f).intercalate (entries.map (List.map f)) := by
  cases entries with
  | nil => rfl
  | cons first others =>
      rw [List.map_cons, intercalate_cons, intercalate_cons, List.map_append, List.map_flatMap,
        List.flatMap_map]
      simp only [List.map_append]

end Intercalate

namespace Clauses

/-- **Clauses are read back from their parts.** -/
theorem ofParts?_inRow {s : Clauses Part} (h : s.WellFormed) :
    ofParts? (s.inRow .word .comma) = some s := by
  have hordinary := h.ordinary
  simp only [List.forall_mem_append] at hordinary
  obtain ⟨⟨hcolumns, htables⟩, hconditions⟩ := hordinary
  -- commas and words stand between entries, not in them
  have hcomma : ∀ {entries : List (List Part)}, (∀ entry ∈ entries, ∀ p ∈ entry, Ordinary p) →
      ∀ entry ∈ entries, .comma ∉ entry :=
    fun hentries entry hentry hmem => (hentries entry hentry _ hmem).1 rfl
  have hword : ∀ {entries : List (List Part)} {w : String},
      (∀ entry ∈ entries, ∀ p ∈ entry, Ordinary p) → w ∈ keywords →
      Part.word w ∉ [Part.comma].intercalate entries := fun hentries hw hmem => by
    rcases mem_intercalate hmem with hmem | ⟨entry, hentry, hmem⟩
    · cases List.mem_singleton.mp hmem
    · exact (hentries entry hentry _ hmem).2 _ hw rfl
  have hends : ∀ p ∈ [Part.word "AND"].intercalate s.conditions, (!endsConditions p) = true := by
    intro p hp
    rcases mem_intercalate hp with hp | ⟨entry, hentry, hp⟩
    · rw [List.mem_singleton.mp hp]
      rfl
    · have hkeyword := (hconditions entry hentry p hp).2
      simp [endsConditions, hkeyword "GROUP" (by decide), hkeyword "LIMIT" (by decide)]
  have hand : ∀ entry ∈ s.conditions, Part.word "AND" ∉ entry :=
    fun entry hentry hmem => (hconditions entry hentry _ hmem).2 "AND" (by decide) rfl
  obtain ⟨p, rest, htail, hp⟩ := h.tail
  have hselect : Part.cut? "SELECT" (s.inRow .word .comma) = some ([], _) :=
    @Part.cut?_append "SELECT" [] (by simp) _
  rw [ofParts?, hselect]
  simp only [Option.bind_eq_bind, Option.bind_some]
  rw [Part.cut?_append (hword hcolumns (by decide)), Option.bind_some,
    Part.cut?_append (hword htables (by decide)), Option.bind_some,
    List.splitOn_intercalate _ (hcomma hcolumns) h.columns_ne,
    List.splitOn_intercalate _ (hcomma htables) h.tables_ne,
    List.takeWhile_append_of_pos hends, List.dropWhile_append_of_pos hends, htail,
    List.takeWhile_cons_of_neg (by simp [hp]), List.dropWhile_cons_of_neg (by simp [hp]),
    List.append_nil, List.splitOn_intercalate _ hand h.conditions_ne, ← htail]
  rfl

end Clauses

/-! ### Writing clauses -/

/-- A word that is kept as it is. -/
def Plain (w : String) : Prop :=
  Unmarked w ∧ Solid w.toList

instance (w : String) : Decidable (Plain w) :=
  inferInstanceAs (Decidable (_ ∧ _))

theorem Plain.append {s t : String} (hs : Plain s) (ht : Plain t) : Plain (s ++ t) := by
  refine ⟨unmarked_append hs.1 ht.1, ?_⟩
  rw [String.toList_append]
  exact hs.2.append ht.2

theorem plain_natural (n : Nat) : Plain (Text.natural n) :=
  ⟨unmarked_natural n, solid_of_all (char_natural n) (by decide)⟩

theorem plain_of_isIdentifier {w : String} (h : isIdentifier w) : Plain w :=
  ⟨unmarked_of_isIdentifier h, solid_of_isIdentifier h⟩

/-- A part of a statement as it is written: words and literals behind a blank. -/
inductive Sign
  | word (text : String)
  | comma
  | literal (text : String)
  | identifier (text : String)
  /-- Items in parentheses. -/
  | group (inside : List Item)

namespace Sign

/-- What a scan finds of a sign. -/
def items : Sign → List Item
  | word text       => .char ' ' :: text.toList.map .char
  | comma           => [.char ',']
  | literal text    => [.char ' ', .literal text]
  | identifier text => [.quoted '"' text.toList]
  | group inside    => .char '(' :: (inside ++ [.char ')'])

/-- The part that is read. -/
def part : Sign → Part
  | word text                       => .word text
  | comma                           => .comma
  | literal text | identifier text  => .literal text.toList
  | group inside                    => .group inside

/-- The sign is one part. -/
def WellFormed : Sign → Prop
  | word text    => text ≠ "" ∧ Plain text
  | group inside => ∃ ls, Nests 0 0 (inside.filter Item.isMark) ls
  | _            => True

/-- The sign is one part, and does not end an entry. -/
def Ordinary (s : Sign) : Prop :=
  s.WellFormed ∧ Clauses.Ordinary s.part

/-- The word is ordinary as it stands. -/
def isFixed (text : String) : Bool :=
  text ≠ "" ∧ Plain text ∧ text ∉ Clauses.keywords

theorem ordinary_of_isFixed {text : String} (h : isFixed text) : (word text).Ordinary := by
  obtain ⟨hne, hplain, hkeyword⟩ := of_decide_eq_true h
  refine ⟨⟨hne, hplain⟩, nofun, fun w hw heq => hkeyword ?_⟩
  rwa [Part.word.inj heq]

/-- A word that is not all capital letters is ordinary. -/
theorem ordinary_word {text : String} (h : Plain text) {c : Char} (hmem : c ∈ text.toList)
    (hc : c.isUpper = false) : (word text).Ordinary := by
  have hupper : ∀ w ∈ Clauses.keywords, ∀ d ∈ w.toList, d.isUpper := by
    simp [Clauses.keywords]
  refine ordinary_of_isFixed (decide_eq_true ⟨?_, h, fun hw => ?_⟩)
  · rintro rfl
    cases hmem
  · rw [hupper text hw c hmem] at hc
    cases hc

theorem ordinary_literal (text : String) : (literal text).Ordinary :=
  ⟨trivial, nofun, fun _ _ => nofun⟩

theorem ordinary_identifier (text : String) : (identifier text).Ordinary :=
  ⟨trivial, nofun, fun _ _ => nofun⟩

theorem ordinary_group {inside : List Item} {ls : List String}
    (h : Nests 0 0 (inside.filter Item.isMark) ls) : (group inside).Ordinary :=
  ⟨⟨ls, h⟩, nofun, fun _ _ => nofun⟩

/-- Behind any word, signs are read as their parts. -/
theorem partsFrom_items {signs : List Sign} (h : ∀ s ∈ signs, s.WellFormed) (word : List Char) :
    partsFrom (.outside word) (signs.flatMap items) =
      some (Part.ofWord word ++ signs.map part) := by
  induction signs generalizing word with
  | nil => rw [List.map_nil, List.append_nil]; rfl
  | cons s signs ih =>
      obtain ⟨hs, hsigns⟩ := List.forall_mem_cons.mp h
      rw [List.flatMap_cons, List.map_cons]
      cases s with
      | word text =>
          obtain ⟨hne, hunmarked, hsolid⟩ := hs
          have hchars := Reads.chars hunmarked [] (signs.flatMap items)
          have hword := Part.ofChars_of_solid hsolid [] []
          rw [List.append_nil, List.nil_append] at hword
          rw [hword, ih hsigns] at hchars
          change (partsFrom (.outside []) (text.toList.map .char ++ _)).map _ = _
          rw [hchars, Part.ofChars, Part.ofWord_toList hne]
          rfl
      | comma =>
          change (partsFrom (.outside []) (signs.flatMap items)).map _ = _
          rw [ih hsigns]
          rfl
      | literal text =>
          change ((partsFrom (.outside []) (signs.flatMap items)).map _).map _ = _
          rw [ih hsigns]
          rfl
      | identifier text =>
          change (partsFrom (.outside []) (signs.flatMap items)).map _ = _
          rw [ih hsigns]
          rfl
      | group inside =>
          obtain ⟨ls, hnests⟩ := hs
          have hgroup := Reads.group hnests word (signs.flatMap items)
          rw [ih hsigns] at hgroup
          rw [items, hgroup]
          simp [Part.ofWord, part]

end Sign

namespace Clauses

variable {α β : Type}

/-- The clauses with `f` applied to each sign. -/
def map (f : α → β) (s : Clauses α) : Clauses β :=
  ⟨s.columns.map (List.map f), s.tables.map (List.map f), s.conditions.map (List.map f),
    s.tail.map f⟩

/-- The signs of clauses. -/
def signs (s : Clauses Sign) : List Sign :=
  s.inRow .word .comma

theorem map_signs (s : Clauses Sign) :
    s.signs.map Sign.part = (s.map Sign.part).inRow .word .comma := by
  simp only [signs, inRow, map, List.map_cons, List.map_append, map_intercalate, List.map_nil]
  rfl

theorem wellFormed_signs {s : Clauses Sign}
    (h : ∀ entry ∈ s.columns ++ s.tables ++ s.conditions, ∀ t ∈ entry, t.WellFormed)
    (htail : ∀ t ∈ s.tail, t.WellFormed) : ∀ t ∈ s.signs, t.WellFormed := by
  have hword : ∀ w ∈ ["SELECT", "FROM", "WHERE", "AND"], (Sign.word w).WellFormed := by
    intro w hw
    simp only [List.mem_cons, List.not_mem_nil, or_false] at hw
    rcases hw with rfl | rfl | rfl | rfl <;> exact ⟨by decide, by decide⟩
  have hentries : ∀ {separator : Sign} {entries : List (List Sign)}, separator.WellFormed →
      (∀ entry ∈ entries, ∀ t ∈ entry, t.WellFormed) →
      ∀ t ∈ [separator].intercalate entries, t.WellFormed := fun hseparator hall t ht => by
    rcases mem_intercalate ht with ht | ⟨entry, hentry, ht⟩
    · rw [List.mem_singleton.mp ht]
      exact hseparator
    · exact hall entry hentry t ht
  simp only [List.forall_mem_append] at h
  obtain ⟨⟨hcolumns, htables⟩, hconditions⟩ := h
  simp only [signs, inRow, List.forall_mem_cons, List.forall_mem_append]
  exact ⟨hword _ (by simp), hentries trivial hcolumns, hword _ (by simp), hentries trivial htables,
    hword _ (by simp), hentries (hword _ (by simp)) hconditions, htail⟩

/-- **Clauses that are written are read back.** -/
theorem ofItems?_written {s : Clauses Sign} {is : List Item}
    (his : .char ' ' :: is = s.signs.flatMap Sign.items)
    (hne : s.columns ≠ [] ∧ s.tables ≠ [] ∧ s.conditions ≠ [])
    (hentries : ∀ entry ∈ s.columns ++ s.tables ++ s.conditions, ∀ t ∈ entry, t.Ordinary)
    (hsigns : ∀ t ∈ s.tail, t.WellFormed)
    (htail : ∃ t rest, s.tail = t :: rest ∧ endsConditions t.part) :
    ofItems? is = some (s.map Sign.part) := by
  have hwell : ∀ t ∈ s.signs, t.WellFormed :=
    wellFormed_signs (fun entry hentry t ht => (hentries entry hentry t ht).1) hsigns
  have hparts : partsFrom (.outside []) (.char ' ' :: is) = some (s.signs.map Sign.part) := by
    rw [his]
    exact Sign.partsFrom_items hwell []
  have hblank : partsFrom (.outside []) (.char ' ' :: is) = partsFrom (.outside []) is := by
    change (partsFrom (.outside []) is).map _ = _
    simp [Part.ofWord]
  rw [ofItems?, ← hblank, hparts, map_signs]
  refine ofParts?_inRow ⟨by simpa [map] using hne.1, by simpa [map] using hne.2.1,
    by simpa [map] using hne.2.2, ?_, ?_⟩
  · simp only [map, ← List.map_append, List.forall_mem_map]
    exact fun entry hentry t ht => (hentries entry hentry t ht).2
  · obtain ⟨t, rest, htail, hends⟩ := htail
    exact ⟨t.part, rest.map Sign.part, by simp [map, htail], hends⟩

end Clauses

end Sql

end EntityFilter
