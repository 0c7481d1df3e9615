import EntityFilter.Query.Values
import EntityFilter.Proofs.Query.Clauses
import EntityFilter.Proofs.Query.Quotes

/-!
# Statements for time series

The statement for a time series has the name of a table between double quotes and the names of tags
between single quotes, whatever characters these names are made of.  It is legible, so it is scanned
into its pieces (`SeriesQuery.legible_pieces`).

**The clauses of the statement are read back** (`SeriesQuery.ofItems?_pieces`).  The clauses
(`SeriesQuery.clauses`) are said for all labels at once, and the kind of an entity is one more label.
-/

namespace EntityFilter

open Sql (Piece Item Part Sign Clauses)
open Sql.Piece (code literal identifier)
open Sql (Legible bothQuotes)

namespace SeriesQuery

/-! ### The statement is legible -/

theorem exists_numberedLabels (q : SeriesQuery) :
    ∃ first rest, q.numberedLabels = first :: rest := by
  have hne : q.labels ≠ [] := by
    rw [labels]
    split
    · simp
    · rename_i h
      simpa using h
  apply List.exists_cons_of_ne_nil
  simpa [numberedLabels] using hne

theorem unquoted_number {q : SeriesQuery} {l : String × String} (h : l ∈ q.numberedLabels) :
    Sql.Unquoted l.1 := by
  obtain ⟨label, -, rfl⟩ := List.mem_map.mp h
  exact Sql.unquoted_natural _

/-- The values of labels, joined. -/
def namePieces (labels : List (String × String)) : List Piece :=
  Sql.between [code " || ", literal "||", code " || "]
    (labels.map fun l => [code s!"et{l.1}.value_s"])

/-- The tables of a label. -/
def tablePieces (schema n : String) : List Piece :=
  [code ", "] ++ Sql.table schema "tag_def" ++ [code s!" td{n}, "] ++
    Sql.table schema "entity_tag" ++ [code s!" et{n}"]

/-- The conditions on a label. -/
def conditionPieces (n label : String) : List Piece :=
  [code s!" AND td{n}.name = ", literal label,
    code s!" AND td{n}.id = et{n}.tag_id AND et{n}.entity_id = v.entity_id"]

/-- What stands behind the conditions. -/
def tailPieces (bucketing : Option Bucketing) : List Piece :=
  (if bucketing.isSome then [code " GROUP BY v.entity_id, v.status, kind, entity_name, time"]
    else []) ++ [code s!" LIMIT {Text.natural valuesRowLimit}"]

theorem legible_leading (bucketing : Option Bucketing) : Legible false (leading bucketing) := by
  cases bucketing with
  | none | some b =>
      exact ⟨by simp [leading, Sql.Spaced, Piece.quote?, Piece.text],
        by simp [leading, Sql.isQuote]⟩

theorem legible_aggregate (bucketing : Option Bucketing) : Legible false (aggregate bucketing) := by
  cases bucketing with
  | none => exact .nil false
  | some b =>
      refine ⟨by simp [aggregate, Sql.Spaced, Piece.quote?, Piece.text, toString], ?_⟩
      cases hfunction : b.aggregation <;>
        simp [aggregate, hfunction, Aggregation.function, Sql.isQuote, toString]

theorem legible_namePieces {labels : List (String × String)} (h : ∀ l ∈ labels, Sql.Unquoted l.1) :
    Legible false (namePieces labels) := by
  have hname : ∀ l ∈ labels, Legible false [code s!"et{l.1}.value_s"] := fun l hl =>
    ⟨by simp [Sql.Spaced, Piece.quote?, Piece.text, toString],
      by simp [h l hl, Sql.isQuote, toString]⟩
  have hsign : Legible false [code " || ", literal "||", code " || "] :=
    ⟨by simp [Sql.Spaced, Piece.quote?, Piece.text], by simp [Sql.isQuote]⟩
  rw [namePieces, Sql.between_eq_intercalate]
  cases labels with
  | nil => exact .nil false
  | cons first others =>
      obtain ⟨hfirst, hothers⟩ := List.forall_mem_cons.mp hname
      rw [List.map_cons, Sql.intercalate_cons, List.flatMap_map]
      exact hfirst.append (.flatMap fun l hl => hsign.append (hothers l hl))

theorem legible_tablePieces {schema n : String} (hschema : Sql.Unquoted schema)
    (hn : Sql.Unquoted n) : Legible false (tablePieces schema n) :=
  ⟨by simp [tablePieces, Sql.table, Sql.Spaced, Piece.quote?, Piece.text, toString],
    by simp [tablePieces, Sql.table, hschema, hn, Sql.isQuote, toString]⟩

theorem legible_conditionPieces {n : String} (hn : Sql.Unquoted n) (label : String) :
    Legible false (conditionPieces n label) :=
  ⟨by simp [conditionPieces, Sql.Spaced, Piece.quote?, Piece.text, toString],
    by simp [conditionPieces, hn, Sql.isQuote, toString]⟩

theorem legible_tailPieces (bucketing : Option Bucketing) :
    Legible false (tailPieces bucketing) := by
  have hlimit : Sql.Unquoted (Text.natural valuesRowLimit) := Sql.unquoted_natural _
  cases bucketing with
  | none | some b =>
      exact ⟨by simp [tailPieces, Sql.Spaced, Piece.quote?, Piece.text, toString],
        by simp [tailPieces, hlimit, Sql.isQuote, toString]⟩

/-- The columns of the statement. -/
def columnPieces (q : SeriesQuery) : List Piece :=
  [code "SELECT "] ++ leading q.bucketing ++ namePieces q.numberedLabels ++
    [code " AS entity_name"] ++ aggregate q.bucketing

/-- The tables for the kind of an entity, and the first condition. -/
def kindTablePieces (schema : String) : List Piece :=
  [code ", "] ++ Sql.table schema "tag_def" ++ [code " td2, "] ++ Sql.table schema "entity_tag" ++
    [code " et2 WHERE v.entity_id = ANY($1)"]

/-- The conditions on the kind of an entity, and the last ones. -/
def kindConditionPieces : List Piece :=
  [code " AND td2.name = ", literal "kind",
    code " AND td2.id = et2.tag_id AND et2.entity_id = v.entity_id AND v.ts > $2 AND v.ts < $3"]

/-- The statement by its clauses. -/
theorem pieces_eq (q : SeriesQuery) : q.pieces = q.columnPieces ++
    ([code s!" FROM {q.schema}.", identifier q.valueTable, code " v"] ++
    ((q.numberedLabels.flatMap fun l => tablePieces q.schema l.1) ++ (kindTablePieces q.schema ++
    ((q.numberedLabels.flatMap fun l => conditionPieces l.1 l.2) ++
    (kindConditionPieces ++ tailPieces q.bucketing))))) := by
  unfold pieces columnPieces namePieces tablePieces kindTablePieces conditionPieces
    kindConditionPieces tailPieces
  simp only [List.append_assoc]

theorem legible_columnPieces (q : SeriesQuery) : Legible true q.columnPieces := by
  have hselect : Legible true [code "SELECT "] :=
    ⟨by simp [Sql.Spaced, Piece.quote?, Piece.text], by simp [Sql.isQuote]⟩
  have hname : Legible false [code " AS entity_name"] :=
    ⟨by simp [Sql.Spaced, Piece.quote?, Piece.text], by simp [Sql.isQuote]⟩
  exact (((hselect.append (legible_leading q.bucketing)).append
    (legible_namePieces fun _ => unquoted_number)).append hname).append
    (legible_aggregate q.bucketing)

theorem legible_pieces {q : SeriesQuery} (hschema : Sql.isIdentifier q.schema) :
    Legible true q.pieces := by
  have hs := Sql.unquoted_of_isIdentifier hschema
  have hfrom : Legible false [code s!" FROM {q.schema}.", identifier q.valueTable, code " v"] :=
    ⟨by simp [Sql.Spaced, Piece.quote?, Piece.text, toString],
      by simp [hs, Sql.isQuote, toString]⟩
  have hkind : Legible false (kindTablePieces q.schema) :=
    ⟨by simp [kindTablePieces, Sql.table, Sql.Spaced, Piece.quote?, Piece.text, toString],
      by simp [kindTablePieces, Sql.table, hs, Sql.isQuote, toString]⟩
  have hlast : Legible false kindConditionPieces :=
    ⟨by simp [kindConditionPieces, Sql.Spaced, Piece.quote?, Piece.text],
      by simp [kindConditionPieces, Sql.isQuote]⟩
  have htables : Legible false (q.numberedLabels.flatMap fun l => tablePieces q.schema l.1) :=
    .flatMap fun l hl => legible_tablePieces hs (unquoted_number hl)
  have hconditions : Legible false (q.numberedLabels.flatMap fun l => conditionPieces l.1 l.2) :=
    .flatMap fun l hl => legible_conditionPieces (unquoted_number hl) l.2
  rw [pieces_eq]
  exact (legible_columnPieces q).append (hfrom.append (htables.append (hkind.append
    (hconditions.append (hlast.append (legible_tailPieces q.bucketing))))))

/-! ### The clauses of the statement -/

/-- The labels, and the kind of an entity as one more, with the numbers of their rows. -/
def rows (q : SeriesQuery) : List (String × String) :=
  q.numberedLabels ++ [("2", "kind")]

/-- The columns in front of the name of an entity. -/
def leadingColumns (bucketing : Option Bucketing) : List (List Sign) :=
  match bucketing with
  | none   => [[.word "v.*"], [.word "et2.value_s", .word "AS", .word "kind"]]
  | some b =>
    [[.word "time_bucket_gapfill", .group (Sql.items bothQuotes
        [code "INTERVAL ", literal s!"{Text.natural b.seconds} seconds", code ", v.ts, $2, $3"]),
      .word "AS", .word "time"],
     [.word "v.entity_id"], [.word "v.status"],
     [.word "et2.value_s", .word "AS", .word "kind"]]

/-- The name of an entity, from the rows of its labels. -/
def nameSigns (labels : List (String × String)) : List Sign :=
  [Sign.word "||", .literal "||", .word "||"].intercalate
    (labels.map fun l => [.word ("et" ++ l.1 ++ ".value_s")])

/-- The aggregated value. -/
def aggregateColumns (bucketing : Option Bucketing) : List (List Sign) :=
  match bucketing with
  | none   => []
  | some b =>
    [[.word "locf", .group (Sql.items bothQuotes
        [code "CASE WHEN et2.value_s = ", literal "Number",
         code s!" THEN {b.aggregation.function}(v.value_n) END"]),
      .word "AS", .word "value_n"]]

/-- The tables for a label. -/
def rowTables (schema n : String) : List (List Sign) :=
  [[.word (schema ++ ".tag_def"), .word ("td" ++ n)],
   [.word (schema ++ ".entity_tag"), .word ("et" ++ n)]]

/-- The conditions on the rows for a label. -/
def rowConditions (n label : String) : List (List Sign) :=
  [[.word ("td" ++ n ++ ".name"), .word "=", .literal label],
   [.word ("td" ++ n ++ ".id"), .word "=", .word ("et" ++ n ++ ".tag_id")],
   [.word ("et" ++ n ++ ".entity_id"), .word "=", .word "v.entity_id"]]

/-- What stands behind the conditions. -/
def tailSigns (bucketing : Option Bucketing) : List Sign :=
  match bucketing with
  | none   => [.word "LIMIT", .word (Text.natural valuesRowLimit)]
  | some _ =>
    [.word "GROUP", .word "BY", .word "v.entity_id", .comma, .word "v.status", .comma,
     .word "kind", .comma, .word "entity_name", .comma, .word "time",
     .word "LIMIT", .word (Text.natural valuesRowLimit)]

/-- The clauses of the statement. -/
def clauses (q : SeriesQuery) : Clauses Sign where
  columns := leadingColumns q.bucketing ++
    (nameSigns q.numberedLabels ++ [.word "AS", .word "entity_name"]) ::
    aggregateColumns q.bucketing
  tables := [.word (q.schema ++ "."), .identifier q.valueTable, .word "v"] ::
    q.rows.flatMap fun row => rowTables q.schema row.1
  conditions := [.word "v.entity_id", .word "=", .word "ANY", .group ("$1".toList.map .char)] ::
    ((q.rows.flatMap fun row => rowConditions row.1 row.2) ++
      [[.word "v.ts", .word ">", .word "$2"], [.word "v.ts", .word "<", .word "$3"]])
  tail := tailSigns q.bucketing

theorem items_code_cons (t : String) (ps : List Piece) :
    Sql.items bothQuotes (code t :: ps) = t.toList.map .char ++ Sql.items bothQuotes ps := rfl

theorem items_nil : Sql.items bothQuotes [] = [] := rfl

theorem items_literal_cons (t : String) (ps : List Piece) :
    Sql.items bothQuotes (literal t :: ps) = .literal t :: Sql.items bothQuotes ps := rfl

theorem items_flatMap {α : Type} (f : α → List Piece) (as : List α) :
    Sql.items bothQuotes (as.flatMap f) = as.flatMap fun a => Sql.items bothQuotes (f a) :=
  List.flatMap_assoc

theorem items_namePieces {labels : List (String × String)} (h : labels ≠ []) :
    .char ' ' :: Sql.items bothQuotes (namePieces labels) =
      (nameSigns labels).flatMap Sign.items := by
  obtain ⟨first, others, rfl⟩ := List.exists_cons_of_ne_nil h
  rw [namePieces, nameSigns, Sql.between_eq_intercalate, List.map_cons, List.map_cons,
    Sql.intercalate_cons, Sql.intercalate_cons, Sql.items_append, List.flatMap_map,
    List.flatMap_map, items_flatMap, List.flatMap_append, List.flatMap_assoc]
  rfl

theorem items_tablePieces (schema n : String) :
    Sql.items bothQuotes (tablePieces schema n) =
      ((rowTables schema n).flatMap fun entry => [Sign.comma] ++ entry).flatMap Sign.items := by
  simp only [tablePieces, rowTables, Sql.table, toString, items_code_cons, items_nil,
    String.toList_append, List.map_append, List.flatMap_cons, List.flatMap_nil, Sign.items,
    List.append_assoc, List.cons_append, List.nil_append, List.append_nil]
  rfl

theorem items_conditionPieces (n label : String) :
    Sql.items bothQuotes (conditionPieces n label) =
      ((rowConditions n label).flatMap fun entry => [Sign.word "AND"] ++ entry).flatMap
        Sign.items := by
  simp only [conditionPieces, rowConditions, toString, items_code_cons, items_literal_cons,
    String.toList_append, List.map_append, List.flatMap_cons, List.flatMap_nil, Sign.items,
    List.append_assoc, List.cons_append, List.nil_append, List.append_nil]
  rfl

theorem items_tailPieces (bucketing : Option Bucketing) :
    Sql.items bothQuotes (tailPieces bucketing) = (tailSigns bucketing).flatMap Sign.items := by
  cases bucketing with
  | none => rfl
  | some b => rfl

theorem items_columns (q : SeriesQuery) :
    .char ' ' :: Sql.items bothQuotes q.columnPieces =
      (Sign.word "SELECT" :: [Sign.comma].intercalate q.clauses.columns).flatMap Sign.items := by
  obtain ⟨first, others, hlabels⟩ := q.exists_numberedLabels
  have hnames := @items_namePieces q.numberedLabels (by simp [hlabels])
  cases hbucketing : q.bucketing <;>
  · simp only [columnPieces, leading, aggregate, clauses, hbucketing, leadingColumns,
      aggregateColumns, toString, Sql.intercalate_cons, List.flatMap_cons, List.flatMap_append,
      List.flatMap_nil, ← hnames, Sql.items_append, items_code_cons, items_literal_cons, items_nil,
      Sign.items, String.toList_append, List.map_append, List.cons_append, List.nil_append,
      List.append_nil, List.append_assoc]
    rfl

theorem items_tables (q : SeriesQuery) :
    Sql.items bothQuotes ([code s!" FROM {q.schema}.", identifier q.valueTable, code " v"] ++
        q.rows.flatMap fun row => tablePieces q.schema row.1) =
      (Sign.word "FROM" :: [Sign.comma].intercalate q.clauses.tables).flatMap Sign.items := by
  have hrows : Sql.items bothQuotes (q.rows.flatMap fun row => tablePieces q.schema row.1) =
      ((q.rows.flatMap fun row => rowTables q.schema row.1).flatMap fun entry =>
        [Sign.comma] ++ entry).flatMap Sign.items := by
    simp only [items_flatMap, items_tablePieces, List.flatMap_assoc]
  rw [Sql.items_append, hrows, clauses, Sql.intercalate_cons, List.flatMap_cons,
    List.flatMap_append, ← List.append_assoc]
  congr 1
  simp only [toString, items_code_cons, String.toList_append, List.map_append, List.flatMap_cons,
    Sign.items, List.append_assoc, List.cons_append, List.nil_append]
  rfl

theorem items_conditions (q : SeriesQuery) :
    Sql.items bothQuotes ([code " WHERE v.entity_id = ANY($1)"] ++
        ((q.rows.flatMap fun row => conditionPieces row.1 row.2) ++
          ([code " AND v.ts > $2 AND v.ts < $3"] ++ tailPieces q.bucketing))) =
      (Sign.word "WHERE" :: ([Sign.word "AND"].intercalate q.clauses.conditions ++
        q.clauses.tail)).flatMap Sign.items := by
  have hrows : Sql.items bothQuotes (q.rows.flatMap fun row => conditionPieces row.1 row.2) =
      ((q.rows.flatMap fun row => rowConditions row.1 row.2).flatMap fun entry =>
        [Sign.word "AND"] ++ entry).flatMap Sign.items := by
    simp only [items_flatMap, items_conditionPieces, List.flatMap_assoc]
  rw [Sql.items_append, Sql.items_append, Sql.items_append, hrows, items_tailPieces, clauses,
    Sql.intercalate_cons, List.flatMap_append, List.flatMap_cons, List.flatMap_append,
    List.flatMap_append, List.flatMap_append, List.append_assoc, List.append_assoc]
  rfl

/-- **The statement is the writing of its clauses.** -/
theorem items_pieces (q : SeriesQuery) :
    .char ' ' :: Sql.items bothQuotes q.pieces = q.clauses.signs.flatMap Sign.items := by
  -- the rows for the kind are written like those for a label
  have htables : Sql.items bothQuotes (kindTablePieces q.schema) =
      Sql.items bothQuotes (tablePieces q.schema "2") ++
        Sql.items bothQuotes [code " WHERE v.entity_id = ANY($1)"] := by
    simp only [kindTablePieces, tablePieces, Sql.table, toString, items_code_cons, items_nil,
      String.toList_append, List.map_append, List.append_assoc, List.cons_append, List.nil_append,
      List.append_nil]
    rfl
  have hconditions : Sql.items bothQuotes kindConditionPieces =
      Sql.items bothQuotes (conditionPieces "2" "kind") ++
        Sql.items bothQuotes [code " AND v.ts > $2 AND v.ts < $3"] := by
    simp only [kindConditionPieces, conditionPieces, toString, items_code_cons, items_literal_cons,
      items_nil, String.toList_append, List.map_append, List.append_assoc, List.cons_append,
      List.append_nil]
    rfl
  have hsigns : q.clauses.signs.flatMap Sign.items =
      .char ' ' :: (Sql.items bothQuotes q.columnPieces ++ (Sql.items bothQuotes
        ([code s!" FROM {q.schema}.", identifier q.valueTable, code " v"] ++
          q.rows.flatMap fun row => tablePieces q.schema row.1) ++
      Sql.items bothQuotes ([code " WHERE v.entity_id = ANY($1)"] ++
        ((q.rows.flatMap fun row => conditionPieces row.1 row.2) ++
          ([code " AND v.ts > $2 AND v.ts < $3"] ++ tailPieces q.bucketing))))) := by
    rw [← List.cons_append, items_columns, items_tables, items_conditions, ← List.flatMap_append,
      ← List.flatMap_append]
    rfl
  rw [hsigns, pieces_eq]
  simp only [rows, Sql.items_append, List.flatMap_append, List.flatMap_singleton, htables,
    hconditions, List.append_assoc]

/-! ### Reading the statement -/

theorem exists_natural {q : SeriesQuery} {row : String × String} (h : row ∈ q.rows) :
    ∃ n, row.1 = Text.natural n := by
  rcases List.mem_append.mp h with h | h
  · obtain ⟨label, -, rfl⟩ := List.mem_map.mp h
    exact ⟨_, rfl⟩
  · rw [List.mem_singleton.mp h]
    exact ⟨2, by decide⟩

theorem ordinary_leadingColumns (bucketing : Option Bucketing) :
    ∀ entry ∈ leadingColumns bucketing, ∀ t ∈ entry, t.Ordinary := by
  have hword : ∀ {w}, Sign.isFixed w → (Sign.word w).Ordinary := Sign.ordinary_of_isFixed
  cases bucketing with
  | none =>
      simp only [leadingColumns, List.forall_mem_cons, List.not_mem_nil, false_implies,
        implies_true, and_true]
      exact ⟨hword (by decide), hword (by decide), hword (by decide), hword (by decide)⟩
  | some b =>
      have hgroup : (Sign.group (Sql.items bothQuotes [code "INTERVAL ",
          literal s!"{Text.natural b.seconds} seconds", code ", v.ts, $2, $3"])).Ordinary :=
        Sign.ordinary_group (.literal s!"{Text.natural b.seconds} seconds" (.nil 0))
      simp only [leadingColumns, List.forall_mem_cons, List.not_mem_nil, false_implies,
        implies_true, and_true]
      exact ⟨⟨hword (by decide), hgroup, hword (by decide), hword (by decide)⟩, hword (by decide),
        hword (by decide), hword (by decide), hword (by decide), hword (by decide)⟩

theorem ordinary_aggregateColumns (bucketing : Option Bucketing) :
    ∀ entry ∈ aggregateColumns bucketing, ∀ t ∈ entry, t.Ordinary := by
  have hword : ∀ {w}, Sign.isFixed w → (Sign.word w).Ordinary := Sign.ordinary_of_isFixed
  cases bucketing with
  | none => simp [aggregateColumns]
  | some b =>
      obtain ⟨aggregation, seconds⟩ := b
      have hgroup : (Sign.group (Sql.items bothQuotes [code "CASE WHEN et2.value_s = ",
          literal "Number", code s!" THEN {aggregation.function}(v.value_n) END"])).Ordinary := by
        cases aggregation <;>
          exact Sign.ordinary_group (.literal "Number" (.opening (.closing (.nil 0))))
      simp only [aggregateColumns, List.forall_mem_cons, List.not_mem_nil, false_implies,
        implies_true, and_true]
      exact ⟨hword (by decide), hgroup, hword (by decide), hword (by decide)⟩

theorem ordinary_nameSigns (q : SeriesQuery) : ∀ t ∈ nameSigns q.numberedLabels, t.Ordinary := by
  intro t ht
  rcases Sql.mem_intercalate ht with ht | ⟨entry, hentry, ht⟩
  · simp only [List.mem_cons, List.not_mem_nil, or_false] at ht
    rcases ht with rfl | rfl | rfl
    · exact Sign.ordinary_of_isFixed (by decide)
    · exact Sign.ordinary_literal _
    · exact Sign.ordinary_of_isFixed (by decide)
  · obtain ⟨l, hl, rfl⟩ := List.mem_map.mp hentry
    obtain ⟨n, hn⟩ := exists_natural (q := q) (List.mem_append_left _ hl)
    rw [List.mem_singleton.mp ht, hn]
    have hplain : Sql.Plain ("et" ++ Text.natural n ++ ".value_s") :=
      (Sql.Plain.append (by decide) (Sql.plain_natural n)).append (by decide)
    exact Sign.ordinary_word hplain (c := '.') (by simp) rfl

theorem ordinary_rowTables {schema : String} (hschema : Sql.isIdentifier schema) (n : Nat) :
    ∀ entry ∈ rowTables schema (Text.natural n), ∀ t ∈ entry, t.Ordinary := by
  have hs := Sql.plain_of_isIdentifier hschema
  have hn := Sql.plain_natural n
  have hdot : ∀ {name : String}, Sql.Plain name → '.' ∈ name.toList →
      (Sign.word (schema ++ name)).Ordinary := fun hname hmem =>
    Sign.ordinary_word (hs.append hname) (c := '.') (by simp [hmem]) rfl
  have hrow : ∀ {name : String}, Sql.Plain name → 't' ∈ name.toList →
      (Sign.word (name ++ Text.natural n)).Ordinary := fun hname hmem =>
    Sign.ordinary_word (hname.append hn) (c := 't') (by simp [hmem]) rfl
  simp only [rowTables, List.forall_mem_cons, List.not_mem_nil, false_implies, implies_true,
    and_true]
  exact ⟨⟨hdot (by decide) (by decide), hrow (by decide) (by decide)⟩,
    hdot (by decide) (by decide), hrow (by decide) (by decide)⟩

theorem ordinary_rowConditions (n : Nat) (label : String) :
    ∀ entry ∈ rowConditions (Text.natural n) label, ∀ t ∈ entry, t.Ordinary := by
  have hn := Sql.plain_natural n
  have hcolumn : ∀ {row column : String}, Sql.Plain row → Sql.Plain column → '.' ∈ column.toList →
      (Sign.word (row ++ Text.natural n ++ column)).Ordinary := fun hrow hcolumn hmem =>
    Sign.ordinary_word ((hrow.append hn).append hcolumn) (c := '.') (by simp [hmem]) rfl
  have hequal : (Sign.word "=").Ordinary := Sign.ordinary_of_isFixed (by decide)
  have hentity : (Sign.word "v.entity_id").Ordinary := Sign.ordinary_of_isFixed (by decide)
  simp only [rowConditions, List.forall_mem_cons, List.not_mem_nil, false_implies, implies_true,
    and_true]
  exact ⟨⟨hcolumn (by decide) (by decide) (by decide), hequal, Sign.ordinary_literal label⟩,
    ⟨hcolumn (by decide) (by decide) (by decide), hequal,
      hcolumn (by decide) (by decide) (by decide)⟩,
    hcolumn (by decide) (by decide) (by decide), hequal, hentity⟩

/-- No sign in an entry ends it. -/
theorem ordinary_clauses {q : SeriesQuery} (hschema : Sql.isIdentifier q.schema) :
    ∀ entry ∈ q.clauses.columns ++ q.clauses.tables ++ q.clauses.conditions,
      ∀ t ∈ entry, t.Ordinary := by
  have hword : ∀ {w}, Sign.isFixed w → (Sign.word w).Ordinary := Sign.ordinary_of_isFixed
  have htables : ∀ entry ∈ q.rows.flatMap fun row => rowTables q.schema row.1,
      ∀ t ∈ entry, t.Ordinary := by
    intro entry hentry
    obtain ⟨row, hrow, hentry⟩ := List.mem_flatMap.mp hentry
    obtain ⟨n, hn⟩ := exists_natural hrow
    rw [hn] at hentry
    exact ordinary_rowTables hschema n entry hentry
  have hconditions : ∀ entry ∈ q.rows.flatMap fun row => rowConditions row.1 row.2,
      ∀ t ∈ entry, t.Ordinary := by
    intro entry hentry
    obtain ⟨row, hrow, hentry⟩ := List.mem_flatMap.mp hentry
    obtain ⟨n, hn⟩ := exists_natural hrow
    rw [hn] at hentry
    exact ordinary_rowConditions n row.2 entry hentry
  have hfirst : (Sign.word (q.schema ++ ".")).Ordinary :=
    Sign.ordinary_word ((Sql.plain_of_isIdentifier hschema).append (by decide)) (c := '.')
      (by simp) rfl
  have hgroup : (Sign.group ("$1".toList.map .char)).Ordinary := Sign.ordinary_group (.nil 0)
  simp only [clauses, List.forall_mem_append, List.forall_mem_cons, List.not_mem_nil,
    false_implies, implies_true, and_true]
  exact ⟨⟨⟨ordinary_leadingColumns q.bucketing, ⟨ordinary_nameSigns q, hword (by decide),
    hword (by decide)⟩, ordinary_aggregateColumns q.bucketing⟩,
    ⟨hfirst, Sign.ordinary_identifier _, hword (by decide)⟩, htables⟩,
    ⟨hword (by decide), hword (by decide), hword (by decide), hgroup⟩, hconditions,
    ⟨hword (by decide), hword (by decide), hword (by decide)⟩,
    hword (by decide), hword (by decide), hword (by decide)⟩

theorem wellFormed_tailSigns (bucketing : Option Bucketing) :
    ∀ t ∈ tailSigns bucketing, t.WellFormed := by
  have hword : ∀ {w : String}, w ≠ "" → Sql.Plain w → (Sign.word w).WellFormed := And.intro
  have hcomma : Sign.comma.WellFormed := trivial
  have hlimit : (Sign.word (Text.natural valuesRowLimit)).WellFormed :=
    ⟨Text.natural_ne_empty _, Sql.plain_natural _⟩
  have hlast : (Sign.word "LIMIT").WellFormed := hword (by decide) (by decide)
  cases bucketing with
  | none => simp [tailSigns, hlimit, hlast]
  | some b =>
      simp only [tailSigns, List.forall_mem_cons, hcomma, hlimit, hlast, List.not_mem_nil,
        false_implies, implies_true, and_true, true_and]
      exact ⟨hword (by decide) (by decide), hword (by decide) (by decide),
        hword (by decide) (by decide), hword (by decide) (by decide), hword (by decide) (by decide),
        hword (by decide) (by decide), hword (by decide) (by decide)⟩

/-- **The clauses of the statement are read back.** -/
theorem ofItems?_pieces {q : SeriesQuery} (hschema : Sql.isIdentifier q.schema) :
    Clauses.ofItems? (Sql.items bothQuotes q.pieces) = some (q.clauses.map Sign.part) := by
  refine Clauses.ofItems?_written q.items_pieces (by simp [clauses]) (ordinary_clauses hschema)
    (wellFormed_tailSigns q.bucketing) ?_
  rw [clauses]
  cases q.bucketing with
  | none => exact ⟨_, _, rfl, rfl⟩
  | some b => exact ⟨_, _, rfl, rfl⟩

end SeriesQuery

end EntityFilter
