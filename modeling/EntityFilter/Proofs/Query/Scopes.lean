import EntityFilter.Proofs.Query.Series
import EntityFilter.Proofs.Text.Characters

/-!
# Scopes of time series

The statement for a time series gives a name to a row of each of its tables.  The rows for the labels
are numbered, and the numbers have to agree in the columns, the tables and the conditions.

**Names stay in their quotes, and rows in their scopes** (`SeriesQuery.sql_scoped`): a scan of the
statement with both kinds of quotes finds the names as they were given, and what stands outside
quotes does not depend on them.  Every row that is used is declared once, and each label is selected
from the row that is joined for it.
-/

namespace EntityFilter

open Sql (Piece Item Part Sign Clauses bothQuotes)
open Sql.Piece (code literal identifier)

namespace SeriesQuery

/-! ### Scopes -/

/-- The rows that are declared. -/
theorem declared_clauses (q : SeriesQuery) : (q.clauses.map Sign.part).declared =
    "v" :: q.rows.flatMap fun row => ["td" ++ row.1, "et" ++ row.1] := by
  simp [Clauses.declared, Clauses.map, clauses, rowTables, List.map_flatMap,
    List.filterMap_flatMap, Sign.part, Part.word?]

theorem tests_clauses (q : SeriesQuery) : (q.clauses.map Sign.part).tests =
    q.rows.map fun row => ("td" ++ row.1 ++ ".name", row.2) := by
  have hmap : (q.rows.map fun row => ("td" ++ row.1 ++ ".name", row.2)) =
      q.rows.flatMap fun row => [("td" ++ row.1 ++ ".name", row.2)] := List.map_eq_flatMap
  rw [hmap]
  simp [Clauses.tests, Clauses.map, clauses, rowConditions, List.map_flatMap,
    List.filterMap_flatMap, Sign.part]

theorem joins_clauses (q : SeriesQuery) : (q.clauses.map Sign.part).joins =
    q.rows.flatMap fun row => [("td" ++ row.1 ++ ".id", "et" ++ row.1 ++ ".tag_id"),
      ("et" ++ row.1 ++ ".entity_id", "v.entity_id")] := by
  simp [Clauses.joins, Clauses.map, clauses, rowConditions, List.map_flatMap,
    List.filterMap_flatMap, Sign.part]

theorem selected_clauses (q : SeriesQuery) : (q.clauses.map Sign.part).selected "entity_name" =
    [[Part.word "||", .literal "||".toList, .word "||"].intercalate
      (q.numberedLabels.map fun l => [.word ("et" ++ l.1 ++ ".value_s")])] := by
  have hname : ((nameSigns q.numberedLabels).map Sign.part) =
      [Part.word "||", .literal "||".toList, .word "||"].intercalate
        (q.numberedLabels.map fun l => [.word ("et" ++ l.1 ++ ".value_s")]) := by
    rw [nameSigns, Sql.map_intercalate, List.map_map]
    rfl
  rw [← hname]
  cases hbucketing : q.bucketing with
  | none | some b =>
      simp [Clauses.selected, Clauses.map, clauses, hbucketing, leadingColumns, aggregateColumns,
        Sign.part]

set_option maxRecDepth 4000 in
theorem rowsOf_leadingColumns (bucketing : Option Bucketing) :
    ∀ entry ∈ leadingColumns bucketing,
      Clauses.rowsOf (entry.map Sign.part) ⊆ ["v", "et2"] := by
  intro entry hentry
  suffices hall : Clauses.rowsOf ((leadingColumns bucketing).map (List.map Sign.part)).flatten ⊆
      ["v", "et2"] from Clauses.rowsOf_flatten_subset.mp hall _ (List.mem_map_of_mem hentry)
  clear hentry
  cases bucketing with
  | none =>
      have hrows : Clauses.rowsOf ((leadingColumns none).map (List.map Sign.part)).flatten =
          ["v", "et2"] := by cbv
      rw [hrows]
      exact List.Subset.refl _
  | some b =>
      have hrows : Clauses.rowsOf ((leadingColumns (some b)).map (List.map Sign.part)).flatten =
          ["v", "v", "v", "et2"] := by
        -- what stands between quotes is not looked at
        rw [leadingColumns, items_code_cons, items_literal_cons, Item.literal]
        generalize (s!"{Text.natural b.seconds} seconds").toList = width
        cbv
      rw [hrows]
      simp

set_option maxRecDepth 4000 in
theorem rowsOf_aggregateColumns (bucketing : Option Bucketing) :
    ∀ entry ∈ aggregateColumns bucketing,
      Clauses.rowsOf (entry.map Sign.part) ⊆ ["v", "et2"] := by
  intro entry hentry
  suffices hall : Clauses.rowsOf ((aggregateColumns bucketing).map (List.map Sign.part)).flatten ⊆
      ["v", "et2"] from Clauses.rowsOf_flatten_subset.mp hall _ (List.mem_map_of_mem hentry)
  clear hentry
  cases bucketing with
  | none => exact List.nil_subset _
  | some b =>
      obtain ⟨aggregation, seconds⟩ := b
      have hrows : Clauses.rowsOf ((aggregateColumns (some ⟨aggregation, seconds⟩)).map
          (List.map Sign.part)).flatten = ["et2", "v"] := by
        cases aggregation <;> cbv
      rw [hrows]
      simp

set_option maxRecDepth 4000 in
theorem rowsOf_tailSigns (bucketing : Option Bucketing) :
    Clauses.rowsOf ((tailSigns bucketing).map Sign.part) ⊆ ["v"] := by
  cases bucketing with
  | none =>
      have hrows : Clauses.rowsOf ((tailSigns none).map Sign.part) = [] := by cbv
      rw [hrows]
      exact List.nil_subset _
  | some b =>
      have hrows : Clauses.rowsOf ((tailSigns (some b)).map Sign.part) = ["v", "v"] := by cbv
      rw [hrows]
      simp

/-- The row of a numbered column. -/
theorem rowsOf_numbered (row : String) {suffix column : String} (n : Nat)
    (hsuffix : suffix = "." ++ column) (hrow : '.' ∉ row.toList) (hcolumn : '.' ∉ column.toList) :
    Clauses.rowsOf [.word (row ++ Text.natural n ++ suffix)] = [row ++ Text.natural n] := by
  rw [hsuffix, ← String.append_assoc]
  refine Clauses.rowsOf_dotted ?_ hcolumn
  rw [String.toList_append, List.mem_append, not_or]
  exact ⟨hrow, fun hmem => absurd (Sql.char_natural n '.' hmem) (by decide)⟩

theorem rowsOf_nameSigns (q : SeriesQuery) :
    Clauses.rowsOf ((nameSigns q.numberedLabels).map Sign.part) ⊆
      q.numberedLabels.map fun l => "et" ++ l.1 := by
  rw [Clauses.rowsOf_subset_iff, nameSigns, Sql.map_intercalate, List.map_map]
  intro p hp
  rcases Sql.mem_intercalate hp with hp | ⟨entry, hentry, hp⟩
  · have hnone :
        Clauses.rowsOf ([Sign.word "||", .literal "||", .word "||"].map Sign.part) ⊆ [] := by
      have hrows : Clauses.rowsOf ([Sign.word "||", .literal "||", .word "||"].map Sign.part) =
          [] := by cbv
      rw [hrows]
      exact List.nil_subset _
    exact List.Subset.trans (Clauses.rowsOf_subset_iff.mp hnone p hp) (List.nil_subset _)
  · obtain ⟨l, hl, rfl⟩ := List.mem_map.mp hentry
    obtain ⟨n, hn⟩ := exists_natural (q := q) (List.mem_append_left _ hl)
    obtain rfl : p = .word ("et" ++ l.1 ++ ".value_s") := List.mem_singleton.mp hp
    rw [hn, rowsOf_numbered "et" n (show ".value_s" = "." ++ "value_s" by decide) (by decide)
      (by decide), ← hn]
    exact List.cons_subset.mpr ⟨List.mem_map_of_mem hl, List.nil_subset _⟩

theorem rowsOf_rowConditions (n : Nat) (label : String) :
    ∀ entry ∈ rowConditions (Text.natural n) label, Clauses.rowsOf (entry.map Sign.part) ⊆
      ["v", "td" ++ Text.natural n, "et" ++ Text.natural n] := by
  have hname := rowsOf_numbered "td" n (show ".name" = "." ++ "name" by decide)
    (by decide) (by decide)
  have hid := rowsOf_numbered "td" n (show ".id" = "." ++ "id" by decide) (by decide) (by decide)
  have htag := rowsOf_numbered "et" n (show ".tag_id" = "." ++ "tag_id" by decide)
    (by decide) (by decide)
  have hentity := rowsOf_numbered "et" n (show ".entity_id" = "." ++ "entity_id" by decide)
    (by decide) (by decide)
  have hv : Clauses.rowsOf [.word "v.entity_id"] = ["v"] := by cbv
  have hequal : Clauses.rowsOf [.word "="] = [] := by cbv
  have hliteral : Clauses.rowsOf [.literal label.toList] = [] := rfl
  intro entry hentry
  rw [Clauses.rowsOf_subset_iff]
  revert entry
  simp only [rowConditions, List.map_cons, List.map_nil, Sign.part, List.forall_mem_cons,
    List.not_mem_nil, false_implies, implies_true, and_true, hname, hid, htag, hentity, hv, hequal,
    hliteral]
  simp

/-- Every row that is used is declared. -/
theorem used_clauses (q : SeriesQuery) :
    (q.clauses.map Sign.part).used ⊆ (q.clauses.map Sign.part).declared := by
  rw [declared_clauses]
  generalize hdeclared : ("v" :: q.rows.flatMap fun row => ["td" ++ row.1, "et" ++ row.1]) = rows
  have hrow : ∀ row ∈ q.rows, ["v", "td" ++ row.1, "et" ++ row.1] ⊆ rows := by
    intro row hrow
    rw [← hdeclared]
    exact List.cons_subset_cons _ fun name hname => List.mem_flatMap.mpr ⟨row, hrow, hname⟩
  have hkind : ["v", "et2"] ⊆ rows := by
    refine List.Subset.trans ?_ (hrow ("2", "kind") (List.mem_append_right _ (by simp)))
    exact (by decide : ["v", "et2"] ⊆ ["v", "td" ++ "2", "et" ++ "2"])
  have hv : ["v"] ⊆ rows := List.Subset.trans (by simp) hkind
  have hnames : (q.numberedLabels.map fun l => "et" ++ l.1) ⊆ rows := by
    intro name hname
    obtain ⟨l, hl, rfl⟩ := List.mem_map.mp hname
    exact hrow l (List.mem_append_left _ hl) (by simp)
  have hconditions : ∀ entry ∈ q.rows.flatMap fun row => rowConditions row.1 row.2,
      Clauses.rowsOf (entry.map Sign.part) ⊆ rows := by
    intro entry hentry
    obtain ⟨row, hmem, hentry⟩ := List.mem_flatMap.mp hentry
    obtain ⟨n, hn⟩ := exists_natural hmem
    have hsubset := hrow row hmem
    rw [hn] at hentry hsubset
    exact List.Subset.trans (rowsOf_rowConditions n row.2 entry hentry) hsubset
  have hname : Clauses.rowsOf ((nameSigns q.numberedLabels ++
      [Sign.word "AS", .word "entity_name"]).map Sign.part) ⊆ rows := by
    have hfixed : Clauses.rowsOf ([Sign.word "AS", .word "entity_name"].map Sign.part) = [] := by
      cbv
    rw [List.map_append, Clauses.rowsOf_append, hfixed, List.append_nil]
    exact List.Subset.trans q.rowsOf_nameSigns hnames
  have hfirst : Clauses.rowsOf ([Sign.word "v.entity_id", .word "=", .word "ANY",
      .group ("$1".toList.map .char)].map Sign.part) = ["v"] := by cbv
  have hfrom :
      Clauses.rowsOf ([Sign.word "v.ts", .word ">", .word "$2"].map Sign.part) = ["v"] := by cbv
  have hto :
      Clauses.rowsOf ([Sign.word "v.ts", .word "<", .word "$3"].map Sign.part) = ["v"] := by cbv
  rw [Clauses.used_subset_iff]
  simp only [Clauses.map, clauses, List.forall_mem_map, List.forall_mem_append,
    List.forall_mem_cons, hfirst, hfrom, hto, List.not_mem_nil, false_implies, implies_true,
    and_true]
  exact ⟨⟨fun entry hentry => List.Subset.trans (rowsOf_leadingColumns _ entry hentry) hkind, hname,
    fun entry hentry => List.Subset.trans (rowsOf_aggregateColumns _ entry hentry) hkind⟩,
    ⟨hv, hconditions, hv, hv⟩, List.Subset.trans (rowsOf_tailSigns _) hv⟩

/-! ### Numbers of rows -/

/-- The numbers of the rows for so many labels, and the one for the kind of an entity. -/
def rowNumbers (count : Nat) : List String :=
  ((List.range count).map fun i => toString (10 + i)) ++ ["2"]

theorem map_fst_numberedLabels (q : SeriesQuery) : q.numberedLabels.map Prod.fst =
    (List.range q.labels.length).map fun i => toString (10 + i) := by
  rw [numberedLabels, List.map_map, List.range_eq_range', ← List.zipIdx_map_snd 0 q.labels,
    List.map_map]
  rfl

/-- What is made of the numbers of labels. -/
theorem map_numberedLabels {α : Type} (q : SeriesQuery) (f : String → α) :
    (q.numberedLabels.map fun l => f l.1) =
      (List.range q.labels.length).map fun i => f (toString (10 + i)) := by
  have hmap := congrArg (List.map f) q.map_fst_numberedLabels
  rwa [List.map_map, List.map_map] at hmap

/-- What is made of the numbers of rows. -/
theorem flatMap_rows {α : Type} (q : SeriesQuery) (f : String → List α) :
    (q.rows.flatMap fun row => f row.1) = (rowNumbers q.labels.length).flatMap f := by
  have hrows : q.rows.map Prod.fst = rowNumbers q.labels.length := by
    rw [rows, List.map_append, map_fst_numberedLabels]
    rfl
  rw [← hrows, List.flatMap_map]

theorem nodup_rowNumbers (count : Nat) : (rowNumbers count).Nodup := by
  have hinjective : ∀ m n, toString (10 + m) = toString (10 + n) → m = n := fun m n h =>
    Nat.add_left_cancel (Text.natural_injective h)
  refine List.Nodup.append (List.nodup_range.map hinjective) (List.nodup_singleton "2") ?_
  intro number hnumber hkind
  obtain ⟨i, -, rfl⟩ := List.mem_map.mp hnumber
  have htwo : 10 + i = 2 := Text.natural_injective (List.mem_singleton.mp hkind)
  omega

/-- Rows with different numbers have different names. -/
theorem nodup_rowNames {numbers : List String} (h : numbers.Nodup) :
    ("v" :: numbers.flatMap fun n => ["td" ++ n, "et" ++ n]).Nodup := by
  have hkinds : ∀ m n : String, "td" ++ m ≠ "et" ++ n := fun m n heq => by
    simpa using congrArg (fun t => t.toList.head?) heq
  rw [List.nodup_cons, List.nodup_flatMap]
  refine ⟨?_, fun n _ => by simp [hkinds n n], h.imp ?_⟩
  · intro hmem
    obtain ⟨n, -, hn⟩ := List.mem_flatMap.mp hmem
    simp only [List.mem_cons, List.not_mem_nil, or_false] at hn
    rcases hn with hn | hn <;> simpa using congrArg (fun t => t.toList.head?) hn
  · intro m n hne
    have htd : "td" ++ m ≠ "td" ++ n := fun heq => hne ((String.append_right_inj _).mp heq)
    have het : "et" ++ m ≠ "et" ++ n := fun heq => hne ((String.append_right_inj _).mp heq)
    simp [Function.onFun, List.Disjoint, htd, het, hkinds, (hkinds _ _).symm]

/-! ### Contents of quotes -/

theorem literals_namePieces (q : SeriesQuery) :
    (namePieces q.numberedLabels).filterMap Piece.literal? =
      List.replicate (q.labels.length - 1) "||" := by
  obtain ⟨first, others, hlabels⟩ := q.exists_numberedLabels
  have hlength : q.labels.length - 1 = others.length := by
    have hcount := congrArg List.length hlabels
    rw [numberedLabels, List.length_map, List.length_zipIdx, List.length_cons] at hcount
    omega
  rw [hlength, hlabels, namePieces, Sql.between_eq_intercalate, List.map_cons,
    Sql.intercalate_cons, List.flatMap_map, List.filterMap_append, List.filterMap_flatMap]
  calc [code s!"et{first.1}.value_s"].filterMap Piece.literal? ++ others.flatMap (fun l =>
        ([code " || ", literal "||", code " || "] ++
          [code s!"et{l.1}.value_s"]).filterMap Piece.literal?)
      = others.flatMap fun _ => ["||"] := rfl
    _ = others.map fun _ => "||" := List.map_eq_flatMap.symm
    _ = List.replicate others.length "||" := List.map_const' ..

theorem identifiers_namePieces (labels : List (String × String)) :
    (namePieces labels).filterMap Piece.identifier? = [] := by
  rw [List.filterMap_eq_nil_iff, namePieces, Sql.between_eq_intercalate]
  intro p hp
  rcases Sql.mem_intercalate hp with hp | ⟨entry, hentry, hp⟩
  · simp only [List.mem_cons, List.not_mem_nil, or_false] at hp
    rcases hp with rfl | rfl | rfl <;> rfl
  · obtain ⟨l, -, rfl⟩ := List.mem_map.mp hentry
    rw [List.mem_singleton.mp hp]
    rfl

/-- The only identifier in quotes is the name of the table. -/
theorem identifiers_pieces (q : SeriesQuery) :
    q.pieces.filterMap Piece.identifier? = [q.valueTable] := by
  have htables : (q.numberedLabels.flatMap fun l => tablePieces q.schema l.1).filterMap
      Piece.identifier? = [] := by
    rw [List.filterMap_flatMap]
    exact List.flatMap_eq_nil_iff.mpr fun l _ => rfl
  have hconditions : (q.numberedLabels.flatMap fun l => conditionPieces l.1 l.2).filterMap
      Piece.identifier? = [] := by
    rw [List.filterMap_flatMap]
    exact List.flatMap_eq_nil_iff.mpr fun l _ => rfl
  rw [pieces_eq, columnPieces]
  simp only [List.filterMap_append, identifiers_namePieces, htables, hconditions]
  cases q.bucketing <;> rfl

/-- The literals are constants, except for the labels. -/
theorem literals_pieces (q : SeriesQuery) : q.pieces.filterMap Piece.literal? =
    (q.bucketing.elim [] fun b => [toString b.seconds ++ " seconds"]) ++
      List.replicate (q.labels.length - 1) "||" ++ (q.bucketing.elim [] fun _ => ["Number"]) ++
      q.labels ++ ["kind"] := by
  have htables : (q.numberedLabels.flatMap fun l => tablePieces q.schema l.1).filterMap
      Piece.literal? = [] := by
    rw [List.filterMap_flatMap]
    exact List.flatMap_eq_nil_iff.mpr fun l _ => rfl
  have hconditions : (q.numberedLabels.flatMap fun l => conditionPieces l.1 l.2).filterMap
      Piece.literal? = q.labels := by
    calc (q.numberedLabels.flatMap fun l => conditionPieces l.1 l.2).filterMap Piece.literal?
        = q.numberedLabels.flatMap fun l => [l.2] := List.filterMap_flatMap
      _ = q.numberedLabels.map Prod.snd := List.map_eq_flatMap.symm
      _ = q.labels := by
          rw [numberedLabels, List.map_map]
          exact List.zipIdx_map_fst 0 q.labels
  rw [pieces_eq, columnPieces]
  simp only [List.filterMap_append, literals_namePieces, htables, hconditions, List.append_assoc]
  cases q.bucketing <;> rfl

/-- What stands outside quotes does not depend on what stands in them. -/
theorem emptied_pieces {q q' : SeriesQuery} (hschema : q'.schema = q.schema)
    (hcount : q'.labels.length = q.labels.length) (hbucketing : q'.bucketing = q.bucketing) :
    q'.pieces.map Piece.emptied = q.pieces.map Piece.emptied := by
  have hrows : ∀ f : String → List Piece, (q'.numberedLabels.flatMap fun l => f l.1) =
      q.numberedLabels.flatMap fun l => f l.1 := by
    intro f
    rw [List.flatMap_def, List.flatMap_def, map_numberedLabels, map_numberedLabels, hcount]
  have hname : namePieces q'.numberedLabels = namePieces q.numberedLabels := by
    rw [namePieces, namePieces, q.map_numberedLabels fun n => [code s!"et{n}.value_s"],
      q'.map_numberedLabels fun n => [code s!"et{n}.value_s"], hcount]
  have hconditions : (q'.numberedLabels.flatMap fun l => conditionPieces l.1 l.2).map
      Piece.emptied = (q.numberedLabels.flatMap fun l => conditionPieces l.1 l.2).map
      Piece.emptied := by
    rw [List.map_flatMap, List.map_flatMap]
    exact hrows fun n => (conditionPieces n "").map Piece.emptied
  rw [pieces_eq, pieces_eq, columnPieces, columnPieces]
  simp only [List.map_append, hname, hschema, hbucketing, hconditions,
    hrows fun n => tablePieces q.schema n]
  rfl

theorem sql_eq_ok_iff {q : SeriesQuery} {sql : String} :
    q.sql = .ok sql ↔ Sql.isIdentifier q.schema ∧ q.valueTable ≠ "" ∧
      (∀ b ∈ q.bucketing, 0 < b.seconds) ∧ Sql.text q.pieces = sql := by
  have htable : q.valueTable.isEmpty = true ↔ q.valueTable = "" := String.isEmpty_iff
  have hwidth : (q.bucketing.any fun b => b.seconds == 0) = true ↔
      ¬ ∀ b ∈ q.bucketing, 0 < b.seconds := by
    cases q.bucketing <;> simp
  rw [SeriesQuery.sql]
  by_cases hschema : Sql.isIdentifier q.schema
  · by_cases hempty : q.valueTable = ""
    · simp [hschema, hempty]
    · by_cases hpositive : ∀ b ∈ q.bucketing, 0 < b.seconds
      · rw [if_neg (by simp [hschema]), if_neg (by simp [htable, hempty]),
          if_neg (by rw [hwidth]; exact not_not.mpr hpositive), Except.ok.injEq]
        exact ⟨fun h => ⟨hschema, hempty, hpositive, h⟩, fun h => h.2.2.2⟩
      · rw [if_neg (by simp [hschema]), if_neg (by simp [htable, hempty]),
          if_pos (hwidth.mpr hpositive)]
        exact ⟨nofun, fun h => absurd h.2.2.1 hpositive⟩
  · simp [hschema]

/-! ### The statement -/

theorem labels_eq (q : SeriesQuery) :
    q.labels = if q.labelTags = [] then ["dis"] else q.labelTags := by
  rw [labels]
  simp only [List.isEmpty_iff]

/-- Statements with the same schema, number of labels and intervals agree outside quotes. -/
theorem skeleton_eq {q q' : SeriesQuery} {text' : String} {is' : List Item}
    (hschema : q'.schema = q.schema) (hcount : q'.labels.length = q.labels.length)
    (hbucketing : q'.bucketing = q.bucketing) (hsql : q'.sql = .ok text')
    (hscan : Sql.scan bothQuotes text' = some is') :
    Item.skeleton is' = Item.skeleton (Sql.items bothQuotes q.pieces) := by
  obtain ⟨hidentifier, -, -, rfl⟩ := sql_eq_ok_iff.mp hsql
  rw [(legible_pieces hidentifier).scan_eq, Option.some.injEq] at hscan
  rw [← hscan, Sql.skeleton_emptied, Sql.skeleton_emptied, emptied_pieces hschema hcount hbucketing]

/-- **Names stay in their quotes, and rows in their scopes.**  The text outside quotes is that of
every statement with the same schema, the same number of labels and the same intervals.  No two
tables have one name, each row that is used is one of a table, and the label with index `i` is
selected from the row `et(10 + i)` and restricted by `td(10 + i)`, which are joined. -/
theorem sql_scoped {q : SeriesQuery} (hschema : Sql.isIdentifier q.schema)
    (htable : q.valueTable ≠ "") (hwidth : ∀ b ∈ q.bucketing, 0 < b.seconds) :
    q.labels = (if q.labelTags = [] then ["dis"] else q.labelTags) ∧
    ∃ text is s, q.sql = .ok text ∧ Sql.scan bothQuotes text = some is ∧
      Item.contentsIn '"' is = [q.valueTable] ∧
      Item.contentsIn '\'' is =
        (q.bucketing.elim [] fun b => [toString b.seconds ++ " seconds"]) ++
        List.replicate (q.labels.length - 1) "||" ++ (q.bucketing.elim [] fun _ => ["Number"]) ++
        q.labels ++ ["kind"] ∧
      (∀ (q' : SeriesQuery) (text' : String) (is' : List Item), q'.schema = q.schema →
        q'.labels.length = q.labels.length → q'.bucketing = q.bucketing → q'.sql = .ok text' →
        Sql.scan bothQuotes text' = some is' → Item.skeleton is' = Item.skeleton is) ∧
      Clauses.ofItems? is = some s ∧
      s.declared =
        "v" :: (rowNumbers q.labels.length).flatMap (fun n => ["td" ++ n, "et" ++ n]) ∧
      s.declared.Nodup ∧ s.used ⊆ s.declared ∧
      s.selected "entity_name" = [[Part.word "||", .literal "||".toList, .word "||"].intercalate
        ((List.range q.labels.length).map fun i =>
          [.word ("et" ++ toString (10 + i) ++ ".value_s")])] ∧
      s.tests = (q.labels.zipIdx.map fun l => ("td" ++ toString (10 + l.2) ++ ".name", l.1)) ++
        [("td2.name", "kind")] ∧
      s.joins = (rowNumbers q.labels.length).flatMap fun n =>
        [("td" ++ n ++ ".id", "et" ++ n ++ ".tag_id"),
         ("et" ++ n ++ ".entity_id", "v.entity_id")] := by
  have hscan := (legible_pieces hschema).scan_eq
  have hdeclared := q.declared_clauses
  rw [q.flatMap_rows fun n => ["td" ++ n, "et" ++ n]] at hdeclared
  have hselected := q.selected_clauses
  rw [q.map_numberedLabels fun n => [Part.word ("et" ++ n ++ ".value_s")]] at hselected
  have htests : (q.clauses.map Sign.part).tests =
      (q.labels.zipIdx.map fun l => ("td" ++ toString (10 + l.2) ++ ".name", l.1)) ++
        [("td2.name", "kind")] := by
    rw [tests_clauses, rows, List.map_append, numberedLabels, List.map_map]
    rfl
  have hjoins := q.joins_clauses
  rw [q.flatMap_rows fun n => [("td" ++ n ++ ".id", "et" ++ n ++ ".tag_id"),
    ("et" ++ n ++ ".entity_id", "v.entity_id")]] at hjoins
  refine ⟨q.labels_eq, _, _, _, sql_eq_ok_iff.mpr ⟨hschema, htable, hwidth, rfl⟩, hscan, ?_, ?_,
    fun _ _ _ => skeleton_eq, ofItems?_pieces hschema, hdeclared, ?_, used_clauses q, hselected,
    htests, hjoins⟩
  · rw [Sql.contentsIn_identifiers, identifiers_pieces]
  · rw [Sql.contentsIn_literals, literals_pieces]
  · rw [hdeclared]
    exact nodup_rowNames (nodup_rowNumbers _)

/-- Names with quotes of both kinds. -/
theorem sql_scoped_both_quotes :
    Sql.isIdentifier "core" ∧ "a\"b'c" ≠ "" ∧ (∀ b ∈ some (Bucketing.mk .avg 60), 0 < b.seconds) ∧
    ∃ text is s,
      SeriesQuery.sql ⟨"core", "a\"b'c", ["o'clock", "say \"hi\""], some ⟨.avg, 60⟩⟩ = .ok text ∧
      Sql.scan bothQuotes text = some is ∧ Item.contentsIn '"' is = ["a\"b'c"] ∧
      Item.contentsIn '\'' is = ["60 seconds", "||", "Number", "o'clock", "say \"hi\"", "kind"] ∧
      Clauses.ofItems? is = some s ∧
      s.declared = ["v", "td10", "et10", "td11", "et11", "td2", "et2"] ∧ s.used ⊆ s.declared ∧
      s.tests = [("td10.name", "o'clock"), ("td11.name", "say \"hi\""), ("td2.name", "kind")] := by
  have hwidth : ∀ b ∈ some (Bucketing.mk .avg 60), 0 < b.seconds := by simp
  obtain ⟨-, text, is, s, hsql, hscan, hidentifiers, hliterals, -, hread, hdeclared, -, hused, -,
    htests, -⟩ := sql_scoped (q := ⟨"core", "a\"b'c", ["o'clock", "say \"hi\""], some ⟨.avg, 60⟩⟩)
      (by decide) (by decide) hwidth
  exact ⟨by decide, by decide, hwidth, text, is, s, hsql, hscan, hidentifiers, hliterals, hread,
    hdeclared, hused, htests⟩

end SeriesQuery

end EntityFilter
