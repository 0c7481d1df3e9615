import EntityFilter.Proofs.Query.Select

/-!
# The columns of a compiled statement

A compiled statement has three levels, and each of them but the innermost one selects from the next
one in parentheses: `Query.permitted` is the level that checks access, and `Query.innermost` reads
the tags of the entities that are found.  Each level is read back as a statement with a list of
columns (`Query.ofText?_statement`, `Query.ofItems?_permitted`, `Query.ofItems?_innermost`),
whatever the filter is, since what a level has in parentheses is one part of it.  Hence **each level
reads columns that the next one has** (`Query.exists_levels`).
-/

namespace EntityFilter

open Sql (Piece Item Part Reads Renders Nests Select SelectedColumn)
open Sql.Piece (code literal identifier)

namespace Sql

/-! ### Pieces -/

theorem items_code_cons (t : String) (ps : List Piece) :
    items ['\''] (.code t :: ps) = t.toList.map .char ++ items ['\''] ps :=
  rfl

theorem items_code (t : String) : items ['\''] [.code t] = t.toList.map .char :=
  List.append_nil _

/-- Fixed text. -/
theorem Reads.code {t : String} (h : Unmarked t) {word last : List Char} {ps : List Part}
    (hparts : Part.ofChars word t.toList = (ps, last)) :
    Reads word (items ['\''] [.code t]) ps last := by
  have hread := Reads.chars h word
  rw [hparts] at hread
  rwa [items_code]

theorem items_columnList (columns : List String) (row : String) :
    items ['\''] (Query.columnList columns row) = (entriesText row columns).map .char := by
  induction columns with
  | nil => rfl
  | cons c columns ih =>
      rw [Query.columnList, List.map_cons, items_cons, ← Query.columnList, ih]
      simp [entriesText, Piece.items, Piece.quote?, Piece.text, toString, List.append_assoc]

theorem unmarked_dotted {row column : String} (hrow : Unmarked row) (hcolumn : Unmarked column) :
    Unmarked (row ++ "." ++ column) :=
  unmarked_append (unmarked_append hrow (by decide)) hcolumn

theorem filter_isMark_entriesText {row : String} (hrow : Unmarked row) {columns : List String}
    (hcolumns : ∀ c ∈ columns, Unmarked c) : (entriesText row columns).filter isMark = [] := by
  have hentry : ∀ c ∈ columns, Unmarked (", " ++ (row ++ "." ++ c)) := fun c hc =>
    unmarked_append (by decide) (unmarked_dotted hrow (hcolumns c hc))
  simp only [entriesText, List.filter_flatMap, List.flatMap_eq_nil_iff, ← String.toList_append]
  exact hentry

section Level

variable {row : String} {columns : List String}

/-- A list of columns up to `FROM`. -/
theorem Reads.entries (hrow : isIdentifier row) (hcolumns : ∀ c ∈ columns, isIdentifier c)
    (word : List Char) :
    Reads word (items ['\''] (Query.columnList columns row ++ [Piece.code " FROM "]))
      (Part.ofWord word ++ Sql.entries row columns ++ [Part.word "FROM"]) [] := by
  have hmarks : (entriesText row columns ++ ' ' :: "FROM ".toList).filter isMark = [] := by
    rw [List.filter_append, filter_isMark_entriesText (unmarked_of_isIdentifier hrow)
      fun c hc => unmarked_of_isIdentifier (hcolumns c hc)]
    decide
  have hread := Reads.chars hmarks word
  rw [Part.ofChars_entriesText (solid_of_isIdentifier hrow)
    fun c hc => solid_of_isIdentifier (hcolumns c hc), List.map_append] at hread
  rwa [items_append, items_columnList, items_code]

/-- What stands in the parentheses of a level. -/
def within (level : List Piece) : List Item :=
  items ['\''] ([Piece.code "\n"] ++ level ++ [Piece.code "\n"])

/-- A list of columns, and the group that they are selected from. -/
theorem Reads.source (hrow : isIdentifier row) (hcolumns : ∀ c ∈ columns, isIdentifier c)
    (word : List Char) {inner : List Piece} {ls : List String} (h : Nests 0 0 (outline inner) ls) :
    Reads word (items ['\''] (Query.columnList columns row ++ [Piece.code " FROM (\n"] ++ inner ++
        [Piece.code "\n)"]))
      (Part.ofWord word ++ Sql.entries row columns ++
        [Part.word "FROM", .group (within inner)]) [] := by
  have hinner : Nests 0 0 ((within inner).filter Item.isMark) ls := by
    rw [within, ← outline]
    simpa [marks, isMark] using h
  have hall := (Reads.entries hrow hcolumns word).append (Reads.group hinner [])
  have hitems : items ['\''] (Query.columnList columns row ++ [Piece.code " FROM (\n"] ++ inner ++
      [Piece.code "\n)"]) = items ['\''] (Query.columnList columns row ++ [Piece.code " FROM "]) ++
        Item.char '(' :: (within inner ++ [Item.char ')']) := by
    simp only [within, items_append, items_code, List.append_assoc]
    rfl
  rw [hitems]
  simpa [Part.ofWord] using hall

end Level

/-- The items are read without a word `w` on their level, and end between words. -/
def Passes (w : String) (is : List Item) : Prop :=
  ∃ ps, Reads [] is ps [] ∧ .word w ∉ ps

theorem Passes.append {w : String} {is js : List Item} (h₁ : Passes w is) (h₂ : Passes w js) :
    Passes w (is ++ js) := by
  obtain ⟨ps, hps, hw⟩ := h₁
  obtain ⟨qs, hqs, hw'⟩ := h₂
  exact ⟨ps ++ qs, hps.append hqs, by simp [hw, hw']⟩

theorem Passes.between {w : String} {separator : List Piece} {α : Type} {f : α → List Piece}
    (hseparator : Passes w (items ['\''] separator)) (as : List α)
    (h : ∀ a ∈ as, Passes w (items ['\''] (f a))) :
    Passes w (items ['\''] (Sql.between separator (as.map f))) := by
  induction as with
  | nil => exact ⟨[], .nil [], by simp⟩
  | cons a as ih =>
      obtain ⟨ha, has⟩ := List.forall_mem_cons.mp h
      cases as with
      | nil => exact ha
      | cons b as =>
          have hrest := (ha.append hseparator).append (ih has)
          rwa [← items_append, ← items_append] at hrest

end Sql

/-! ### In front of the levels -/

section Parts

variable {schema : String}

/-- What stands in the parentheses of a common table expression. -/
def Closure.walk (schema : String) (c : Closure) : List Piece :=
  let n := Text.natural c.mention
  [code "SELECT th.child_id, th.parent_id FROM "] ++ Sql.table schema "tag_hierarchy" ++
  [code " th, "] ++ Sql.table schema "tag_def" ++
  [code s!" td{n} WHERE th.child_id = td{n}.id AND td{n}.name = ", literal c.tag,
   code " UNION ALL SELECT th2.child_id, th2.parent_id FROM "] ++
  Sql.table schema "tag_hierarchy" ++
  [code s!" th2 INNER JOIN hier_query{n} c ON c.parent_id = th2.child_id"]

theorem Closure.items_sql (schema : String) (c : Closure) : Sql.items ['\''] (c.sql schema) =
    Sql.items ['\''] [code ("hier_query" ++ Text.natural c.mention ++ " AS ")] ++
      Item.char '(' :: (Sql.items ['\''] (c.walk schema) ++ [Item.char ')']) := by
  have hopen : " AS (SELECT th.child_id, th.parent_id FROM " =
      " AS " ++ ("(" ++ "SELECT th.child_id, th.parent_id FROM ") := by decide +kernel
  have hclose : " c ON c.parent_id = th2.child_id)" =
      " c ON c.parent_id = th2.child_id" ++ ")" := by decide +kernel
  simp only [sql, walk, hopen, hclose, Sql.items_append, Sql.items_code_cons, List.append_assoc,
    toString, String.toList_append, List.map_append]
  rfl

theorem Closure.nests_walk (hschema : Sql.Unmarked schema) (c : Closure) :
    Nests 0 0 (Sql.outline (c.walk schema)) [c.tag] := by
  simpa [walk, Sql.table, toString, hschema, Sql.marks, Sql.isMark] using .literal c.tag (.nil 0)

/-- A common table expression has its walk in parentheses. -/
theorem Closure.passes_sql (hschema : Sql.Unmarked schema) (c : Closure) :
    Sql.Passes "SELECT" (Sql.items ['\''] (c.sql schema)) := by
  let n := Text.natural c.mention
  have hname : Sql.Solid ("hier_query" ++ n).toList := by
    have hfixed : Sql.Solid "hier_query".toList := by decide
    rw [String.toList_append]
    exact hfixed.append (Sql.solid_of_all (Sql.char_natural _) (by decide))
  have hwords : Part.ofChars [] ("hier_query" ++ n ++ " AS ").toList =
      ([.word ("hier_query" ++ n), .word "AS"], []) := by
    rw [String.toList_append, Part.ofChars_of_solid hname, List.nil_append]
    exact Part.ofChars_word (t := "AS ") (by simp) rfl
  have hhead : Reads [] (Sql.items ['\''] [code ("hier_query" ++ n ++ " AS ")]) _ [] :=
    .code (Sql.unmarked_append (Sql.unmarked_append (by decide) (Sql.unmarked_natural _))
      (by decide)) hwords
  have hother : "SELECT" ≠ "hier_query" ++ n := fun h => by
    have := congrArg (fun w => w.toList.head?) h
    simp at this
  rw [items_sql]
  exact ⟨_, hhead.append (.group (c.nests_walk hschema) []), by simp [Part.ofWord, hother]⟩

theorem Closure.passes_sqlAll (hschema : Sql.Unmarked schema) (found : List Closure) :
    Sql.Passes "SELECT" (Sql.items ['\''] (Closure.sqlAll schema found)) := by
  cases found with
  | nil => exact ⟨[], .nil [], by simp⟩
  | cons c rest =>
      have hwith : Sql.Passes "SELECT" (Sql.items ['\''] [code "WITH RECURSIVE "]) :=
        ⟨[.word "WITH", .word "RECURSIVE"], .code (by decide) rfl, by decide⟩
      have hcomma : Sql.Passes "SELECT" (Sql.items ['\''] [code ", "]) :=
        ⟨[.comma], .code (by decide) rfl, by decide⟩
      have hend : Sql.Passes "SELECT" (Sql.items ['\''] [code "\n"]) :=
        ⟨[], .code (by decide) rfl, by decide⟩
      have hall := (hwith.append (.between hcomma (c :: rest) fun c _ =>
        Closure.passes_sql hschema c)).append hend
      rwa [← Sql.items_append, ← Sql.items_append] at hall

/-! ### Conditions -/

namespace Query

/-- The rows of a permission are not named like those that are found. -/
abbrev Permission.Aside (p : Permission) : Prop :=
  ¬ Sql.IsClause p.row ∧ p.row ≠ "a"

/-- The rows of no permission of an axis are named like those that are found. -/
abbrev AccessAxis.Aside (axis : AccessAxis) : Prop :=
  axis.orgGrant.Aside ∧ axis.userGrant.Aside ∧ axis.userRevocation.Aside

/-- The words of a permission. -/
def Permission.words (schema : String) (p : Permission) (owner : Int) (subject : String) :
    List String :=
  ["EXISTS", "", "SELECT", "1", "FROM", schema ++ "." ++ p.table, p.row, "WHERE",
    p.row ++ "." ++ p.owner, "=", Text.integer owner, "AND", p.row ++ "." ++ p.key, "=", subject]

/-- What stands in the parentheses of the condition of an axis. -/
def AccessAxis.inside (schema : String) (axis : AccessAxis) (orgId userId : Int)
    (subject : String) : List Piece :=
  [code "("] ++ axis.orgGrant.sql schema orgId subject ++ [code " OR "] ++
  axis.userGrant.sql schema userId subject ++ [code ") AND NOT "] ++
  axis.userRevocation.sql schema userId subject

/-- The words of the condition of an axis. -/
def AccessAxis.words (schema : String) (axis : AccessAxis) (orgId userId : Int) (subject : String) :
    List String :=
  [""] ++ axis.orgGrant.words schema orgId subject ++ ["", "OR"] ++
  axis.userGrant.words schema userId subject ++ ["", "", "AND", "NOT"] ++
  axis.userRevocation.words schema userId subject

theorem flat_unmarked {t : String} (h : Sql.Unmarked t) :
    (t.toList.map Item.char).map Item.flat = t.toList := by
  rw [Sql.Unmarked, List.filter_eq_nil_iff] at h
  have hchar : ∀ c ∈ t.toList, (Item.flat ∘ Item.char) c = id c := fun c hc => by
    obtain ⟨hopen, hclose⟩ := Sql.ne_of_isMark_eq_false (by simpa using h c hc)
    simp [Item.flat, hopen, hclose]
  rw [List.map_map, List.map_congr_left hchar, List.map_id]

section Words

variable {p : Permission} {axis : AccessAxis}

theorem Permission.Plain.flat_sql (hschema : Sql.isIdentifier schema) (h : p.Plain) (owner : Int)
    {subject : String} (hsubject : Sql.Unmarked subject) :
    (Sql.items ['\''] (p.sql schema owner subject)).map Item.flat =
      Sql.spaced (p.words schema owner subject) := by
  have hname : ∀ {t}, Sql.isIdentifier t → (t.toList.map Item.char).map Item.flat = t.toList :=
    fun ht => flat_unmarked (Sql.unmarked_of_isIdentifier ht)
  simp only [sql, words, Sql.table, Sql.items_append, Sql.items_code_cons, toString,
    String.toList_append, List.map_append, List.append_assoc, hname hschema, hname h.table,
    hname h.row, hname h.key, hname h.owner, flat_unmarked (Sql.unmarked_integer owner),
    flat_unmarked hsubject, Sql.spaced, List.flatMap_cons]
  rfl

theorem Permission.Plain.solid_words (hschema : Sql.isIdentifier schema) (h : p.Plain)
    (owner : Int) {subject : String} (hsubject : Sql.Solid subject.toList) :
    ∀ w ∈ p.words schema owner subject, Sql.Solid w.toList := by
  have hdotted : ∀ {s t}, Sql.isIdentifier s → Sql.isIdentifier t →
      Sql.Solid (s ++ "." ++ t).toList :=
    fun hs ht => (Sql.solid_of_isIdentifier hs).dotted (Sql.solid_of_isIdentifier ht)
  have hinteger : Sql.Solid (Text.integer owner).toList :=
    Sql.solid_of_all (p := fun c => c.isDigit || c == '-') (Sql.char_integer owner) (by decide)
  simp only [words, List.forall_mem_cons, hdotted hschema h.table, hdotted h.row h.owner,
    hdotted h.row h.key, Sql.solid_of_isIdentifier h.row, hinteger, hsubject, true_and]
  decide

theorem Permission.Plain.mentions_words (h : p.Plain) (haside : p.Aside) (owner : Int)
    (row column : String) (hrow : '.' ∉ row.toList) (hcolumn : '.' ∉ column.toList) (rest : List String) :
    Sql.mentions "a" false (p.words schema owner (row ++ "." ++ column) ++ rest) =
      (if row = "a" then [column] else []) ++ Sql.mentions "a" false rest := by
  have hinteger : '.' ∉ (Text.integer owner).toList :=
    fun hmem => absurd (Sql.char_integer owner '.' hmem) (by decide)
  have hletter : ∀ w, Sql.IsClause w → 'R' ∈ w.toList := by
    rintro w (rfl | rfl | rfl) <;> decide
  have hnumber : ¬ Sql.IsClause (Text.integer owner) :=
    fun hw => absurd (Sql.char_integer owner 'R' (hletter _ hw)) (by decide)
  have hdotted : ∀ {t} later, Sql.isIdentifier t →
      Sql.mentions "a" false ((p.row ++ "." ++ t) :: later) = Sql.mentions "a" false later :=
    fun later ht => by
      rw [Sql.mentions_dotted (Sql.dot_notMem_of_isIdentifier h.row)
        (Sql.dot_notMem_of_isIdentifier ht), if_neg haside.2, List.nil_append]
  have hfrom : ∀ later, Sql.mentions "a" false ("FROM" :: later) = Sql.mentions "a" true later :=
    fun _ => rfl
  have hwhere : ∀ later, Sql.mentions "a" true ("WHERE" :: later) = Sql.mentions "a" false later :=
    fun _ => rfl
  simp only [words, List.cons_append, List.nil_append]
  iterate 4 rw [Sql.mentions_other (by decide)]
  rw [hfrom, Sql.mentions_table (Sql.not_isClause_of_dotted _ _), Sql.mentions_table haside.1,
    hwhere, hdotted _ h.owner, Sql.mentions_other (by decide),
    Sql.mentions_other ⟨hnumber, hinteger⟩, Sql.mentions_other (by decide), hdotted _ h.key,
    Sql.mentions_other (by decide), Sql.mentions_dotted hrow hcolumn]

theorem AccessAxis.items_sql (schema : String) (axis : AccessAxis) (orgId userId : Int)
    (subject : String) : Sql.items ['\''] (axis.sql schema orgId userId subject) =
      Item.char '(' ::
        (Sql.items ['\''] (axis.inside schema orgId userId subject) ++ [Item.char ')']) := by
  simp only [sql, inside, Sql.items_append, List.append_assoc]
  rfl

theorem AccessAxis.Plain.nests_inside (hschema : Sql.Unmarked schema) (h : axis.Plain)
    (orgId userId : Int) {subject : String} (hsubject : Sql.Unmarked subject) :
    Nests 0 0 (Sql.outline (axis.inside schema orgId userId subject)) [] := by
  obtain ⟨inner, heq, hinner⟩ := h.exists_sql_eq hschema orgId userId hsubject
  have hinside : axis.inside schema orgId userId subject = [code "("] ++ inner :=
    List.append_cancel_right (show _ ++ [code ")"] = _ ++ [code ")"] by
      simpa [AccessAxis.sql, AccessAxis.inside] using heq)
  have hopen : Renders true 0 1 [code "("] [] := .fixed (by decide) (.opening (.nil _))
  rw [hinside]
  exact (hopen.append (hinner 0)).nests

theorem AccessAxis.Plain.allWords_inside (hschema : Sql.isIdentifier schema) (h : axis.Plain)
    (orgId userId : Int) {subject : String} (hsubject : Sql.Unmarked subject)
    (hsolid : Sql.Solid subject.toList) :
    Item.allWords (Sql.items ['\''] (axis.inside schema orgId userId subject)) =
      (axis.words schema orgId userId subject).filter (· ≠ "") := by
  refine Item.allWords_eq ?_ ?_
  · simp only [inside, words, Sql.items_append, List.map_append,
      h.orgGrant.flat_sql hschema orgId hsubject, h.userGrant.flat_sql hschema userId hsubject,
      h.userRevocation.flat_sql hschema userId hsubject, Sql.spaced, List.flatMap_append]
    rfl
  · simp only [words, List.forall_mem_append]
    exact ⟨⟨⟨⟨⟨by decide, h.orgGrant.solid_words hschema orgId hsolid⟩, by decide⟩,
      h.userGrant.solid_words hschema userId hsolid⟩, by decide⟩,
      h.userRevocation.solid_words hschema userId hsolid⟩

theorem AccessAxis.Plain.mentions_words (h : axis.Plain) (haside : axis.Aside)
    (orgId userId : Int) (row column : String) (hrow : '.' ∉ row.toList) (hcolumn : '.' ∉ column.toList)
    (rest : List String) :
    Sql.mentions "a" false (axis.words schema orgId userId (row ++ "." ++ column) ++ rest) =
      (if row = "a" then [column, column, column] else []) ++ Sql.mentions "a" false rest := by
  simp only [words, List.append_assoc, List.cons_append, List.nil_append]
  rw [Sql.mentions_other (by decide),
    h.orgGrant.mentions_words haside.1 orgId row column hrow hcolumn]
  iterate 2 rw [Sql.mentions_other (by decide)]
  rw [h.userGrant.mentions_words haside.2.1 userId row column hrow hcolumn]
  iterate 4 rw [Sql.mentions_other (by decide)]
  rw [h.userRevocation.mentions_words haside.2.2 userId row column hrow hcolumn]
  split <;> rfl

end Words

/-- The parts behind the rows that the middle level selects from: the tables that tell the library
of a tag, and the conditions. -/
def permittedTail (schema : String) (orgId userId : Int) : List Part :=
  [.comma, .word (schema ++ "." ++ "tag_def"), .word "td",
    .comma, .word (schema ++ "." ++ "tag_meta"), .word "tm",
    .word "WHERE", .word "td.name", .word "=", .literal "lib".toList,
    .word "AND", .word "td.id", .word "=", .word "tm.attribute",
    .word "AND", .word "tm.tag_id", .word "=", .word "a.tag_id",
    .word "AND", .group (Sql.items ['\''] (entityAxis.inside schema orgId userId "a.id")),
    .word "AND", .group (Sql.items ['\''] (tagAxis.inside schema orgId userId "tm.value"))]

/-- A table, and the text behind it. -/
theorem reads_table (hschema : Sql.isIdentifier schema) {name t : String}
    (hname : Sql.isIdentifier name) (ht : Sql.Unmarked t) {ps : List Part} {last : List Char}
    (hparts : Part.ofChars [] t.toList = (ps, last)) :
    Reads [] (Sql.items ['\''] (Sql.table schema name ++ [code (" " ++ t)]))
      (.word (schema ++ "." ++ name) :: ps) last := by
  have hsolid : Sql.Solid (schema ++ "." ++ name).toList :=
    (Sql.solid_of_isIdentifier hschema).dotted (Sql.solid_of_isIdentifier hname)
  have hmarks : Sql.Unmarked (schema ++ "." ++ name) :=
    Sql.unmarked_dotted (Sql.unmarked_of_isIdentifier hschema) (Sql.unmarked_of_isIdentifier hname)
  have htable : Reads [] (Sql.items ['\''] (Sql.table schema name)) [] _ :=
    .code hmarks (by rw [← List.append_nil (String.toList _), Part.ofChars_of_solid hsolid]; rfl)
  rw [Sql.items_append]
  exact htable.append
    (.code (Sql.unmarked_append (by decide) ht) (Part.ofChars_word (by simp) hparts))

theorem reads_permittedTail (hschema : Sql.isIdentifier schema) (orgId userId : Int) :
    Reads [] (Sql.items ['\''] ([code " a, "] ++ (Sql.table schema "tag_def" ++ [code " td, "]) ++
        (Sql.table schema "tag_meta" ++ [code " tm "]) ++ [code "WHERE "] ++
        clause schema orgId userId))
      (.word "a" :: permittedTail schema orgId userId) [] := by
  have hunmarked := Sql.unmarked_of_isIdentifier hschema
  have hrow : Reads [] (Sql.items ['\''] [code " a, "]) [.word "a", .comma] [] :=
    .code (by decide) rfl
  have hdefinition : Reads [] (Sql.items ['\''] (Sql.table schema "tag_def" ++ [code " td, "]))
      [.word (schema ++ "." ++ "tag_def"), .word "td", .comma] [] :=
    reads_table hschema (by decide) (t := "td, ") (by decide) rfl
  have hlibrary : Reads [] (Sql.items ['\''] (Sql.table schema "tag_meta" ++ [code " tm "]))
      [.word (schema ++ "." ++ "tag_meta"), .word "tm"] [] :=
    reads_table hschema (by decide) (t := "tm ") (by decide) rfl
  have hwhere : Reads [] (Sql.items ['\''] [code "WHERE "]) [.word "WHERE"] [] :=
    .code (by decide) rfl
  have hname : Reads [] (Sql.items ['\''] [code "td.name = "]) [.word "td.name", .word "="] [] :=
    .code (by decide) rfl
  have hlib : Reads [] (Sql.items ['\''] [literal "lib"]) [.literal "lib".toList] [] :=
    .literal "lib" []
  have hjoin : Reads [] (Sql.items ['\'']
      [code " AND td.id = tm.attribute AND tm.tag_id = a.tag_id"])
      [.word "AND", .word "td.id", .word "=", .word "tm.attribute", .word "AND", .word "tm.tag_id",
        .word "="] "a.tag_id".toList :=
    .code (by decide) (by decide +kernel)
  have hand : Reads "a.tag_id".toList (Sql.items ['\''] [code "\nAND "])
      [.word "a.tag_id", .word "AND"] [] :=
    .code (by decide) rfl
  have hand' : Reads [] (Sql.items ['\''] [code "\nAND "]) [.word "AND"] [] :=
    .code (by decide) rfl
  have hentity : Reads [] (Sql.items ['\''] (entityAxis.sql schema orgId userId "a.id"))
      [.group (Sql.items ['\''] (entityAxis.inside schema orgId userId "a.id"))] [] := by
    rw [AccessAxis.items_sql]
    exact .group (plain_entityAxis.nests_inside hunmarked orgId userId (by decide)) []
  have htag : Reads [] (Sql.items ['\''] (tagAxis.sql schema orgId userId "tm.value"))
      [.group (Sql.items ['\''] (tagAxis.inside schema orgId userId "tm.value"))] [] := by
    rw [AccessAxis.items_sql]
    exact .group (plain_tagAxis.nests_inside hunmarked orgId userId (by decide)) []
  have htables := ((hrow.append hdefinition).append hlibrary).append hwhere
  have hall := ((((((htables.append hname).append hlib).append hjoin).append hand).append
    hentity).append hand').append htag
  simpa only [← Sql.items_append, permittedTail, clause, libraryOfTag, access, List.append_assoc,
    List.cons_append, List.nil_append] using hall

theorem mentions_permittedTail (hschema : Sql.isIdentifier schema) (orgId userId : Int) :
    Sql.mentions "a" true ((permittedTail schema orgId userId).flatMap Part.words) =
      ["tag_id", "id", "id", "id"] := by
  have hentity : Item.allWords (Sql.items ['\'']
      (entityAxis.inside schema orgId userId "a.id")) = _ :=
    plain_entityAxis.allWords_inside hschema orgId userId (by decide) (by decide)
  have htag : Item.allWords (Sql.items ['\'']
      (tagAxis.inside schema orgId userId "tm.value")) = _ :=
    plain_tagAxis.allWords_inside hschema orgId userId (by decide) (by decide)
  have hvalue : Sql.mentions "a" false ((tagAxis.words schema orgId userId "tm.value").filter
      (· ≠ "") ++ []) = [] := by
    rw [Sql.mentions_filter]
    exact plain_tagAxis.mentions_words (by decide) orgId userId "tm" "value" (by decide)
      (by decide) []
  have hid : ∀ rest, Sql.mentions "a" false ((entityAxis.words schema orgId userId "a.id").filter
      (· ≠ "") ++ rest) = ["id", "id", "id"] ++ Sql.mentions "a" false rest := fun rest => by
    rw [Sql.mentions_filter]
    exact plain_entityAxis.mentions_words (by decide) orgId userId "a" "id" (by decide)
      (by decide) rest
  simp only [permittedTail, List.flatMap_cons, hentity, htag, Part.words, List.flatMap_nil,
    List.nil_append, List.cons_append]
  rw [Sql.mentions_table (Sql.not_isClause_of_dotted _ _), Sql.mentions_table (by decide),
    Sql.mentions_table (Sql.not_isClause_of_dotted _ _), Sql.mentions_table (by decide)]
  -- up to `a.tag_id` the words are fixed
  change "tag_id" :: Sql.mentions "a" false _ = _
  rw [Sql.mentions_other (by decide), hid, Sql.mentions_other (by decide), hvalue]
  rfl

/-- The parts behind the rows that the outermost level selects from. -/
def statementTail (selection : TagSelection) : List Part :=
  if selection.includesTags then [] else [.word "GROUP", .word "BY", .word "root.id"]

theorem exists_reads_closing (selection : TagSelection) : ∃ ps last,
    Reads [] (Sql.items ['\''] ([code " root"] ++
      if selection.includesTags then [] else [code " GROUP BY root.id"])) ps last ∧
    ps ++ Part.ofWord last = .word "root" :: statementTail selection := by
  have hroot : Reads [] (Sql.items ['\''] [code " root"]) [] "root".toList := .code (by decide) rfl
  unfold statementTail
  split
  case isTrue => exact ⟨_, _, hroot, rfl⟩
  case isFalse =>
    have hgroup : Reads "root".toList (Sql.items ['\''] [code " GROUP BY root.id"])
        [.word "root", .word "GROUP", .word "BY"] "root.id".toList := .code (by decide) rfl
    exact ⟨_, _, hroot.append hgroup, rfl⟩

theorem mentions_statementTail (selection : TagSelection) (columns : List String) :
    Sql.mentions "root" true ((statementTail selection).flatMap Part.words) ⊆ "id" :: columns := by
  unfold statementTail
  split
  case isTrue => exact List.nil_subset _
  case isFalse =>
    change ["id"] ⊆ _
    simp

/-! ### Levels -/

section Levels

variable (schema : String) (columns : List String) (selection : TagSelection) (f : CompiledFilter)
  (orgId userId : Int)

/-- The columns that the outer levels show beside the number of the entity. -/
def shown : List String :=
  if selection.includesTags then columns else []

/-- What the innermost level selects from: the tags of the entities that match the filter. -/
def foundRows : List Piece :=
  Sql.table schema "entity_tag" ++ [code " et JOIN "] ++ Sql.table schema "tag_def" ++
  [code " td ON et.tag_id = td.id WHERE et.entity_id IN (\n"] ++ candidates schema f ++
  f.predicate.sql schema ++ ([code ")\n)"] ++ tagRestriction selection)

/-- The level that reads the tags of the entities that are found. -/
def innermost : List Piece :=
  ([code "SELECT "] ++
    (if selection.includesTags then [] else [code "DISTINCT ON (et.entity_id) "]) ++
    [code "et.entity_id AS id"] ++ columnList columns "et") ++
  ([code " FROM "] ++ foundRows schema selection f)

/-- The level that checks access. -/
def permitted : List Piece :=
  ([code "SELECT a.id"] ++ columnList (shown columns selection) "a" ++ [code " FROM (\n"]) ++
  innermost schema columns selection f ++ libraries schema ++ [code "WHERE "] ++
  clause schema orgId userId

theorem statement_eq :
    rows schema columns selection f ++ access schema orgId userId ++ closing selection =
      Closure.sqlAll schema f.closures ++
      ([code "SELECT root.id AS entity_id"] ++ columnList (shown columns selection) "root" ++
        [code " FROM (\n"]) ++
      permitted schema columns selection f orgId userId ++ closing selection := by
  simp only [rows, found, opening, permitted, innermost, foundRows, clause, shown,
    List.append_assoc]

/-- The statement that the innermost level is. -/
def innermostSelect (tail : List Part) : Select :=
  ⟨⟨"et", "entity_id", "id"⟩ :: columns.map (.of "et"), tail⟩

/-- The statement that the level is which checks access. -/
def permittedSelect : Select :=
  ⟨.of "a" "id" :: (shown columns selection).map (.of "a"),
    .group (Sql.within (innermost schema columns selection f)) :: .word "a" ::
      permittedTail schema orgId userId⟩

/-- The whole statement. -/
def statementSelect : Select :=
  ⟨⟨"root", "id", "entity_id"⟩ :: (shown columns selection).map (.of "root"),
    .group (Sql.within (permitted schema columns selection f orgId userId)) :: .word "root" ::
      statementTail selection⟩

theorem shown_sublist : (shown columns selection).Sublist columns := by
  unfold shown
  split
  case isTrue => exact List.Sublist.refl columns
  case isFalse => exact List.nil_sublist columns

end Levels

/-- Beside the number of an entity no column is shown twice. -/
theorem nodup_shown (columns : ValueColumns) (selection : TagSelection) {name : String}
    (hname : name = "id" ∨ name = "entity_id") :
    (name :: shown columns.names selection).Nodup := by
  obtain ⟨-, hnodup, hcolumns⟩ := ValueColumns.check_eq_ok_iff.mp columns.checked
  have hsublist := shown_sublist columns.names selection
  refine List.nodup_cons.mpr ⟨fun hmem => ?_, hsublist.nodup hnodup⟩
  obtain ⟨-, hid, hentity⟩ := hcolumns name (hsublist.subset hmem)
  exact hname.elim hid hentity

theorem isIdentifier_shown (columns : ValueColumns) (selection : TagSelection) :
    ∀ c ∈ shown columns.names selection, Sql.isIdentifier c :=
  fun c hc => columns.isIdentifier c ((shown_sublist columns.names selection).subset hc)

/-- If rows are to be distinct in a column, this is told in front of the list. -/
theorem exists_reads_distinct (selection : TagSelection) : ∃ distinct,
    Reads [] (Sql.items ['\''] (if selection.includesTags then []
      else [code "DISTINCT ON (et.entity_id) "])) distinct [] ∧
    (∀ list, Part.withoutDistinct (distinct ++ .word "et.entity_id" :: list) =
      .word "et.entity_id" :: list) ∧ .word "FROM" ∉ distinct := by
  split
  case isTrue => exact ⟨[], .nil [], fun _ => rfl, by simp⟩
  case isFalse =>
    have hon : Reads [] (Sql.items ['\''] [code "DISTINCT ON "])
        [.word "DISTINCT", .word "ON"] [] := .code (by decide) rfl
    have hgroup : Reads []
        (Item.char '(' :: (Sql.items ['\''] [code "et.entity_id"] ++ [Item.char ')']))
        [.group (Sql.items ['\''] [code "et.entity_id"])] [] :=
      .group (show Nests 0 0 (Sql.outline [code "et.entity_id"]) [] from .nil 0) []
    have hblank : Reads [] (Sql.items ['\''] [code " "]) [] [] := .code (by decide) rfl
    exact ⟨_, (hon.append hgroup).append hblank, fun _ => rfl, by simp⟩

section Compiled

variable {options : CompileOptions} {e : Expr} {f : CompiledFilter} {m : Nat}
  (hschema : Sql.isIdentifier schema) (columns : ValueColumns) (selection : TagSelection)
  (hwell : e.WellFormed) (hf : compileExpr options e = .ok f) (orgId userId : Int)

include hschema hwell hf

theorem exists_renders_foundRows :
    ∃ ls, Renders false m m ([code " FROM "] ++ foundRows schema selection f) ls := by
  have hunmarked := Sql.unmarked_of_isIdentifier hschema
  have hall := (((renders_tables (m := m) hunmarked).append
    (renders_candidates hunmarked f)).append
    (CompiledFilter.renders_predicate hunmarked hwell hf)).append
    (renders_behindPredicate selection)
  simp only [foundRows, List.append_assoc] at hall ⊢
  exact ⟨_, hall⟩

theorem exists_renders_innermost :
    ∃ ls, Renders false m m (innermost schema columns.names selection f) ls := by
  obtain ⟨ls, hrows⟩ := exists_renders_foundRows hschema selection hwell hf (m := m)
  exact ⟨_, (renders_values columns.unmarked selection).append hrows⟩

theorem exists_renders_permitted :
    ∃ ls, Renders false m m (permitted schema columns.names selection f orgId userId) ls := by
  have hunmarked := Sql.unmarked_of_isIdentifier hschema
  obtain ⟨ls, hinner⟩ := exists_renders_innermost hschema columns selection hwell hf (m := m + 1)
  have hlist : Renders false m (m + 1) ([code "SELECT a.id"] ++
      columnList (shown columns.names selection) "a" ++ [code " FROM (\n"]) [] :=
    renders_level
      (fun c hc => Sql.unmarked_of_isIdentifier (isIdentifier_shown columns selection c hc))
      (by decide) (by decide) (by decide)
  have hwhere : Renders false m m ([code "WHERE "] ++ clause schema orgId userId) ["lib"] :=
    .code_cons (by decide) (.nil m) (renders_clause hunmarked orgId userId)
  have hall := ((hlist.append hinner).append (renders_libraries hunmarked)).append hwhere
  rw [← List.append_assoc] at hall
  exact ⟨_, hall⟩

theorem ofItems?_innermost : ∃ tail,
    Select.ofItems? (Sql.within (innermost schema columns.names selection f)) =
      some (innermostSelect columns.names tail) := by
  obtain ⟨distinct, hdistinct, hwithout, hfrom⟩ := exists_reads_distinct selection
  have hbreak : Reads [] (Sql.items ['\''] [code "\n"]) [] [] := .code (by decide) rfl
  have hselect : Reads [] (Sql.items ['\''] [code "SELECT "]) [.word "SELECT"] [] :=
    .code (by decide) rfl
  have hnumber : Reads [] (Sql.items ['\''] [code "et.entity_id AS id"])
      [.word "et.entity_id", .word "AS"] "id".toList := .code (by decide) rfl
  have hlist := Reads.entries (show Sql.isIdentifier "et" by decide) columns.isIdentifier
    "id".toList
  have hhead := (((hbreak.append hselect).append hdistinct).append hnumber).append hlist
  -- of what is behind the list it matters only that it can be read
  obtain ⟨ls, hrows⟩ := exists_renders_foundRows hschema selection hwell hf (m := 0)
  have hrest : Nests 0 0 (Sql.outline (foundRows schema selection f ++ [code "\n"])) ls := by
    simpa [Sql.marks, Sql.isMark] using hrows.nests
  obtain ⟨tail, htail⟩ := (Sql.exists_partsFrom _).1 [] ls hrest
  have hall := hhead (Sql.items ['\''] (foundRows schema selection f ++ [code "\n"]))
  have hparts : Select.ofParts? ([] ++ Part.word "SELECT" :: (distinct ++
      ([Part.word "et.entity_id", .word "AS", .word "id"] ++ Sql.entries "et" columns.names) ++
        Part.word "FROM" :: tail)) = some (innermostSelect columns.names tail) :=
    Select.ofParts?_eq _ (by simp) (hwithout _) (by simp [hfrom]) (by simp) (by rfl) (by decide)
      columns.isIdentifier tail
  rw [htail] at hall
  refine ⟨tail, ?_⟩
  simp only [Sql.within, innermost, Sql.items_append, List.append_assoc] at hall hparts ⊢
  rw [Select.ofItems?, hall]
  exact hparts

theorem ofItems?_permitted :
    Select.ofItems? (Sql.within (permitted schema columns.names selection f orgId userId)) =
      some (permittedSelect schema columns.names selection f orgId userId) := by
  obtain ⟨ls, hinner⟩ := exists_renders_innermost hschema columns selection hwell hf (m := 0)
  have hbreak : Reads [] (Sql.items ['\''] [code "\n"]) [] [] := .code (by decide) rfl
  have hselect : Reads [] (Sql.items ['\''] [code "SELECT a.id"]) [.word "SELECT"] "a.id".toList :=
    .code (by decide) rfl
  have hsource := Reads.source (show Sql.isIdentifier "a" by decide)
    (isIdentifier_shown columns selection) "a.id".toList hinner.nests
  have hall := ((((hbreak.append hselect).append hsource).append
    (reads_permittedTail hschema orgId userId)).append hbreak).partsFrom_eq
  have hclose : Sql.items ['\''] [code "\n) a, "] =
      Sql.items ['\''] [code "\n)"] ++ Sql.items ['\''] [code " a, "] := rfl
  have hparts : Select.ofParts? ([] ++ Part.word "SELECT" ::
      ([] ++ ([Part.word "a.id"] ++ Sql.entries "a" (shown columns.names selection)) ++
        Part.word "FROM" :: (permittedSelect schema columns.names selection f orgId userId).tail)) =
      some (permittedSelect schema columns.names selection f orgId userId) :=
    Select.ofParts?_eq _ (by simp) rfl (by simp) (by simp) (by rfl) (by decide)
      (isIdentifier_shown columns selection) _
  simp only [permittedSelect, Sql.within, permitted, libraries, Sql.items_append, hclose,
    List.append_assoc] at hall hparts ⊢
  rw [Select.ofItems?, hall]
  exact hparts

theorem ofText?_statement : Select.ofText? (Sql.text (rows schema columns.names selection f ++
      access schema orgId userId ++ closing selection)) =
    some (statementSelect schema columns.names selection f orgId userId) := by
  have hunmarked := Sql.unmarked_of_isIdentifier hschema
  have hrenders : Renders true 0 0 (rows schema columns.names selection f ++
      access schema orgId userId ++ closing selection) _ :=
    ((renders_rows hunmarked columns selection hwell hf).append
      (renders_access hunmarked orgId userId)).append (renders_closing selection)
  obtain ⟨front, hfront, hno⟩ := Closure.passes_sqlAll hunmarked f.closures
  obtain ⟨ls, hinner⟩ :=
    exists_renders_permitted hschema columns selection hwell hf orgId userId (m := 0)
  obtain ⟨ps, last, hclosing, hlast⟩ := exists_reads_closing selection
  have hselect : Reads [] (Sql.items ['\''] [code "SELECT root.id AS entity_id"])
      [.word "SELECT", .word "root.id", .word "AS"] "entity_id".toList := .code (by decide) rfl
  have hsource := Reads.source (show Sql.isIdentifier "root" by decide)
    (isIdentifier_shown columns selection) "entity_id".toList hinner.nests
  have hall := (((hfront.append hselect).append hsource).append hclosing).partsFrom_eq
  have hclose : Sql.items ['\''] [code "\n) root"] =
      Sql.items ['\''] [code "\n)"] ++ Sql.items ['\''] [code " root"] := rfl
  have hparts : Select.ofParts? (front ++ Part.word "SELECT" ::
      ([] ++ ([Part.word "root.id", .word "AS", .word "entity_id"] ++
        Sql.entries "root" (shown columns.names selection)) ++
        Part.word "FROM" :: (statementSelect schema columns.names selection f orgId userId).tail)) =
      some (statementSelect schema columns.names selection f orgId userId) :=
    Select.ofParts?_eq _ hno rfl (by simp) (by simp) (by rfl) (by decide)
      (isIdentifier_shown columns selection) _
  rw [Select.ofText?, hrenders.scan_eq, Option.bind_some, statement_eq]
  simp only [statementSelect, Sql.within, closing, Sql.items_append, hclose, List.append_assoc,
    hlast] at hall hparts ⊢
  rw [Select.ofItems?, hall]
  exact hparts

theorem statementSelect_readsFrom :
    (statementSelect schema columns.names selection f orgId userId).ReadsFrom
      (permittedSelect schema columns.names selection f orgId userId) where
  source := ofItems?_permitted hschema columns selection hwell hf orgId userId
  reads := by
    rw [statementSelect, permittedSelect, Select.reads_eq (by rfl), Select.names_eq]
    exact List.append_subset.mpr ⟨List.Subset.refl _, mentions_statementTail selection _⟩
  nodup := by
    rw [permittedSelect, Select.names_eq]
    exact nodup_shown columns selection (.inl rfl)

end Compiled

theorem reads_permittedSelect (hschema : Sql.isIdentifier schema) (columns : List String)
    (selection : TagSelection) (f : CompiledFilter) (orgId userId : Int) :
    (permittedSelect schema columns selection f orgId userId).reads =
      "id" :: shown columns selection ++ ["tag_id", "id", "id", "id"] := by
  rw [permittedSelect, Select.reads_eq (show (SelectedColumn.of "a" "id").row = "a" from rfl),
    mentions_permittedTail hschema]
  rfl

theorem permittedSelect_readsFrom (hschema : Sql.isIdentifier schema) {columns : ValueColumns}
    {selection : TagSelection} {f : CompiledFilter} {tail : List Part} (orgId userId : Int)
    (hinner : Select.ofItems? (Sql.within (innermost schema columns.names selection f)) =
      some (innermostSelect columns.names tail)) :
    (permittedSelect schema columns.names selection f orgId userId).ReadsFrom
      (innermostSelect columns.names tail) where
  source := hinner
  reads := by
    have htag := (ValueColumns.check_eq_ok_iff.mp columns.checked).1
    have hshown := (shown_sublist columns.names selection).subset
    rw [reads_permittedSelect hschema, innermostSelect, Select.names_eq]
    refine List.append_subset.mpr ⟨List.cons_subset_cons _ hshown, ?_⟩
    simp [htag]
  nodup := by
    obtain ⟨-, hnodup, hcolumns⟩ := ValueColumns.check_eq_ok_iff.mp columns.checked
    rw [innermostSelect, Select.names_eq]
    exact List.nodup_cons.mpr ⟨fun hmem => (hcolumns _ hmem).2.1 rfl, hnodup⟩

end Query

end Parts

/-- **Each level of a compiled statement reads columns that the next one has.**  Two of them select
from the next one: they read the number of the entity and all columns that are shown, and the second
one also reads the number of the tag. -/
theorem Query.exists_levels {compiler : QueryCompiler} {q : Query} {c : CompiledQuery}
    (h : compile compiler q = .ok c) :
    let shown := if q.tags = [] then [] else compiler.columns.names
    ∃ outer middle inner : Select, Select.ofText? c.sql = some outer ∧
      outer.columns = ⟨"root", "id", "entity_id"⟩ :: shown.map (.of "root") ∧
      middle.columns = .of "a" "id" :: shown.map (.of "a") ∧
      inner.columns = ⟨"et", "entity_id", "id"⟩ :: compiler.columns.names.map (.of "et") ∧
      outer.ReadsFrom middle ∧ "id" :: shown ⊆ outer.reads ∧
      middle.ReadsFrom inner ∧ "id" :: "tag_id" :: shown ⊆ middle.reads := by
  obtain ⟨hschema, e, f, he, hf, rfl⟩ := compile_eq_ok_iff.mp h
  have hwell := wellFormed_of_parse he
  have hshown := TagSelection.ite_includesTags q.tags compiler.columns.names []
  obtain ⟨tail, hinner⟩ :=
    ofItems?_innermost hschema compiler.columns (.ofRequested q.tags) hwell hf
  have hreads := reads_permittedSelect hschema compiler.columns.names (.ofRequested q.tags) f
    q.orgId q.userId
  rw [← hshown]
  refine ⟨_, _, _, ofText?_statement hschema compiler.columns _ hwell hf q.orgId q.userId, rfl, rfl,
    rfl, statementSelect_readsFrom hschema compiler.columns _ hwell hf q.orgId q.userId, ?_,
    permittedSelect_readsFrom hschema q.orgId q.userId hinner, ?_⟩
  · rw [statementSelect, Select.reads_eq (by rfl)]
    exact List.subset_append_left _ _
  · rw [hreads]
    simp [shown]

end EntityFilter
