import Mathlib
import EntityFilter.Proofs.Query.Enclosure

/-!
# Reading the columns of statements

What a statement selects is read off from its text.  `Sql.partsFrom` splits what a scan finds into
the parts of one level: words, commas and literals, and groups in parentheses, which are not looked
into.  A statement with `SELECT` and `FROM` on its level is a `Sql.Select`: the list of its columns,
and what follows.  If it selects from a group, its `Select.reads` are the columns of that group
which it mentions, in the list as well as in the conditions.

Texts that are put in a row are read in a row (`Sql.Reads.append`), and a group whose parentheses
are level is one part, whatever stands in it (`Sql.Reads.group`).
-/

namespace EntityFilter

namespace Sql

/-! ### Parts -/

/-- A part of a statement on its own level. -/
inductive Part
  | word (text : String)
  | comma
  | literal (content : List Char)
  /-- What stands in parentheses. -/
  | group (items : List Item)
deriving DecidableEq, Repr

/-- The word with these characters, if there are any. -/
def Part.ofWord (word : List Char) : List Part :=
  if word = [] then [] else [.word (String.ofList word)]

/-- The parts of a text that has no quotes and parentheses.  It goes on with the characters `word`,
and those that it ends with may go on as well. -/
def Part.ofChars (word : List Char) : List Char → List Part × List Char
  | [] => ([], word)
  | c :: rest =>
    if c = ',' then (ofWord word ++ .comma :: (ofChars [] rest).1, (ofChars [] rest).2)
    else if c.isWhitespace then (ofWord word ++ (ofChars [] rest).1, (ofChars [] rest).2)
    else ofChars (word ++ [c]) rest

/-- Where the reading of parts stands. -/
inductive PartState
  /-- Behind the characters of a word. -/
  | outside (word : List Char)
  /-- In parentheses, with what was read of the group, and so many more of them open. -/
  | inside (depth : Nat) (content : List Item)

/-- The parts of what follows; nothing if the parentheses are not level. -/
def partsFrom : PartState → List Item → Option (List Part)
  | .outside word, []                       => some (Part.ofWord word)
  | .inside _ _, []                         => none
  | .outside word, .quoted _ content :: rest =>
    (partsFrom (.outside []) rest).map (Part.ofWord word ++ .literal content :: ·)
  | .outside word, .char c :: rest          =>
    if c = '(' then (partsFrom (.inside 0 []) rest).map (Part.ofWord word ++ ·)
    else if c = ')' then none
    else if c = ',' then (partsFrom (.outside []) rest).map (Part.ofWord word ++ .comma :: ·)
    else if c.isWhitespace then (partsFrom (.outside []) rest).map (Part.ofWord word ++ ·)
    else partsFrom (.outside (word ++ [c])) rest
  | .inside m content, .char '(' :: rest    =>
    partsFrom (.inside (m + 1) (content ++ [.char '('])) rest
  | .inside 0 content, .char ')' :: rest    =>
    (partsFrom (.outside []) rest).map (.group content :: ·)
  | .inside (m + 1) content, .char ')' :: rest =>
    partsFrom (.inside m (content ++ [.char ')'])) rest
  | .inside m content, i :: rest            => partsFrom (.inside m (content ++ [i])) rest

/-- The parts in front of and behind the first word `w`. -/
def Part.cut? (w : String) : List Part → Option (List Part × List Part)
  | []        => none
  | p :: rest =>
    if p = .word w then some ([], rest)
    else (cut? w rest).map fun (front, back) => (p :: front, back)

/-! ### Selected columns -/

/-- The name of a row and that of a column, from a word with a dot between them. -/
def dotted? (word : String) : Option (String × String) :=
  match word.toList.splitOn '.' with
  | [row, column] => some (String.ofList row, String.ofList column)
  | _             => none

/-- A column of a row, and the name it is selected with. -/
structure SelectedColumn where
  row : String
  column : String
  name : String
deriving DecidableEq, Repr

/-- The column that an entry of a list selects. -/
def SelectedColumn.ofParts? : List Part → Option SelectedColumn
  | [.word w] => (dotted? w).map fun (row, column) => ⟨row, column, column⟩
  | [.word w, .word "AS", .word name] =>
    (dotted? w).map fun (row, column) => ⟨row, column, name⟩
  | _ => none

/-- What is left of a list without the columns that its rows are distinct in. -/
def Part.withoutDistinct : List Part → List Part
  | .word "DISTINCT" :: .word "ON" :: .group _ :: rest => rest
  | parts                                              => parts

/-- A statement: the columns that it selects, and what follows `FROM`. -/
structure Select where
  columns : List SelectedColumn
  tail : List Part
deriving DecidableEq, Repr

/-- The character that stands for an item where only words are read. -/
def Item.flat : Item → Char
  | .char c     => if c = '(' || c = ')' then ' ' else c
  | .quoted _ _ => ' '

/-- The text of a word. -/
def Part.word? : Part → Option String
  | word w => some w
  | _      => none

/-- All words of some items, with those in parentheses. -/
def Item.allWords (is : List Item) : List String :=
  let read := Part.ofChars [] (is.map flat)
  (read.1 ++ Part.ofWord read.2).filterMap Part.word?

/-- All words of a part. -/
def Part.words : Part → List String
  | word w            => [w]
  | comma | literal _ => []
  | group is          => Item.allWords is

/-- The columns of the row `row` that are mentioned in words.  Behind `FROM` come the names of
tables, up to `WHERE` or `GROUP`. -/
def mentions (row : String) : Bool → List String → List String
  | _, [] => []
  | tables, w :: rest =>
    if w = "FROM" then mentions row true rest
    else if w = "WHERE" ∨ w = "GROUP" then mentions row false rest
    else if tables then mentions row true rest
    else (((dotted? w).filter fun name => name.1 == row).map Prod.snd).toList ++
      mentions row false rest

namespace Select

/-- The statement with these parts. -/
def ofParts? (parts : List Part) : Option Select := do
  let (_, rest) ← Part.cut? "SELECT" parts
  let (list, tail) ← Part.cut? "FROM" rest
  let columns ← ((Part.withoutDistinct list).splitOn .comma).mapM SelectedColumn.ofParts?
  pure ⟨columns, tail⟩

/-- The statement that is scanned into these items. -/
def ofItems? (is : List Item) : Option Select :=
  (partsFrom (.outside []) is).bind ofParts?

/-- The statement that a text is. -/
def ofText? (text : String) : Option Select :=
  (scan ['\''] text).bind ofItems?

/-- The names of the columns of the result. -/
def names (s : Select) : List String :=
  s.columns.map (·.name)

/-- What a statement selects from, if that stands in parentheses. -/
def source? (s : Select) : Option (List Item) :=
  match s.tail with
  | .group source :: .word _ :: _ => some source
  | _                             => none

/-- The columns that a statement reads of what it selects from, if that stands in parentheses. -/
def reads (s : Select) : List String :=
  match s.tail with
  | .group _ :: .word row :: rest =>
    ((s.columns.filter fun c => c.row == row).map (·.column)) ++
      mentions row true (rest.flatMap Part.words)
  | _ => []

end Select

example : (Select.ofText? "SELECT r.a AS b FROM (SELECT t.a, t.c FROM t) r WHERE (r.c)").map
      (fun s => (s.names, s.reads, (s.source?.bind Select.ofItems?).map Select.names)) =
    some (["b"], ["a", "c"], some ["a", "c"]) := by
  cbv

/-! ### Parts of texts in a row -/

@[simp] theorem Part.word?_word (w : String) : (Part.word w).word? = some w := rfl

theorem Part.ofWord_toList {w : String} (h : w ≠ "") : ofWord w.toList = [.word w] := by
  rw [ofWord, if_neg (by simpa using h), String.ofList_toList]

/-- The characters stand in one word. -/
def Solid (cs : List Char) : Prop :=
  ∀ c ∈ cs, c ≠ ',' ∧ c.isWhitespace = false

instance (cs : List Char) : Decidable (Solid cs) :=
  List.decidableBAll _ cs

theorem Solid.append {cs ds : List Char} (h₁ : Solid cs) (h₂ : Solid ds) : Solid (cs ++ ds) :=
  List.forall_mem_append.mpr ⟨h₁, h₂⟩

theorem Solid.dotted {row column : String} (hrow : Solid row.toList)
    (hcolumn : Solid column.toList) : Solid (row ++ "." ++ column).toList := by
  have hdot : Solid ".".toList := by decide
  rw [String.toList_append, String.toList_append]
  exact (hrow.append hdot).append hcolumn

theorem solid_of_all {cs : List Char} {p : Char → Bool} (h : ∀ c ∈ cs, p c)
    (hp : [',', ' ', '\t', '\r', '\n'].all fun c => !p c) : Solid cs := by
  intro c hc
  have hother : ∀ d ∈ [',', ' ', '\t', '\r', '\n'], c ≠ d := by
    rintro d hd rfl
    have hno := List.all_eq_true.mp hp c hd
    rw [h c hc] at hno
    cases hno
  simp only [List.forall_mem_cons] at hother
  simp [Char.isWhitespace, hother]

theorem solid_of_isIdentifier {text : String} (h : isIdentifier text) : Solid text.toList :=
  solid_of_all (p := fun c => c.isAlphanum || c == '_') (char_isIdentifier h) (by decide)

theorem dot_notMem_of_isIdentifier {text : String} (h : isIdentifier text) : '.' ∉ text.toList :=
  fun hmem => absurd (char_isIdentifier h '.' hmem) (by decide)

theorem Part.ofChars_of_solid {cs : List Char} (h : Solid cs) (word rest : List Char) :
    ofChars word (cs ++ rest) = ofChars (word ++ cs) rest := by
  induction cs generalizing word with
  | nil => rw [List.nil_append, List.append_nil]
  | cons c cs ih =>
      obtain ⟨⟨hcomma, hblank⟩, hcs⟩ := List.forall_mem_cons.mp h
      rw [List.cons_append, ofChars, if_neg hcomma, if_neg (by simp [hblank]), ih hcs,
        List.append_assoc]
      rfl

/-- A word ends where a blank follows. -/
theorem Part.ofChars_word {w t : String} (hw : w ≠ "") {ps : List Part} {last : List Char}
    (h : ofChars [] t.toList = (ps, last)) :
    ofChars w.toList (" " ++ t).toList = (.word w :: ps, last) := by
  have hblank : (" " ++ t).toList = ' ' :: t.toList := String.toList_append
  rw [hblank]
  change (ofWord _ ++ (ofChars [] t.toList).1, (ofChars [] t.toList).2) = _
  rw [h, ofWord_toList hw]
  rfl

/-- Words with a blank behind each. -/
def spaced (ws : List String) : List Char :=
  ws.flatMap fun w => w.toList ++ [' ']

/-- Such words are read back, apart from empty ones. -/
theorem Part.ofChars_spaced {ws : List String} (h : ∀ w ∈ ws, Solid w.toList) (rest : List Char) :
    ofChars [] (spaced ws ++ rest) =
      ((ws.filter (· ≠ "")).map .word ++ (ofChars [] rest).1, (ofChars [] rest).2) := by
  induction ws with
  | nil => rfl
  | cons w ws ih =>
      obtain ⟨hw, hws⟩ := List.forall_mem_cons.mp h
      have hfirst : ofChars [] (spaced (w :: ws) ++ rest) =
          (ofWord w.toList ++ (ofChars [] (spaced ws ++ rest)).1,
            (ofChars [] (spaced ws ++ rest)).2) := by
        simp only [spaced, List.flatMap_cons, List.append_assoc]
        exact ofChars_of_solid hw [] _
      rw [hfirst, ih hws]
      by_cases hempty : w = ""
      · simp [ofWord, hempty]
      · simp [ofWord_toList, hempty]

theorem Item.allWords_eq {is : List Item} {ws : List String} (his : is.map flat = spaced ws)
    (h : ∀ w ∈ ws, Solid w.toList) : allWords is = ws.filter (· ≠ "") := by
  have hread := Part.ofChars_spaced h []
  rw [List.append_nil] at hread
  simp [allWords, his, hread, Part.ofChars, Part.ofWord, Function.comp_def]

/-- The items are these parts behind the characters `word`, and end with the characters `last`,
whatever follows them. -/
def Reads (word : List Char) (is : List Item) (ps : List Part) (last : List Char) : Prop :=
  ∀ rest, partsFrom (.outside word) (is ++ rest) =
    (partsFrom (.outside last) rest).map (ps ++ ·)

theorem partsFrom_inside {m n : Nat} {content is rest : List Item} {ls : List String}
    (h : Nests m n (is.filter Item.isMark) ls) :
    partsFrom (.inside m content) (is ++ rest) = partsFrom (.inside n (content ++ is)) rest := by
  induction is generalizing m content ls with
  | nil =>
      cases h
      rw [List.append_nil, List.nil_append]
  | cons i is ih =>
      rw [List.filter_cons] at h
      rw [List.cons_append, List.append_cons]
      split at h
      · cases h with
        | literal t h => exact ih h
        | opening h => exact ih h
        | closing h => exact ih h
      · rename_i hmark
        cases i with
        | quoted quote content => exact absurd rfl hmark
        | char c =>
            obtain ⟨hopen, hclose⟩ := ne_of_isMark_eq_false
              (show isMark c = false by simpa [Item.isMark] using hmark)
            rw [partsFrom]
            · exact ih h
            all_goals simp [hopen, hclose]

namespace Reads

variable {word last : List Char} {is js : List Item} {ps qs : List Part}

theorem nil (word : List Char) : Reads word [] [] word := by
  intro rest
  simp

theorem append {middle : List Char} (h₁ : Reads word is ps middle) (h₂ : Reads middle js qs last) :
    Reads word (is ++ js) (ps ++ qs) last := by
  intro rest
  rw [List.append_assoc, h₁, h₂, Option.map_map]
  congr 1
  funext later
  exact (List.append_assoc ps qs later).symm

/-- Text without marks. -/
theorem chars {cs : List Char} (h : cs.filter isMark = []) (word : List Char) :
    Reads word (cs.map .char) (Part.ofChars word cs).1 (Part.ofChars word cs).2 := by
  rw [List.filter_eq_nil_iff] at h
  intro rest
  induction cs generalizing word with
  | nil => simp [Part.ofChars]
  | cons c cs ih =>
      obtain ⟨hc, hcs⟩ := List.forall_mem_cons.mp h
      obtain ⟨hopen, hclose⟩ := ne_of_isMark_eq_false (by simpa using hc)
      rw [List.map_cons, List.cons_append, partsFrom, if_neg hopen, if_neg hclose, Part.ofChars]
      split
      · simp [ih hcs, Function.comp_def]
      · split
        · simp [ih hcs, Function.comp_def]
        · exact ih hcs _

theorem literal (t : String) (word : List Char) :
    Reads word [.literal t] (Part.ofWord word ++ [.literal t.toList]) [] := by
  intro rest
  change (partsFrom (.outside []) rest).map _ = _
  simp

/-- A group is one part. -/
theorem group {inside : List Item} {ls : List String}
    (h : Nests 0 0 (inside.filter Item.isMark) ls) (word : List Char) :
    Reads word (.char '(' :: (inside ++ [.char ')'])) (Part.ofWord word ++ [.group inside]) [] := by
  intro rest
  have hgroup : partsFrom (.inside 0 []) (inside ++ .char ')' :: rest) =
      (partsFrom (.outside []) rest).map (.group inside :: ·) := by
    rw [partsFrom_inside h]
    rfl
  rw [List.cons_append, List.append_assoc, partsFrom, if_pos rfl, List.singleton_append, hgroup,
    Option.map_map]
  congr 1
  funext later
  simp

/-- Items to the end of a statement. -/
theorem partsFrom_eq (h : Reads word is ps last) :
    partsFrom (.outside word) is = some (ps ++ Part.ofWord last) := by
  have hall := h []
  rwa [List.append_nil] at hall

end Reads

/-- What has level parentheses can be read to the end, also from inside a group. -/
theorem exists_partsFrom (is : List Item) :
    (∀ word ls, Nests 0 0 (is.filter Item.isMark) ls →
      ∃ ps, partsFrom (.outside word) is = some ps) ∧
    ∀ m content ls, Nests (m + 1) 0 (is.filter Item.isMark) ls →
      ∃ ps, partsFrom (.inside m content) is = some ps := by
  induction is with
  | nil => exact ⟨fun word _ _ => ⟨_, rfl⟩, fun _ _ _ h => nomatch h⟩
  | cons i is ih =>
      simp only [List.filter_cons]
      cases hmark : i.isMark with
      | true =>
          refine ⟨fun word ls h => ?_, fun m content ls h => ?_⟩
          · cases h with
            | literal t h =>
                obtain ⟨ps, hps⟩ := ih.1 [] _ h
                exact ⟨_, congrArg (Option.map _) hps⟩
            | opening h =>
                obtain ⟨ps, hps⟩ := ih.2 0 [] _ h
                exact ⟨_, congrArg (Option.map _) hps⟩
          · cases h with
            | literal t h => exact ih.2 m _ _ h
            | opening h => exact ih.2 (m + 1) _ _ h
            | closing h =>
                cases m with
                | zero =>
                    obtain ⟨ps, hps⟩ := ih.1 [] _ h
                    exact ⟨_, congrArg (Option.map _) hps⟩
                | succ m => exact ih.2 m _ _ h
      | false =>
          cases i with
          | quoted quote content => cases hmark
          | char c =>
              obtain ⟨hopen, hclose⟩ := ne_of_isMark_eq_false hmark
              refine ⟨fun word ls h => ?_, fun m content ls h => ?_⟩
              · rw [partsFrom, if_neg hopen, if_neg hclose]
                obtain ⟨ps, hps⟩ := ih.1 [] ls h
                split
                · exact ⟨_, congrArg (Option.map _) hps⟩
                · split
                  · exact ⟨_, congrArg (Option.map _) hps⟩
                  · exact ih.1 _ ls h
              · rw [partsFrom]
                · exact ih.2 m _ ls h
                all_goals simp [hopen, hclose]

/-! ### Lists of columns -/

theorem Part.cut?_append {w : String} {front : List Part} (h : .word w ∉ front) (back : List Part) :
    cut? w (front ++ .word w :: back) = some (front, back) := by
  induction front with
  | nil => simp [cut?]
  | cons p front ih =>
      rw [List.mem_cons, not_or] at h
      rw [List.cons_append, cut?, if_neg (Ne.symm h.1), ih h.2]
      rfl

theorem dotted?_append {row column : String} (hrow : '.' ∉ row.toList)
    (hcolumn : '.' ∉ column.toList) : dotted? (row ++ "." ++ column) = some (row, column) := by
  have hsplit : (row ++ "." ++ column).toList.splitOn '.' = [row.toList, column.toList] := by
    rw [String.toList_append, String.toList_append, List.append_assoc]
    exact (List.splitOn_append_cons_self_of_not_mem hrow _).trans
      (congrArg _ (List.splitOn_eq_singleton hcolumn))
  rw [dotted?, hsplit]
  simp only [String.ofList_toList]

theorem dotted?_eq_none {w : String} (h : '.' ∉ w.toList) : dotted? w = none := by
  rw [dotted?, List.splitOn_eq_singleton h]

/-- The entries of a list for columns of one row, each behind a comma. -/
def entries (row : String) (columns : List String) : List Part :=
  columns.flatMap fun c => [.comma, .word (row ++ "." ++ c)]

/-- The text of such entries. -/
def entriesText (row : String) (columns : List String) : List Char :=
  columns.flatMap fun c => ", ".toList ++ (row ++ "." ++ c).toList

theorem Part.ofChars_entriesText {row : String} {columns : List String} (hrow : Solid row.toList)
    (hcolumns : ∀ c ∈ columns, Solid c.toList) (word rest : List Char) :
    ofChars word (entriesText row columns ++ ' ' :: rest) =
      (ofWord word ++ entries row columns ++ (ofChars [] rest).1, (ofChars [] rest).2) := by
  induction columns generalizing word with
  | nil => rw [entries, List.flatMap_nil, List.append_nil]; rfl
  | cons c columns ih =>
      obtain ⟨hc, hcolumns⟩ := List.forall_mem_cons.mp hcolumns
      have hword : ∀ later, ofChars [] ((row ++ "." ++ c).toList ++ later) =
          ofChars (row ++ "." ++ c).toList later := ofChars_of_solid (hrow.dotted hc) []
      have hfirst : ofChars word (entriesText row (c :: columns) ++ ' ' :: rest) =
          (ofWord word ++ .comma ::
              (ofChars (row ++ "." ++ c).toList (entriesText row columns ++ ' ' :: rest)).1,
            (ofChars (row ++ "." ++ c).toList (entriesText row columns ++ ' ' :: rest)).2) := by
        simp only [entriesText, List.flatMap_cons, List.append_assoc, ← hword]
        rfl
      rw [hfirst, ih hcolumns]
      simp [entries, ofWord, String.append_assoc]

theorem splitOn_entries {first : List Part} (h : .comma ∉ first) (row : String)
    (columns : List String) : (first ++ entries row columns).splitOn .comma =
      first :: columns.map fun c => [.word (row ++ "." ++ c)] := by
  induction columns generalizing first with
  | nil => simpa [entries] using List.splitOn_eq_singleton h
  | cons c columns ih =>
      have hrest := @ih [.word (row ++ "." ++ c)] (by simp)
      exact (List.splitOn_append_cons_self_of_not_mem h _).trans (congrArg _ hrest)

theorem word_notMem_entries {w : String} (h : '.' ∉ w.toList) (row : String)
    (columns : List String) : .word w ∉ entries row columns := by
  simp only [entries, List.mem_flatMap, List.mem_cons, reduceCtorEq, Part.word.injEq,
    List.not_mem_nil, or_false, false_or, not_exists, not_and]
  rintro c - rfl
  simp at h

/-- The column that an entry for it selects. -/
def SelectedColumn.of (row column : String) : SelectedColumn :=
  ⟨row, column, column⟩

theorem SelectedColumn.mapM_ofParts? {row : String} {columns : List String}
    (hrow : '.' ∉ row.toList) (hcolumns : ∀ c ∈ columns, '.' ∉ c.toList) :
    (columns.map fun c => [Part.word (row ++ "." ++ c)]).mapM ofParts? =
      some (columns.map (of row)) := by
  induction columns with
  | nil => rfl
  | cons c columns ih =>
      obtain ⟨hc, hcolumns⟩ := List.forall_mem_cons.mp hcolumns
      have hfirst : ofParts? [.word (row ++ "." ++ c)] = some (of row c) := by
        rw [ofParts?, dotted?_append hrow hc]
        rfl
      simp [List.mapM_cons, hfirst, ih hcolumns]

/-- A statement with a list of columns, of which the first one has an entry of its own. -/
theorem Select.ofParts?_eq {front distinct : List Part} (first : List Part)
    {column : SelectedColumn} {row : String} {columns : List String}
    (hfront : .word "SELECT" ∉ front)
    (hdistinct : Part.withoutDistinct (distinct ++ (first ++ entries row columns)) =
      first ++ entries row columns)
    (hfrom : .word "FROM" ∉ distinct ++ first) (hcomma : .comma ∉ first)
    (hfirst : SelectedColumn.ofParts? first = some column) (hrow : isIdentifier row)
    (hcolumns : ∀ c ∈ columns, isIdentifier c) (tail : List Part) :
    ofParts? (front ++ .word "SELECT" ::
        (distinct ++ (first ++ entries row columns) ++ .word "FROM" :: tail)) =
      some ⟨column :: columns.map (.of row), tail⟩ := by
  have hrest := SelectedColumn.mapM_ofParts? (dot_notMem_of_isIdentifier hrow)
    fun c hc => dot_notMem_of_isIdentifier (hcolumns c hc)
  have hlist : .word "FROM" ∉ distinct ++ (first ++ entries row columns) := by
    rw [← List.append_assoc, List.mem_append, not_or]
    exact ⟨hfrom, word_notMem_entries (by decide) row columns⟩
  simp only [ofParts?, Part.cut?_append hfront, Part.cut?_append hlist, hdistinct,
    splitOn_entries hcomma, List.mapM_cons, hfirst, hrest, bind, Option.bind, pure]

theorem Select.names_eq (first : SelectedColumn) (row : String) (columns : List String)
    (tail : List Part) : names ⟨first :: columns.map (.of row), tail⟩ = first.name :: columns := by
  simp [names, SelectedColumn.of, Function.comp_def]

theorem Select.names_of_columns {s : Select} {first : SelectedColumn} {row : String}
    {columns : List String} (h : s.columns = first :: columns.map (.of row)) :
    s.names = first.name :: columns := by
  obtain ⟨_, tail⟩ := s
  subst h
  exact names_eq first row columns tail

/-- All columns of a list are read from the group behind it, if they are columns of its row. -/
theorem Select.reads_eq {first : SelectedColumn} {row : String} (hfirst : first.row = row)
    (columns : List String) (source : List Item) (rest : List Part) :
    reads ⟨first :: columns.map (.of row), .group source :: .word row :: rest⟩ =
      first.column :: columns ++ mentions row true (rest.flatMap Part.words) := by
  simp [reads, hfirst, List.filter_map, SelectedColumn.of, Function.comp_def]

/-- A statement selects from another one, and has its columns from there. -/
structure Select.ReadsFrom (outer inner : Select) : Prop where
  source : outer.source?.bind ofItems? = some inner
  /-- What is read is there. -/
  reads : outer.reads ⊆ inner.names
  /-- It is there only once. -/
  nodup : inner.names.Nodup

/-! ### Mentioned columns -/

/-- The word decides where the names of tables stand. -/
def IsClause (w : String) : Prop :=
  w = "FROM" ∨ w = "WHERE" ∨ w = "GROUP"

instance (w : String) : Decidable (IsClause w) :=
  inferInstanceAs (Decidable (_ ∨ _))

theorem not_isClause_of_dotted (row column : String) : ¬ IsClause (row ++ "." ++ column) := by
  have hdot : '.' ∈ (row ++ "." ++ column).toList := by simp
  rintro (h | h | h) <;> exact absurd (h ▸ hdot) (by decide)

section Mentions

variable {row w : String} {rest : List String}

theorem mentions_table (h : ¬ IsClause w) :
    mentions row true (w :: rest) = mentions row true rest := by
  obtain ⟨hfrom, hwhere⟩ := not_or.mp h
  rw [mentions, if_neg hfrom, if_neg hwhere, if_pos rfl]

theorem mentions_other (h : ¬ IsClause w ∧ '.' ∉ w.toList) :
    mentions row false (w :: rest) = mentions row false rest := by
  obtain ⟨hfrom, hwhere⟩ := not_or.mp h.1
  rw [mentions, if_neg hfrom, if_neg hwhere, if_neg Bool.false_ne_true, dotted?_eq_none h.2]
  rfl

theorem mentions_dotted {r c : String} (hr : '.' ∉ r.toList) (hc : '.' ∉ c.toList) :
    mentions row false ((r ++ "." ++ c) :: rest) =
      (if r = row then [c] else []) ++ mentions row false rest := by
  obtain ⟨hfrom, hwhere⟩ := not_or.mp (not_isClause_of_dotted r c)
  rw [mentions, if_neg hfrom, if_neg hwhere, if_neg Bool.false_ne_true, dotted?_append hr hc]
  split <;> simp [Option.filter, *]

/-- Empty words are of no matter. -/
theorem mentions_filter (row : String) (tables : Bool) (ws rest : List String) :
    mentions row tables (ws.filter (· ≠ "") ++ rest) = mentions row tables (ws ++ rest) := by
  induction ws generalizing tables with
  | nil => rfl
  | cons w ws ih =>
      by_cases hempty : w = ""
      · subst hempty
        cases tables with
        | true => rw [List.cons_append, mentions_table (by decide), ← ih]; rfl
        | false => rw [List.cons_append, mentions_other (by decide), ← ih]; rfl
      · rw [List.filter_cons_of_pos (by simpa using hempty), List.cons_append, List.cons_append,
          mentions, mentions]
        simp only [ih]

end Mentions

end Sql

end EntityFilter
