import EntityFilter.Proofs.Query.Clauses
import EntityFilter.Proofs.Query.Projection

/-!
# What comparisons compare with

The conditions of a filter are written as `CASE` expressions, with a branch for each kind of value.
`Sql.caseOperands` reads off from the words of a text what the branches compare with: the words
behind a column and a sign, up to the next branch or the end.  Texts stand between quotes and are no
words.

**A filter compares with what it says** (`Expr.says_numbered`): each branch of a condition has the
words of its values, a number as it was written and a reference as its number (`Literal.operands`),
and a filter has no other branches.
-/

namespace EntityFilter

open Sql (Piece Item Part)
open Sql.Piece (code literal identifier)

/-! ### Reading operands -/

namespace Sql

/-- The words that the branches of `CASE` expressions compare with. -/
def caseOperands : List String → List (List String)
  | []        => []
  | w :: rest =>
    if w = "THEN" then
      ((rest.drop 2).takeWhile fun v => v != "WHEN" && v != "END") :: caseOperands rest
    else caseOperands rest

example : caseOperands ["a", "AND", "CASE", "WHEN", "b", "THEN", "c", "IN", "1", "2", "WHEN", "d",
    "THEN", "e", "<", "3", "END"] = [["1", "2"], ["3"]] := by decide

theorem caseOperands_append {ws : List String} (h : "THEN" ∉ ws) (rest : List String) :
    caseOperands (ws ++ rest) = caseOperands rest := by
  induction ws with
  | nil => rfl
  | cons w ws ih =>
      rw [List.mem_cons, not_or] at h
      rw [List.cons_append, caseOperands, if_neg (Ne.symm h.1), ih h.2]

/-- The word separates the operands of branches. -/
def IsCaseWord (w : String) : Prop :=
  w = "WHEN" ∨ w = "THEN" ∨ w = "END"

instance (w : String) : Decidable (IsCaseWord w) :=
  inferInstanceAs (Decidable (_ ∨ _ ∨ _))

theorem caseOperands_branch {front operands : List String} {column sign w : String}
    (hfront : "THEN" ∉ front) (hcolumn : column ≠ "THEN") (hsign : sign ≠ "THEN")
    (hoperands : ∀ v ∈ operands, ¬ IsCaseWord v) (hw : w = "WHEN" ∨ w = "END")
    (rest : List String) :
    caseOperands (front ++ "THEN" :: column :: sign :: (operands ++ w :: rest)) =
      operands :: caseOperands (w :: rest) := by
  have htake : (operands ++ w :: rest).takeWhile (fun v => v != "WHEN" && v != "END") =
      operands := by
    rw [List.takeWhile_append_of_pos, List.takeWhile_cons_of_neg, List.append_nil]
    · rcases hw with rfl | rfl <;> simp
    · intro v hv
      have hword := hoperands v hv
      simp only [IsCaseWord, not_or] at hword
      simp [hword.1, hword.2.2]
  have hquiet : "THEN" ∉ column :: sign :: operands := by
    simp only [List.mem_cons, not_or]
    exact ⟨Ne.symm hcolumn, Ne.symm hsign, fun hmem => hoperands _ hmem (.inr (.inl rfl))⟩
  have hlater : caseOperands (column :: sign :: (operands ++ w :: rest)) =
      caseOperands (w :: rest) := caseOperands_append hquiet (w :: rest)
  rw [caseOperands_append hfront, caseOperands, if_pos rfl, hlater]
  exact congrArg (· :: caseOperands (w :: rest)) htake

/-! ### Words -/

/-- The character that stands for an item where commas are no words either. -/
def Item.wordChar (i : Item) : Char :=
  if i.flat = ',' then ' ' else i.flat

/-- The words of a text without quotes and parentheses, which goes on with the characters
`word`. -/
def wordsFrom (word cs : List Char) : List String :=
  ((Part.ofChars word cs).1 ++ Part.ofWord (Part.ofChars word cs).2).filterMap Part.word?

/-- The words of a text without quotes and parentheses. -/
abbrev wordsOf (cs : List Char) : List String :=
  wordsFrom [] cs

/-- Blanks and commas end words. -/
theorem wordsFrom_gap {c : Char} (h : c = ',' ∨ c.isWhitespace) (word cs : List Char) :
    wordsFrom word (c :: cs) = (Part.ofWord word).filterMap Part.word? ++ wordsOf cs := by
  by_cases hc : c = ','
  · have hcomma : Part.word? .comma = none := rfl
    rw [wordsFrom, Part.ofChars, if_pos hc, List.append_assoc, List.filterMap_append,
      List.cons_append, List.filterMap_cons_none hcomma]
    rfl
  · rw [wordsFrom, Part.ofChars, if_neg hc, if_pos (h.resolve_left hc), List.append_assoc,
      List.filterMap_append]
    rfl

theorem wordsFrom_other {c : Char} (h : ¬ (c = ',' ∨ c.isWhitespace)) (word cs : List Char) :
    wordsFrom word (c :: cs) = wordsFrom (word ++ [c]) cs := by
  obtain ⟨hc, hblank⟩ := not_or.mp h
  rw [wordsFrom, Part.ofChars, if_neg hc, if_neg hblank]
  rfl

theorem wordsFrom_append_blank (word cs ds : List Char) :
    wordsFrom word (cs ++ ' ' :: ds) = wordsFrom word cs ++ wordsOf ds := by
  induction cs generalizing word with
  | nil => exact wordsFrom_gap (.inr rfl) word ds
  | cons c cs ih =>
      rw [List.cons_append]
      by_cases hgap : c = ',' ∨ c.isWhitespace
      · rw [wordsFrom_gap hgap, wordsFrom_gap hgap, wordsOf, ih, List.append_assoc]
      · rw [wordsFrom_other hgap, wordsFrom_other hgap, ih]

@[simp] theorem wordsOf_append_blank (cs ds : List Char) :
    wordsOf (cs ++ ' ' :: ds) = wordsOf cs ++ wordsOf ds :=
  wordsFrom_append_blank [] cs ds

@[simp] theorem wordsOf_cons_blank (cs : List Char) : wordsOf (' ' :: cs) = wordsOf cs := rfl

@[simp] theorem wordsOf_nil : wordsOf [] = [] := rfl

theorem wordsOf_spaced_append {ws : List String} (h : ∀ w ∈ ws, Solid w.toList) (cs : List Char) :
    wordsOf (spaced ws ++ cs) = ws.filter (· ≠ "") ++ wordsOf cs := by
  rw [wordsOf, wordsFrom, Part.ofChars_spaced h]
  simp [wordsFrom, Function.comp_def]

theorem wordsOf_word {w : String} (hne : w ≠ "") (h : Solid w.toList) : wordsOf w.toList = [w] := by
  have hwords : ∀ v ∈ [w], Solid v.toList := by simpa using h
  simpa [spaced, hne] using wordsOf_spaced_append hwords []

/-- Some in a row, each behind a blank. -/
theorem wordsOf_flatMap {α : Type} (f : α → List Char) (cs : List Char) (as : List α) :
    wordsOf (cs ++ as.flatMap fun a => ' ' :: f a) =
      wordsOf cs ++ as.flatMap fun a => wordsOf (f a) := by
  induction as generalizing cs with
  | nil => simp
  | cons a as ih => simpa using ih (cs ++ ' ' :: f a)

/-- The characters of pieces where only words are read. -/
def chars (ps : List Piece) : List Char :=
  (items ['\''] ps).map Item.wordChar

/-- The character that stands for one of the code. -/
def codeChar (c : Char) : Char :=
  Item.wordChar (.char c)

theorem chars_append (ps qs : List Piece) : chars (ps ++ qs) = chars ps ++ chars qs := by
  rw [chars, items_append, List.map_append]
  rfl

theorem chars_flatMap {α : Type} (f : α → List Piece) (as : List α) :
    chars (as.flatMap f) = as.flatMap fun a => chars (f a) := by
  induction as with
  | nil => rfl
  | cons a as ih => rw [List.flatMap_cons, List.flatMap_cons, chars_append, ih]

theorem chars_code_cons (t : String) (ps : List Piece) :
    chars (code t :: ps) = t.toList.map codeChar ++ chars ps := by
  rw [chars, items_code_cons, List.map_append, List.map_map]
  rfl

theorem chars_literal_cons (t : String) (ps : List Piece) :
    chars (literal t :: ps) = ' ' :: chars ps := rfl

theorem chars_nil : chars [] = [] := rfl

theorem map_codeChar {w : String} (h : Plain w) : w.toList.map codeChar = w.toList := by
  obtain ⟨hunmarked, hsolid⟩ := h
  rw [Unmarked, List.filter_eq_nil_iff] at hunmarked
  refine (List.map_congr_left fun c hc => ?_).trans (List.map_id _)
  obtain ⟨hopen, hclose⟩ := ne_of_isMark_eq_false (by simpa using hunmarked c hc)
  simp [codeChar, Item.wordChar, Item.flat, hopen, hclose, (hsolid c hc).1]

theorem wordsOf_code {w : String} (hne : w ≠ "") (h : Plain w) :
    wordsOf (chars [.code w]) = [w] := by
  rw [chars_code_cons, chars_nil, List.append_nil, map_codeChar h]
  exact wordsOf_word hne h.2

end Sql

open Sql (chars wordsOf caseOperands)

/-! ### Values -/

/-- The words that stand in SQL for a literal, if it does not stand between quotes. -/
def Literal.operands : Literal → List String
  | .number text => [text]
  | .ref id      => [toString id]
  | .bool value  => [toString value]
  | _            => []

/-- The values that a condition compares with. -/
def Condition.values : Condition → List Literal
  | .compare _ value => [value]
  | .member values   => values

/-- Their words. -/
def Condition.operands (c : Condition) : List String :=
  c.values.flatMap Literal.operands

/-- The sign between a column and the values. -/
def Condition.sign : Condition → String
  | .compare op _ => op.sql
  | .member _     => "IN"

theorem Text.integer_eq_toString (n : Int) : Text.integer n = toString n := by
  cases n <;> rfl

/-- No character of such a text stands in a word that separates operands. -/
theorem Sql.not_isCaseWord {w : String} {p : Char → Bool} (h : ∀ c ∈ w.toList, p c)
    (hp : p 'E' = false) : ¬ Sql.IsCaseWord w := by
  have hE : 'E' ∉ w.toList := fun hmem => by
    rw [h 'E' hmem] at hp
    cases hp
  rintro (rfl | rfl | rfl) <;> exact hE (by decide)

theorem Literal.wordsOf_sql {value : Literal} (h : value.WellFormed) :
    wordsOf (chars value.toSql.sql) = value.operands := by
  cases value with
  | number t =>
      exact Sql.wordsOf_code h.1
        ⟨Sql.unmarked_of_all h.2 (by decide), Sql.solid_of_all h.2 (by decide)⟩
  | ref id =>
      have hplain : Sql.Plain (Text.integer id) := ⟨Sql.unmarked_integer id,
        Sql.solid_of_all (p := fun c => c.isDigit || c == '-') (Sql.char_integer id) (by decide)⟩
      rw [operands, ← Text.integer_eq_toString]
      exact Sql.wordsOf_code (Text.integer_ne_empty id) hplain
  | bool b => cases b <;> exact Sql.wordsOf_code (by decide) ⟨by decide, by decide⟩
  | str t | uri t | dateTime t | date d | time t => rfl

theorem Literal.not_isCaseWord {value : Literal} (h : value.WellFormed) :
    ∀ w ∈ value.operands, ¬ Sql.IsCaseWord w := by
  intro w hw
  cases value with
  | number t =>
      obtain rfl := List.mem_singleton.mp hw
      exact Sql.not_isCaseWord h.2 (by decide)
  | ref id =>
      rw [operands, ← Text.integer_eq_toString] at hw
      obtain rfl := List.mem_singleton.mp hw
      exact Sql.not_isCaseWord (p := fun c => c.isDigit || c == '-') (Sql.char_integer id)
        (by decide)
  | bool b =>
      obtain rfl := List.mem_singleton.mp hw
      cases b <;> decide
  | str t | uri t | dateTime t | date d | time t => cases hw

theorem Condition.wellFormed_of_mem_values {c : Condition} (h : c.WellFormed) :
    ∀ v ∈ c.values, v.WellFormed := by
  cases c with
  | compare op value =>
      intro v hv
      obtain rfl := List.mem_singleton.mp hv
      exact h
  | member values => exact h.2.1

theorem Condition.not_isCaseWord {c : Condition} (h : c.WellFormed) :
    ∀ w ∈ c.operands, ¬ Sql.IsCaseWord w := by
  intro w hw
  obtain ⟨v, hv, hw⟩ := List.mem_flatMap.mp hw
  exact Literal.not_isCaseWord (wellFormed_of_mem_values h v hv) w hw

/-! ### Conditions -/

theorem Literal.wordsOf_between {values : List Literal} (h : ∀ v ∈ values, v.WellFormed) :
    wordsOf (chars (Sql.between [code ", "] (values.map fun v => v.toSql.sql))) =
      values.flatMap Literal.operands := by
  induction values with
  | nil => rfl
  | cons v values ih =>
      obtain ⟨hv, hvalues⟩ := List.forall_mem_cons.mp h
      cases values with
      | nil => simpa [Sql.between] using wordsOf_sql hv
      | cons next values =>
          have hcomma : ∀ ps, chars (code ", " :: ps) = ' ' :: ' ' :: chars ps := fun _ => rfl
          have hrest := ih hvalues
          simp only [List.map_cons] at hrest
          simp [Sql.between, Sql.chars_append, hcomma, wordsOf_sql hv, hrest]

theorem Condition.wordsOf_test {c : Condition} (h : c.WellFormed) :
    wordsOf (chars c.test.sql) = c.sign :: c.operands := by
  cases c with
  | compare op value =>
      have hchars : chars ((compare op value).test.sql) =
          op.sql.toList ++ ' ' :: chars value.toSql.sql := by
        cases op <;> rfl
      have hsign : wordsOf op.sql.toList = [op.sql] := by
        cases op <;> exact Sql.wordsOf_word (by decide) (by decide)
      rw [hchars, Sql.wordsOf_append_blank, hsign, Literal.wordsOf_sql h]
      simp [sign, operands, values]
  | member values =>
      have hchars : chars ((member values).test.sql) = "IN".toList ++ ' ' :: ' ' ::
          (chars (Sql.between [code ", "] (values.map fun v => v.toSql.sql)) ++ ' ' :: []) := by
        simp only [test, Test.sql, Sql.chars_append, List.map_map]
        rfl
      have hin : wordsOf "IN".toList = ["IN"] := Sql.wordsOf_word (by decide) (by decide)
      rw [hchars, Sql.wordsOf_append_blank, hin, Sql.wordsOf_cons_blank, Sql.wordsOf_append_blank,
        Literal.wordsOf_between h.2.1, Sql.wordsOf_nil, List.append_nil]
      rfl

/-! ### Words around conditions -/

namespace Sql

/-- Characters with the schema for `$` and an alias for `#`, in front of others. -/
def fill (schema : String) (n : Nat) (pattern rest : List Char) : List Char :=
  pattern.foldr (fun c later =>
    if c = '$' then schema.toList ++ later
    else if c = '#' then (Text.natural n).toList ++ later
    else c :: later) rest

/-- A word that is filled. -/
def filled (schema : String) (n : Nat) (word : String) : String :=
  String.ofList (fill schema n word.toList [])

/-- Words that are filled, with a blank behind each, in front of other characters. -/
def stencil (schema : String) (n : Nat) (words : List String) (rest : List Char) : List Char :=
  fill schema n (spaced words) rest

/-- However the word is filled, it is one word and not `THEN`. -/
def isQuiet (word : String) : Bool :=
  word.toList.all (fun c => c != ',' && !c.isWhitespace) &&
    (word.toList.isEmpty || word.toList.any fun c => !"THEN$#".toList.contains c)

section Patterns

variable {schema : String}

theorem fill_append (schema : String) (n : Nat) (p q rest : List Char) :
    fill schema n (p ++ q) rest = fill schema n p (fill schema n q rest) :=
  List.foldr_append

/-- What is written for one character. -/
theorem fill_singleton (schema : String) (n : Nat) (c : Char) (rest : List Char) :
    fill schema n [c] rest = fill schema n [c] [] ++ rest := by
  simp only [fill, List.foldr_cons, List.foldr_nil]
  split
  · rw [List.append_nil]
  · split
    · rw [List.append_nil]
    · rfl

theorem fill_eq_append (schema : String) (n : Nat) (pattern rest : List Char) :
    fill schema n pattern rest = fill schema n pattern [] ++ rest := by
  induction pattern with
  | nil => rfl
  | cons c pattern ih =>
      have hsplit := fill_append schema n [c] pattern
      rw [List.singleton_append] at hsplit
      rw [hsplit, hsplit, ih, fill_singleton, fill_singleton _ _ _ (fill schema n pattern []),
        List.append_assoc]

theorem mem_fill {n : Nat} {c : Char} {pattern : List Char} :
    c ∈ fill schema n pattern [] ↔ ∃ d ∈ pattern, c ∈ fill schema n [d] [] := by
  induction pattern with
  | nil => simp [fill]
  | cons d pattern ih =>
      have hsplit := fill_append schema n [d] pattern []
      rw [List.singleton_append] at hsplit
      rw [hsplit, fill_singleton, List.mem_append, ih]
      simp

theorem stencil_eq_spaced (schema : String) (n : Nat) (words : List String) (rest : List Char) :
    stencil schema n words rest = spaced (words.map (filled schema n)) ++ rest := by
  induction words with
  | nil => rfl
  | cons w words ih =>
      have hcons : stencil schema n (w :: words) rest =
          fill schema n w.toList (' ' :: stencil schema n words rest) := by
        simp only [stencil, spaced, List.flatMap_cons, fill_append]
        rfl
      rw [hcons, fill_eq_append, ih]
      simp [spaced, filled]

theorem solid_filled {word : String} (h : isQuiet word) (hschema : Solid schema.toList) (n : Nat) :
    Solid (filled schema n word).toList := by
  rw [isQuiet, Bool.and_eq_true, List.all_eq_true] at h
  intro c hc
  rw [filled, String.toList_ofList, mem_fill] at hc
  obtain ⟨d, hd, hc⟩ := hc
  simp only [fill, List.foldr_cons, List.foldr_nil, List.append_nil] at hc
  split at hc
  · exact hschema c hc
  · split at hc
    · exact (plain_natural n).2 c hc
    · rw [List.mem_singleton.mp hc]
      simpa using h.1 d hd

theorem filled_ne {word : String} (h : isQuiet word) (schema : String) (n : Nat) :
    filled schema n word ≠ "THEN" := by
  intro hthen
  have hchars : fill schema n word.toList [] = "THEN".toList := by
    rw [← hthen, filled, String.toList_ofList]
  simp only [isQuiet, Bool.and_eq_true, Bool.or_eq_true, List.isEmpty_iff, List.any_eq_true] at h
  rcases h.2 with hempty | ⟨c, hc, hother⟩
  · rw [hempty] at hchars
    cases hchars
  · -- the character is no hole, so it stands in what is filled
    have hne : c ≠ 'T' ∧ c ≠ 'H' ∧ c ≠ 'E' ∧ c ≠ 'N' ∧ c ≠ '$' ∧ c ≠ '#' := by
      simpa using hother
    have hmem : c ∈ fill schema n word.toList [] := mem_fill.mpr ⟨c, hc, by simp [fill, hne]⟩
    rw [hchars] at hmem
    simp [hne] at hmem

theorem wordsOf_stencil {words : List String} (hwords : words.all isQuiet)
    (hschema : Solid schema.toList) (n : Nat) (cs : List Char) :
    wordsOf (stencil schema n words cs) =
      (words.map (filled schema n)).filter (· ≠ "") ++ wordsOf cs := by
  have hsolid : ∀ v ∈ words.map (filled schema n), Solid v.toList := by
    rw [List.forall_mem_map]
    exact fun w hw => solid_filled (List.all_eq_true.mp hwords w hw) hschema n
  rw [stencil_eq_spaced, wordsOf_spaced_append hsolid]

theorem notMem_filled {words : List String} (h : words.all isQuiet) (schema : String) (n : Nat) :
    "THEN" ∉ (words.map (filled schema n)).filter (· ≠ "") := by
  intro hmem
  obtain ⟨w, hw, hthen⟩ := List.mem_map.mp (List.mem_of_mem_filter hmem)
  exact filled_ne (List.all_eq_true.mp h w hw) schema n hthen

end Patterns

/-- The branches of the `CASE` expressions among the words compare with these. -/
def Says (ws : List String) (operands : List (List String)) : Prop :=
  ∀ rest, caseOperands (ws ++ rest) = operands ++ caseOperands rest

namespace Says

variable {schema : String} {ws vs : List String} {xs ys : List (List String)}

theorem quiet (h : "THEN" ∉ ws) : Says ws [] :=
  caseOperands_append h

theorem append (h₁ : Says ws xs) (h₂ : Says vs ys) : Says (ws ++ vs) (xs ++ ys) := by
  intro rest
  rw [List.append_assoc, h₁, h₂, List.append_assoc]

theorem stencil {words : List String} {cs : List Char} (hwords : words.all isQuiet)
    (hschema : Solid schema.toList) (n : Nat) (h : Says (wordsOf cs) xs) :
    Says (wordsOf (stencil schema n words cs)) xs := by
  rw [wordsOf_stencil hwords hschema]
  exact (quiet (notMem_filled hwords schema n)).append h

end Says

end Sql

open Sql (Says stencil filled)

/-! ### Branches -/

/-- The words that ask for the markers of a kind. -/
def ValueKind.markerWords (kind : ValueKind) : List String :=
  let marker := ["hq#.parent_id", "LIKE", "", ""]
  match kind with
  | temporal => "WHEN" :: (marker ++ "OR" :: (marker ++ "OR" :: marker))
  | _        => "WHEN" :: marker

/-- The column of a kind. -/
def ValueKind.columnWord : ValueKind → String
  | number   => "et#.value_n"
  | ref      => "et#.value_ref"
  | bool     => "et#.value_b"
  | str      => "et#.value_s"
  | temporal => "et#.value_ts"

theorem ValueKind.isQuiet_columnWord (kind : ValueKind) : Sql.isQuiet kind.columnWord := by
  cases kind <;> decide

theorem ValueKind.isQuiet_markerWords (kind : ValueKind) : kind.markerWords.all Sql.isQuiet := by
  cases kind <;> decide

/-- The characters of a branch behind a blank. -/
def Condition.branchChars (c : Condition) (n : Nat) (kind : ValueKind) : List Char :=
  stencil "" n kind.markerWords ("THEN".toList ++ ' ' ::
    stencil "" n [kind.columnWord] (chars c.test.sql))

set_option maxRecDepth 2000 in
theorem Condition.chars_branch (c : Condition) (n : Nat) (kind : ValueKind) :
    chars ((c.dispatch n).branch kind) = ' ' :: c.branchChars n kind := by
  have hn := Sql.map_codeChar (Sql.plain_natural n)
  cases kind <;>
  · simp only [Dispatch.branch, dispatch, ValueKind.markers, branchChars, ValueKind.columnWord,
      ValueKind.column, List.map_cons, List.map_nil, Sql.between,
      Sql.chars_code_cons, Sql.chars_literal_cons, toString, String.toList_append, List.map_append,
      hn, List.cons_append, List.nil_append, List.append_assoc]
    rfl

/-- The words of a branch. -/
def Condition.branchWords (c : Condition) (n : Nat) (kind : ValueKind) : List String :=
  (kind.markerWords.map (filled "" n)).filter (· ≠ "") ++
    "THEN" :: filled "" n kind.columnWord :: c.sign :: c.operands

theorem Condition.wordsOf_branch {c : Condition} (h : c.WellFormed) (n : Nat) (kind : ValueKind) :
    wordsOf (c.branchChars n kind) = c.branchWords n kind := by
  have hempty : Sql.Solid "".toList := by decide
  have hthen : wordsOf "THEN".toList = ["THEN"] := Sql.wordsOf_word (by decide) (by decide)
  have hfilled : filled "" n kind.columnWord ≠ "" := by
    cases kind <;> simp [filled, Sql.fill, ValueKind.columnWord]
  have hcolumn : [kind.columnWord].all Sql.isQuiet := by simpa using kind.isQuiet_columnWord
  rw [branchChars, Sql.wordsOf_stencil kind.isQuiet_markerWords hempty, Sql.wordsOf_append_blank,
    hthen, Sql.wordsOf_stencil hcolumn hempty, wordsOf_test h]
  simp [branchWords, hfilled]

/-- **Each branch of a condition has the operands of the condition.** -/
theorem Condition.caseOperands_branches {c : Condition} (h : c.WellFormed) (n : Nat)
    (kinds : List ValueKind) (rest : List String) :
    caseOperands (kinds.flatMap (c.branchWords n) ++ "END" :: rest) =
      (kinds.map fun _ => c.operands) ++ caseOperands rest := by
  have hsign : c.sign ≠ "THEN" := by
    cases c with
    | compare op _ => cases op <;> simp [sign, Comparison.sql]
    | member _ => simp [sign]
  induction kinds with
  | nil => rfl
  | cons kind kinds ih =>
      -- behind the operands stands the next branch or the end
      obtain ⟨w, later, hnext, hw⟩ : ∃ w later, kinds.flatMap (c.branchWords n) ++ "END" :: rest =
          w :: later ∧ (w = "WHEN" ∨ w = "END") := by
        cases kinds with
        | nil => exact ⟨"END", rest, rfl, .inr rfl⟩
        | cons next kinds => cases next <;> exact ⟨"WHEN", _, rfl, .inl rfl⟩
      have hbranch := Sql.caseOperands_branch (Sql.notMem_filled kind.isQuiet_markerWords "" n)
        (Sql.filled_ne kind.isQuiet_columnWord "" n) hsign (not_isCaseWord h) hw later
      rw [← hnext, ih] at hbranch
      simpa [branchWords] using hbranch

theorem Condition.says_dispatch {c : Condition} (h : c.WellFormed) (n : Nat) :
    Says (wordsOf (chars (c.dispatch n).sql)) (c.kinds.map fun _ => c.operands) := by
  have hcase : wordsOf "CASE".toList = ["CASE"] := Sql.wordsOf_word (by decide) (by decide)
  have hend : wordsOf "END".toList = ["END"] := Sql.wordsOf_word (by decide) (by decide)
  have hchars : chars (c.dispatch n).sql = "CASE".toList ++ (c.kinds.flatMap fun kind =>
      ' ' :: c.branchChars n kind) ++ ' ' :: "END".toList := by
    simp only [Dispatch.sql, Sql.chars_append, Sql.chars_flatMap, ← chars_branch]
    rfl
  intro rest
  have hoperands := caseOperands_branches h n c.kinds rest
  rw [hchars, Sql.wordsOf_append_blank, Sql.wordsOf_flatMap, hcase, hend]
  simpa [wordsOf_branch h, caseOperands] using hoperands

/-! ### Selections and filters -/

/-- The words that select the entities that have a tag. -/
def tagWords : List String :=
  ["SELECT", "entity_id", "FROM", "$.entity_tag", "et#", "", "$.tag_def", "td#", "WHERE",
    "et#.tag_id", "=", "td#.id", "AND", "td#.name", "=", ""]

/-- The words between a tag and the selection of the entities that it refers to. -/
def linkWords : List String :=
  ["AND", "et#.value_ref", "IN", ""]

/-- The words that look the ancestors of a tag up. -/
def KindSource.lookupWords : KindSource → List String
  | hierarchy =>
    ["", "SELECT", "", "", "||", "string_agg", "td#.name", "", "", "", "", "||", "", "", "AS",
      "parent_id", "FROM", "hier_query#", "", "$.tag_def", "td#", "WHERE", "td#.id", "=",
      "hier_query#.parent_id", "", "hq#"]
  | parentsView =>
    ["", "SELECT", "max", "tdp#.parent_ids", "", "AS", "parent_id", "FROM", "$.tag_def_parents",
      "tdp#", "", "$.tag_def", "td#", "WHERE", "tdp#.tag_id", "=", "td#.id", "AND", "td#.name",
      "=", "", "", "", "hq#"]

/-- The words in front of the lookup for a tag at the end of a path. -/
def valuedWords : List String :=
  ["SELECT", "et#.entity_id", "FROM", "$.entity_tag", "et#", ""]

/-- The words between the lookup and the condition. -/
def namedWords : List String :=
  ["", "$.tag_def", "td#", "WHERE", "et#.tag_id", "=", "td#.id", "AND", "td#.name", "=", "", "",
   "AND"]

/-- The words in front of the condition on the value of an entity's own tag. -/
def rowWords : List String :=
  ["EXISTS", "", "SELECT", "1", "FROM", "$.entity_tag", "et#", "", "$.tag_def", "td#", "WHERE",
    "et#.entity_id", "=", "e.id", "AND", "et#.tag_id", "=", "td#.id", "AND", "td#.name", "=", "",
    "", "AND"]

section Filters

variable {schema : String}

set_option maxRecDepth 2000 in
theorem chars_tagRows (hschema : Sql.isIdentifier schema) (n : Nat) (tag : String) :
    chars (Sql.tagRows schema n tag) = stencil schema n tagWords [] := by
  have hn := Sql.map_codeChar (Sql.plain_natural n)
  have hs := Sql.map_codeChar (Sql.plain_of_isIdentifier hschema)
  simp only [Sql.tagRows, Sql.table, Sql.chars_append, Sql.chars_code_cons,
    Sql.chars_literal_cons, Sql.chars_nil, toString, String.toList_append, List.map_append, hn, hs,
    List.append_assoc]
  rfl

set_option maxRecDepth 2000 in
theorem chars_lookup (hschema : Sql.isIdentifier schema) (l : Lookup) (rest : List Char) :
    chars (l.sql schema) ++ ' ' :: rest = stencil schema l.mention l.source.lookupWords rest := by
  obtain ⟨n, tag, source⟩ := l
  have hn := Sql.map_codeChar (Sql.plain_natural n)
  have hs := Sql.map_codeChar (Sql.plain_of_isIdentifier hschema)
  cases source <;>
  · simp only [Lookup.sql, Sql.table, Sql.chars_code_cons, Sql.chars_literal_cons, Sql.chars_nil,
      toString, String.toList_append, List.map_append, hn, hs,
      List.cons_append, List.nil_append, List.append_assoc]
    rfl

set_option maxRecDepth 2000 in
theorem chars_valued (hschema : Sql.isIdentifier schema) (n : Nat) (tag : String)
    (source : KindSource) (d : Dispatch) :
    chars ((RowSource.valued tag ⟨n, tag, source⟩ d).sql schema) =
      stencil schema n valuedWords (stencil schema n source.lookupWords (stencil schema n namedWords
        (chars d.sql ++ ' ' :: stencil schema n ["GROUP", "BY"]
          ("et" ++ Text.natural n ++ ".entity_id").toList))) := by
  have hn := Sql.map_codeChar (Sql.plain_natural n)
  have hs := Sql.map_codeChar (Sql.plain_of_isIdentifier hschema)
  have hlookup := chars_lookup hschema ⟨n, tag, source⟩
  rw [← hlookup]
  simp only [RowSource.sql, Sql.table, Sql.chars_append, Sql.chars_code_cons,
    Sql.chars_literal_cons, Sql.chars_nil, toString, String.toList_append, List.map_append, hn, hs,
    List.cons_append, List.nil_append, List.append_assoc]
  rfl

set_option maxRecDepth 2000 in
theorem chars_rowPasses (hschema : Sql.isIdentifier schema) (n : Nat) (tag : String)
    (d : Dispatch) :
    chars ((Predicate.rowPasses n tag d).sql schema) =
      stencil schema n rowWords (chars d.sql ++ [' ']) := by
  have hn := Sql.map_codeChar (Sql.plain_natural n)
  have hs := Sql.map_codeChar (Sql.plain_of_isIdentifier hschema)
  simp only [Predicate.sql, Sql.table, Sql.chars_append, Sql.chars_code_cons,
    Sql.chars_literal_cons, Sql.chars_nil, toString, String.toList_append, List.map_append, hn, hs,
    List.append_assoc]
  rfl

theorem RowSource.says_tagged (hschema : Sql.isIdentifier schema) (n : Nat) (tag : String) :
    Says (wordsOf (chars ((tagged n tag).sql schema))) [] := by
  rw [RowSource.sql, chars_tagRows hschema]
  exact .stencil (by decide) (Sql.solid_of_isIdentifier hschema) n (fun _ => rfl)

theorem RowSource.says_valued (hschema : Sql.isIdentifier schema) {c : Condition}
    (h : c.WellFormed) (n : Nat) (tag : String) (source : KindSource) :
    Says (wordsOf (chars ((valued tag ⟨n, tag, source⟩ (c.dispatch n)).sql schema)))
      (c.kinds.map fun _ => c.operands) := by
  have hsolid := Sql.solid_of_isIdentifier hschema
  have hlookup : source.lookupWords.all Sql.isQuiet := by cases source <;> decide
  have hlast : Says (wordsOf ("et" ++ Text.natural n ++ ".entity_id").toList) [] := by
    have hword : Sql.Solid ("et" ++ Text.natural n ++ ".entity_id").toList := by
      rw [String.toList_append, String.toList_append]
      exact (Sql.Solid.append (by decide) (Sql.plain_natural n).2).append (by decide)
    rw [Sql.wordsOf_word (by simp) hword]
    refine .quiet fun hmem => ?_
    have hchars := congrArg String.toList (List.mem_singleton.mp hmem)
    simp at hchars
  rw [chars_valued hschema]
  refine .stencil (by decide) hsolid n (.stencil hlookup hsolid n
    (.stencil (by decide) hsolid n ?_))
  rw [Sql.wordsOf_append_blank, ← List.append_nil (List.map _ _)]
  exact (Condition.says_dispatch h n).append (.stencil (by decide) hsolid n hlast)

theorem RowSource.says_linked (hschema : Sql.isIdentifier schema) {inner : RowSource}
    {xs : List (List String)} (h : Says (wordsOf (chars (inner.sql schema))) xs) (n : Nat)
    (tag : String) : Says (wordsOf (chars ((linked n tag inner).sql schema))) xs := by
  have hsolid := Sql.solid_of_isIdentifier hschema
  have hn := Sql.map_codeChar (Sql.plain_natural n)
  have hchars : chars ((linked n tag inner).sql schema) = stencil schema n tagWords [] ++ ' ' ::
      stencil schema n linkWords (chars (inner.sql schema) ++ [' ']) := by
    rw [← chars_tagRows hschema n tag]
    simp only [RowSource.sql, Sql.chars_append, Sql.chars_code_cons, Sql.chars_nil, toString,
      String.toList_append, List.map_append, hn, List.append_assoc]
    rfl
  rw [hchars, Sql.wordsOf_append_blank, ← chars_tagRows hschema n tag, ← List.nil_append xs]
  refine (says_tagged hschema n tag).append (.stencil (by decide) hsolid n ?_)
  simpa using h

theorem RowSource.says_behind (hschema : Sql.isIdentifier schema) {inner : RowSource}
    {xs : List (List String)} (h : Says (wordsOf (chars (inner.sql schema))) xs) (first : Nat)
    (tags : List String) : Says (wordsOf (chars ((inner.behind first tags).sql schema))) xs := by
  induction tags generalizing inner first with
  | nil => exact h
  | cons tag tags ih =>
      rw [behind]
      exact ih (says_linked hschema h first tag) (first + 1)

theorem Predicate.says_entityIn {source : RowSource} {xs : List (List String)}
    (h : Says (wordsOf (chars (source.sql schema))) xs) :
    Says (wordsOf (chars ((entityIn source).sql schema))) xs := by
  have hchars : chars ((entityIn source).sql schema) =
      stencil "" 0 ["e.id", "IN", ""] (chars (source.sql schema) ++ [' ']) := by
    rw [Predicate.sql, Sql.chars_append, Sql.chars_append]
    rfl
  rw [hchars]
  refine .stencil (by decide) (by decide) 0 ?_
  simpa using h

theorem Predicate.says_rowPasses (hschema : Sql.isIdentifier schema) {c : Condition}
    (h : c.WellFormed) (n : Nat) (tag : String) :
    Says (wordsOf (chars ((rowPasses n tag (c.dispatch n)).sql schema)))
      (c.kinds.map fun _ => c.operands) := by
  rw [chars_rowPasses hschema]
  refine .stencil (by decide) (Sql.solid_of_isIdentifier hschema) n ?_
  simpa using Condition.says_dispatch h n

theorem Predicate.wordsOf_grouped (group : Bool) (ps : List Piece) :
    wordsOf (chars (grouped group ps)) = wordsOf (chars ps) := by
  rw [grouped]
  split
  · have hchars : chars ([code "("] ++ ps ++ [code ")"]) = ' ' :: (chars ps ++ [' ']) := by
      rw [Sql.chars_append, Sql.chars_append]
      rfl
    rw [hchars]
    simp
  · rfl

theorem Predicate.says_joined {first rest : List Piece} {xs ys : List (List String)} {sign : String}
    (hsign : sign = " OR " ∨ sign = " AND ") (h₁ : Says (wordsOf (chars first)) xs)
    (h₂ : Says (wordsOf (chars rest)) ys) :
    Says (wordsOf (chars (first ++ [code sign] ++ rest))) (xs ++ ys) := by
  obtain ⟨w, hw, hchars⟩ : ∃ w, [w].all Sql.isQuiet ∧
      chars (first ++ [code sign] ++ rest) =
        chars first ++ ' ' :: stencil "" 0 [w] (chars rest) := by
    rw [Sql.chars_append, Sql.chars_append, List.append_assoc]
    rcases hsign with rfl | rfl
    · exact ⟨"OR", by decide, rfl⟩
    · exact ⟨"AND", by decide, rfl⟩
  rw [hchars, Sql.wordsOf_append_blank]
  exact h₁.append (.stencil hw (by decide) 0 h₂)

/-- What the branches compare with that a mention of a tag is written with. -/
def Reference.operands (r : Reference) : List (List String) :=
  match r.condition with
  | none   => []
  | some c => c.kinds.map fun _ => c.operands

theorem Reference.says_numbered (hschema : Sql.isIdentifier schema) {options : CompileOptions}
    {r : Reference} (h : r.WellFormed) (k : Nat) :
    Says (wordsOf (chars ((r.numbered options k).sql schema))) r.operands := by
  obtain ⟨path, condition⟩ := r
  by_cases hchain : path.isChain
  · rw [numbered, if_pos hchain]
    cases condition with
    | none =>
        exact Predicate.says_entityIn (RowSource.says_behind hschema
          (RowSource.says_tagged hschema (k + 1) path.terminal) (k + 2) _)
    | some c =>
        have hsource := RowSource.says_valued hschema (h.2 c rfl) (k + 1) path.terminal
          options.kindSource
        exact Predicate.says_entityIn (RowSource.says_behind hschema hsource (k + 2) _)
  · rw [numbered, if_neg hchain]
    cases condition with
    | none => exact Predicate.says_entityIn (RowSource.says_tagged hschema _ _)
    | some c => exact Predicate.says_rowPasses hschema (h.2 c rfl) (k + 1) _

end Filters

namespace Expr

variable {schema : String} {options : CompileOptions}

mutual

/-- **The branches of a filter compare with the values of its conditions, from left to right.** -/
theorem says_numbered (hschema : Sql.isIdentifier schema) : ∀ (e : Expr) (k : Nat), e.WellFormed →
    Says (wordsOf (chars ((e.numbered options k).sql schema)))
      (e.references.flatMap Reference.operands)
  | .or operands, k, hwell => by
      rw [WellFormed, references] at hwell
      rw [numbered, Predicate.sql, references]
      exact says_sqlAny hschema operands k hwell
  | .and operands, k, hwell => by
      rw [WellFormed, references] at hwell
      rw [numbered, Predicate.sql, references]
      exact says_sqlAll hschema operands k hwell
  | .paren inner, k, hwell => by
      rw [WellFormed, references] at hwell
      rw [numbered, Predicate.sql, references]
      have hgrouped := Predicate.wordsOf_grouped true ((inner.numbered options k).sql schema)
      rw [Predicate.grouped, if_pos rfl] at hgrouped
      rw [hgrouped]
      exact says_numbered hschema inner k hwell
  | .has path, k, hwell | .compare path op value, k, hwell | .member path values, k, hwell => by
      rw [numbered, references, List.flatMap_singleton]
      exact Reference.says_numbered hschema (hwell _ (by simp [references])) k
  | .missing path, k, hwell => by
      rw [numbered, references, List.flatMap_singleton, Predicate.sql]
      have hchars : ∀ ps, chars ([code "NOT "] ++ ps) = stencil "" 0 ["NOT"] (chars ps) := by
        intro ps
        rw [Sql.chars_append]
        rfl
      rw [hchars]
      exact .stencil (by decide) (by decide) 0
        (Reference.says_numbered hschema (hwell _ (by simp [references])) k)

theorem says_sqlAny (hschema : Sql.isIdentifier schema) : ∀ (es : List Expr) (k : Nat),
    (∀ r ∈ referencesOfAll es, r.WellFormed) →
    Says (wordsOf (chars (Predicate.sqlAny schema (numberedAll options k es))))
      ((referencesOfAll es).flatMap Reference.operands)
  | [], k, _ => fun _ => rfl
  | [e], k, hwell => by
      rw [referencesOfAll, referencesOfAll, List.append_nil] at hwell ⊢
      rw [numberedAll, numberedAll, Predicate.sqlAny, Predicate.wordsOf_grouped]
      exact says_numbered hschema e k hwell
  | e :: next :: rest, k, hwell => by
      rw [referencesOfAll, List.forall_mem_append] at hwell
      rw [referencesOfAll, List.flatMap_append, numberedAll]
      have hfirst := says_numbered hschema e k hwell.1
      rw [← Predicate.wordsOf_grouped (e.numbered options k).isAnd] at hfirst
      exact Predicate.says_joined (.inl rfl) hfirst
        (says_sqlAny hschema (next :: rest) (k + widthOf e.references) hwell.2)

theorem says_sqlAll (hschema : Sql.isIdentifier schema) : ∀ (es : List Expr) (k : Nat),
    (∀ r ∈ referencesOfAll es, r.WellFormed) →
    Says (wordsOf (chars (Predicate.sqlAll schema (numberedAll options k es))))
      ((referencesOfAll es).flatMap Reference.operands)
  | [], k, _ => fun _ => rfl
  | [e], k, hwell => by
      rw [referencesOfAll, referencesOfAll, List.append_nil] at hwell ⊢
      rw [numberedAll, numberedAll, Predicate.sqlAll]
      exact says_numbered hschema e k hwell
  | e :: next :: rest, k, hwell => by
      rw [referencesOfAll, List.forall_mem_append] at hwell
      rw [referencesOfAll, List.flatMap_append, numberedAll]
      exact Predicate.says_joined (.inr rfl) (says_numbered hschema e k hwell.1)
        (says_sqlAll hschema (next :: rest) (k + widthOf e.references) hwell.2)

end

end Expr

end EntityFilter
