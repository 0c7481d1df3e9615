import EntityFilter.Proofs.Filter.Image
import EntityFilter.Proofs.Query.Aliases
import EntityFilter.Proofs.Query.Enclosure
import EntityFilter.Proofs.Query.Formula

/-!
# The condition that a rendered filter is

A text is read as a condition by scanning it, splitting what is found into words and reading these
with precedence (`Sql.readFormula`).  An atom is a whole `e.id IN (…)` or `EXISTS (…)`, up to the
parenthesis that closes it; of what stands in it only quotes and parentheses are minded.

**A rendered filter is read as the filter** (`Predicate.formula_of_parse`): it has one atom for each
mention of a tag, from left to right, and the value of the filter whatever the values of its atoms
are.  Parentheses are written around conjunctions between alternatives only; that no other condition
needs them is because the filter was read from a text (`Expr.Proper`).

The access conditions are read in the same way, as grants that are not revoked
(`Query.readFormula_access`).
-/

namespace EntityFilter

namespace Sql

open Piece (code literal identifier)

/-! ### Words -/

/-- The text of what a scan finds. -/
def Item.text (is : List Item) : String :=
  String.ofList (is.flatMap fun
    | .char c               => [c]
    | .quoted quote content => (Sql.quoted quote (String.ofList content)).toList)

/-- What follows the parenthesis that closes the last one that was opened before the items, where
`m` more have to be closed first. -/
def Item.behindGroup : Nat → List Item → Option (List Item)
  | _, []                    => none
  | m, .char '(' :: rest     => behindGroup (m + 1) rest
  | 0, .char ')' :: rest     => some rest
  | m + 1, .char ')' :: rest => behindGroup m rest
  | m, _ :: rest             => behindGroup m rest

/-- What follows the characters `start`, if the items start with them. -/
def Item.after? : List Char → List Item → Option (List Item)
  | [], is                      => some is
  | c :: start, .char d :: rest => if c = d then after? start rest else none
  | _ :: _, _                   => none

/-- An atom, if the items start with `start`: all up to the parenthesis that closes it. -/
def Item.atom? (start : String) (is : List Item) : Option (Word × List Item) := do
  let inside ← after? start.toList is
  let rest ← behindGroup 0 inside
  pure (.atom (text (is.take (is.length - rest.length))), rest)

/-- The word `w`, if the items start with its characters. -/
def Item.word? (w : Word) (chars : String) (is : List Item) : Option (Word × List Item) :=
  (after? chars.toList is).map (w, ·)

/-- The first word of the items, and what follows it. -/
def Item.next? (is : List Item) : Option (Word × List Item) :=
  word? .opening "(" is <|> word? .closing ")" is <|> word? .not "NOT " is <|>
    word? .and "AND " is <|> word? .or "OR " is <|> atom? "e.id IN (" is <|> atom? "EXISTS (" is

theorem Item.length_after? {start : List Char} {is rest : List Item}
    (h : after? start is = some rest) : rest.length + start.length = is.length := by
  fun_induction after? start is with
  | case1 is =>
      obtain rfl := Option.some.inj h
      rfl
  | case2 start d is ih => simpa [← Nat.add_assoc] using ih h
  | case3 => cases h
  | case4 => cases h

theorem Item.length_behindGroup {m : Nat} {is rest : List Item}
    (h : behindGroup m is = some rest) : rest.length < is.length := by
  fun_induction behindGroup m is with
  | case1 => cases h
  | case2 m is ih | case4 is m ih | case5 m i is _ _ _ ih => exact Nat.lt_succ_of_lt (ih h)
  | case3 is =>
      obtain rfl := Option.some.inj h
      exact Nat.lt_succ_self _

theorem Item.length_word? {w v : Word} {chars : String} {is rest : List Item}
    (hne : chars.toList ≠ []) (h : word? w chars is = some (v, rest)) :
    rest.length < is.length := by
  obtain ⟨later, hafter, heq⟩ := Option.map_eq_some_iff.mp h
  obtain ⟨-, rfl⟩ := Prod.mk.inj heq
  have hlength := length_after? hafter
  have hpos := List.length_pos_iff.mpr hne
  omega

theorem Item.length_atom? {start : String} {is rest : List Item} {w : Word}
    (h : atom? start is = some (w, rest)) : rest.length < is.length := by
  simp only [atom?, Option.bind_eq_bind, Option.bind_eq_some_iff] at h
  obtain ⟨inside, hafter, later, hbehind, heq⟩ := h
  obtain ⟨-, rfl⟩ := Prod.mk.inj (Option.some.inj heq)
  have hlength := length_after? hafter
  have hless := length_behindGroup hbehind
  omega

theorem Item.length_next? {is rest : List Item} {w : Word} (h : next? is = some (w, rest)) :
    rest.length < is.length := by
  simp only [next?, Option.orElse_eq_orElse, Option.orElse_eq_or, Option.or_eq_some_iff] at h
  rcases h with h | ⟨-, h | ⟨-, h | ⟨-, h | ⟨-, h | ⟨-, h | ⟨-, h⟩⟩⟩⟩⟩⟩
  iterate 5 exact length_word? (by decide) h
  · exact length_atom? h
  · exact length_atom? h

/-- The words of what a scan finds, with blanks between them. -/
def Item.words : List Item → Option (List Word)
  | []                => some []
  | .char ' ' :: rest => words rest
  | i :: is           =>
    match _h : next? (i :: is) with
    | none           => none
    | some (w, rest) => (words rest).map (w :: ·)
termination_by is => is.length
decreasing_by
  · exact Nat.lt_succ_self _
  · exact length_next? _h

/-- The condition that a text is. -/
def readFormula (text : String) : Option Formula := do
  readWords (← Item.words (← scan ['\''] text))

theorem Item.words_of_next? {is rest : List Item} {w : Word} (h : next? is = some (w, rest)) :
    words is = (words rest).map (w :: ·) := by
  rw [words.eq_def]
  split
  · cases h
  · cases h
  · split
    · rename_i hnone
      cases hnone.symm.trans h
    · rename_i v later hsome
      obtain ⟨rfl, rfl⟩ := Prod.mk.inj (Option.some.inj (hsome.symm.trans h))
      rfl

theorem Item.words_blank (is : List Item) : words (.char ' ' :: is) = words is := by
  rw [words]

theorem Item.levelled_behindGroup : Levelled behindGroup where
  other m is c h := by
    obtain ⟨hopen, hclose⟩ := ne_of_isMark_eq_false h
    rw [behindGroup] <;> simp [hopen, hclose]
  literal m is t := rfl
  opening m is := rfl
  closing m is := rfl

theorem Item.after?_append (start : List Char) (is : List Item) :
    after? start (start.map .char ++ is) = some is := by
  induction start with
  | nil => rfl
  | cons c start ih => rw [List.map_cons, List.cons_append, after?, if_pos rfl, ih]

/-- The items of pieces have the text of the pieces. -/
theorem Item.text_items (ps : List Piece) : text (items ['\''] ps) = Sql.text ps := by
  have hchars : ∀ cs : List Char, (cs.map Item.char).flatMap (fun
      | .char c => [c]
      | .quoted quote content => (Sql.quoted quote (String.ofList content)).toList) = cs := by
    intro cs
    rw [List.flatMap_map]
    exact List.flatMap_singleton' cs
  rw [text, ← String.toList_inj, String.toList_ofList]
  induction ps with
  | nil => rfl
  | cons p ps ih =>
      rw [items_cons, List.flatMap_append, ih, toList_text_cons]
      congr 1
      cases p with
      | code t | identifier t => exact hchars _
      | literal t => simp [Piece.items, Piece.quote?, Piece.content, Piece.text, quoteLiteral]

/-! ### Words of pieces -/

/-- The pieces are these words, whatever follows them. -/
def Splits (ps : List Piece) (ws : List Word) : Prop :=
  ∀ rest, Item.words (items ['\''] ps ++ rest) = (Item.words rest).map (ws ++ ·)

namespace Splits

variable {ps qs : List Piece} {ws vs : List Word}

theorem append (h₁ : Splits ps ws) (h₂ : Splits qs vs) : Splits (ps ++ qs) (ws ++ vs) := by
  intro rest
  rw [items_append, List.append_assoc, h₁, h₂, Option.map_map]
  congr 1
  funext us
  exact (List.append_assoc ws vs us).symm

/-- Only the items of pieces matter, not how they are cut. -/
theorem of_items (h : Splits ps ws) (hitems : items ['\''] qs = items ['\''] ps) :
    Splits qs ws := by
  intro rest
  rw [hitems]
  exact h rest

theorem word {w : Word} {t : String}
    (h : ∀ rest, Item.next? (t.toList.map .char ++ rest) = some (w, rest)) :
    Splits [code t] [w] := by
  intro rest
  refine Item.words_of_next? ?_
  simpa [items, Piece.items, Piece.quote?, Piece.text] using h rest

theorem blank_word {w : Word} (t : String)
    (h : ∀ rest, Item.next? (t.toList.map .char ++ rest) = some (w, rest)) :
    Splits [code (" " ++ t)] [w] := by
  intro rest
  have hitems : items ['\''] [code (" " ++ t)] = .char ' ' :: items ['\''] [code t] := by
    simp [items, Piece.items, Piece.quote?, Piece.text]
  rw [hitems, List.cons_append, Item.words_blank, word h]

theorem opening : Splits [code "("] [.opening] := word fun _ => rfl

theorem closing : Splits [code ")"] [.closing] := word fun _ => rfl

theorem not : Splits [code "NOT "] [.not] := word fun _ => rfl

theorem and : Splits [code " AND "] [.and] := blank_word "AND " fun _ => rfl

theorem or : Splits [code " OR "] [.or] := blank_word "OR " fun _ => rfl

/-- Pieces that open a group behind `start` and close it at their end are one atom. -/
theorem atom (start : String) (inside : List Item) {ls : List String}
    (hstart : ∀ is r, Item.atom? start (start.toList.map .char ++ is) = some r →
      Item.next? (start.toList.map .char ++ is) = some r)
    (hitems : items ['\''] ps = start.toList.map .char ++ (inside ++ [.char ')']))
    (hnests : Nests 0 0 (inside.filter Item.isMark) ls) : Splits ps [.atom (text ps)] := by
  intro rest
  have hall : items ['\''] ps ++ rest =
      start.toList.map .char ++ (inside ++ .char ')' :: rest) := by
    rw [hitems, List.append_assoc, List.append_assoc]
    rfl
  have hatom : Item.atom? start (items ['\''] ps ++ rest) = some (.atom (text ps), rest) := by
    -- the marks inside are level, so the next closing one is that of the atom
    have hbehind : Item.behindGroup 0 (inside ++ .char ')' :: rest) = some rest :=
      Item.levelled_behindGroup.append hnests
    rw [Item.atom?, hall, Item.after?_append, ← hall, ← Item.text_items ps]
    simp [hbehind]
  exact Item.words_of_next? (hall ▸ hstart _ _ (hall ▸ hatom))

theorem entityIn {source : List Piece} {ls : List String} (h : Renders false 0 0 source ls) :
    Splits ([code "e.id IN ("] ++ source ++ [code ")"])
      [.atom (text ([code "e.id IN ("] ++ source ++ [code ")"]))] := by
  refine atom "e.id IN (" (items ['\''] source) (fun is r hr => ?_) ?_ h.nests
  · change (Item.atom? "e.id IN (" _ <|> _) = _
    rw [hr]
    rfl
  · rw [items_append, items_append, List.append_assoc]
    rfl

/-- The first piece goes on behind the parenthesis that it opens. -/
theorem rowPasses {t : String} {row : List Piece} {ls : List String}
    (h : Renders false 0 0 (code t :: row) ls) :
    Splits (code ("EXISTS (" ++ t) :: (row ++ [code ")"]))
      [.atom (text (code ("EXISTS (" ++ t) :: (row ++ [code ")"])))] := by
  refine atom "EXISTS (" (items ['\''] (code t :: row)) (fun is r hr => hr) ?_ h.nests
  rw [items_cons, items_append, items_cons]
  simp [Piece.items, Piece.quote?, Piece.text, items]

/-- Well rendered pieces are read as the condition that their words are. -/
theorem readFormula_eq {ls : List String} {c : Formula} (h : Splits ps ws)
    (hrenders : Renders true 0 0 ps ls) (hreads : ReadsAs 1 ws c) :
    readFormula (text ps) = some c := by
  have hwords := h []
  rw [List.append_nil, Item.words, Option.map_some, List.append_nil] at hwords
  simp [readFormula, hrenders.scan_eq, hwords, hreads.readWords_eq]

end Splits

/-! ### Conditions of pieces -/

/-- The pieces are read at strength `s` as a condition with these atoms and this value, which takes
the values of atoms and the number of the first one. -/
def Means (s : Nat) (ps : List Piece) (atoms : List String) (value : (Nat → Bool) → Nat → Bool) :
    Prop :=
  ∃ ws c, Splits ps ws ∧ ReadsAs s ws c ∧ c.atoms = atoms ∧
    ∀ truth k, c.evalFrom truth k = value truth k

namespace Means

variable {s t : Nat} {ps qs : List Piece} {as bs : List String}
  {v w : (Nat → Bool) → Nat → Bool}

theorem atom {text : String} (h : Splits ps [.atom text]) :
    Means s ps [text] fun truth k => truth k :=
  ⟨_, .atom text, h, .atom text, rfl, fun _ _ => rfl⟩

theorem not {text : String} (h : Splits ps [.atom text]) :
    Means 3 ([code "NOT "] ++ ps) [text] fun truth k => !truth k :=
  ⟨_, .not (.atom text), Splits.not.append h, .not text, rfl, fun _ _ => rfl⟩

theorem weaken (hle : t ≤ s) (h : Means s ps as v) : Means t ps as v := by
  obtain ⟨ws, c, hsplits, hreads, hmeaning⟩ := h
  refine ⟨ws, c, hsplits, ?_, hmeaning⟩
  induction hle with
  | refl => exact hreads
  | step _ ih => exact ih hreads.weaken

theorem group (h : Means 1 ps as v) : Means s ([code "("] ++ ps ++ [code ")"]) as v := by
  obtain ⟨ws, c, hsplits, hreads, hmeaning⟩ := h
  exact ⟨_, c, (Splits.opening.append hsplits).append .closing, hreads.group, hmeaning⟩

theorem and (h₁ : Means 2 ps as v) (h₂ : Means 3 qs bs w) :
    Means 2 (ps ++ [code " AND "] ++ qs) (as ++ bs)
      fun truth k => v truth k && w truth (k + as.length) := by
  obtain ⟨ws, c, hsplits, hreads, rfl, hv⟩ := h₁
  obtain ⟨vs, d, hsplits', hreads', rfl, hw⟩ := h₂
  have hrow : Splits (ps ++ [code " AND "] ++ qs) (ws ++ .and :: vs) := by
    simpa using (hsplits.append .and).append hsplits'
  refine ⟨_, .and c d, hrow, hreads.and hreads', rfl, fun truth k => ?_⟩
  rw [Formula.evalFrom, hv, hw]

theorem or (h₁ : Means 1 ps as v) (h₂ : Means 2 qs bs w) :
    Means 1 (ps ++ [code " OR "] ++ qs) (as ++ bs)
      fun truth k => v truth k || w truth (k + as.length) := by
  obtain ⟨ws, c, hsplits, hreads, rfl, hv⟩ := h₁
  obtain ⟨vs, d, hsplits', hreads', rfl, hw⟩ := h₂
  have hrow : Splits (ps ++ [code " OR "] ++ qs) (ws ++ .or :: vs) := by
    simpa using (hsplits.append .or).append hsplits'
  refine ⟨_, .or c d, hrow, hreads.or hreads', rfl, fun truth k => ?_⟩
  rw [Formula.evalFrom, hv, hw]

/-- **Well rendered pieces that mean a condition are read as it.** -/
theorem readFormula_eq {ls : List String} (hrenders : Renders true 0 0 ps ls)
    (h : Means 1 ps as v) : ∃ c, readFormula (text ps) = some c ∧ c.atoms = as ∧
      ∀ truth k, c.evalFrom truth k = v truth k := by
  obtain ⟨ws, c, hsplits, hreads, hatoms, hv⟩ := h
  exact ⟨c, hsplits.readFormula_eq hrenders hreads, hatoms, hv⟩

end Means

end Sql

open Sql (Piece Renders Splits Means)
open Sql.Piece (code literal identifier)

/-! ### Access conditions -/

namespace Query

section Access

variable {schema : String} {p : Permission} {axis : AccessAxis}

theorem Permission.Plain.splits_sql (hschema : Sql.Unmarked schema) (h : p.Plain) (owner : Int)
    {subject : String} (hsubject : Sql.Unmarked subject) :
    Splits (p.sql schema owner subject) [.atom (Sql.text (p.sql schema owner subject))] := by
  have htable := Sql.unmarked_of_isIdentifier h.table
  have hrow := Sql.unmarked_of_isIdentifier h.row
  have hkey := Sql.unmarked_of_isIdentifier h.key
  have howner := Sql.unmarked_of_isIdentifier h.owner
  have hnests : Sql.Nests 0 0 (Sql.outline ([code "SELECT 1 FROM "] ++ Sql.table schema p.table ++
      [code s!" {p.row} WHERE {p.row}.{p.owner} = {Text.integer owner}",
        code s!" AND {p.row}.{p.key} = {subject}"])) [] := by
    simpa [Sql.table, toString, hschema, htable, hrow, hkey, howner, hsubject, Sql.marks,
      Sql.isMark] using .nil 0
  refine .atom "EXISTS (" _ (fun is r hr => hr) ?_ hnests
  simp [Permission.sql, Sql.table, Sql.items, Piece.items, Piece.quote?, Piece.text, toString]

/-- The subject is granted to the organisation or to the user, and not revoked for the user. -/
def AccessAxis.formula (schema : String) (axis : AccessAxis) (orgId userId : Int)
    (subject : String) : Sql.Formula :=
  .and (.or (.atom (Sql.text (axis.orgGrant.sql schema orgId subject)))
      (.atom (Sql.text (axis.userGrant.sql schema userId subject))))
    (.not (.atom (Sql.text (axis.userRevocation.sql schema userId subject))))

theorem AccessAxis.Plain.readFormula_sql (hschema : Sql.Unmarked schema) (h : axis.Plain)
    (orgId userId : Int) {subject : String} (hsubject : Sql.Unmarked subject) :
    Sql.readFormula (Sql.text (axis.sql schema orgId userId subject)) =
      some (axis.formula schema orgId userId subject) := by
  have horg := h.orgGrant.splits_sql hschema orgId hsubject
  have huser := h.userGrant.splits_sql hschema userId hsubject
  have hrevoked := h.userRevocation.splits_sql hschema userId hsubject
  have hgranted := (Splits.opening.append ((horg.append .or).append huser)).append .closing
  have hall := (Splits.opening.append ((hgranted.append .and).append
    (Splits.not.append hrevoked))).append .closing
  -- the text is cut into other pieces: marks that stand together are one piece
  have hsplits := hall.of_items (show Sql.items ['\''] (axis.sql schema orgId userId subject) = _ by
    simp only [AccessAxis.sql, Sql.items_append, List.append_assoc]
    rfl)
  refine hsplits.readFormula_eq (h.renders_sql hschema orgId userId hsubject) ?_
  exact (((Sql.ReadsAs.atom _).or (.atom _)).group.and (.not _)).weaken.group

/-- **What is accessed is granted and not revoked.**  The access conditions are two, joined by
`AND`: one on the entity and one on the library of its tag.  Each is read as a grant to the
organisation or to the user that is not revoked for the user. -/
theorem readFormula_access (hschema : Sql.Unmarked schema) (orgId userId : Int) :
    ∃ entity tag, Sql.text (access schema orgId userId) = entity ++ "\nAND " ++ tag ∧
      Sql.readFormula entity = some (entityAxis.formula schema orgId userId "a.id") ∧
      Sql.readFormula tag = some (tagAxis.formula schema orgId userId "tm.value") := by
  refine ⟨_, _, ?_, plain_entityAxis.readFormula_sql hschema orgId userId (by decide),
    plain_tagAxis.readFormula_sql hschema orgId userId (by decide)⟩
  rw [access, Sql.text_append, Sql.text_append]
  rfl

end Access

end Query

/-! ### Filters -/

namespace Expr

mutual

/-- The value of a filter, where `truth` gives the values of its mentions of tags, the first of
which has the number `k`. -/
def evalFrom (truth : Nat → Bool) : Nat → Expr → Bool
  | k, or operands  => anyFrom truth k operands
  | k, and operands => allFrom truth k operands
  | k, paren inner  => inner.evalFrom truth k
  | k, missing _    => !truth k
  | k, has _ | k, compare _ _ _ | k, member _ _ => truth k

/-- One of the filters holds. -/
def anyFrom (truth : Nat → Bool) : Nat → List Expr → Bool
  | _, []        => false
  | k, e :: rest => e.evalFrom truth k || anyFrom truth (k + e.references.length) rest

/-- All of the filters hold. -/
def allFrom (truth : Nat → Bool) : Nat → List Expr → Bool
  | _, []        => true
  | k, e :: rest => e.evalFrom truth k && allFrom truth (k + e.references.length) rest

end

/-- How tight the condition of a filter binds. -/
def strength (e : Expr) : Nat :=
  if e.isOr then 1 else if e.isAnd then 2 else 3

end Expr

section Meaning

variable {schema : String} {options : CompileOptions}

theorem Predicate.splits_entityIn {source : RowSource} {ls : List String}
    (h : Renders false 0 0 (source.sql schema) ls) :
    Splits ((entityIn source).sql schema) [.atom (Sql.text ((entityIn source).sql schema))] := by
  rw [Predicate.sql]
  exact .entityIn h

theorem Predicate.splits_rowPasses (hschema : Sql.Unmarked schema) {c : Condition}
    (h : c.WellFormed) (n : Nat) (tag : String) :
    Splits ((rowPasses n tag (c.dispatch n)).sql schema)
      [.atom (Sql.text ((rowPasses n tag (c.dispatch n)).sql schema))] := by
  let a := Text.natural n
  have hrows : Renders false 0 0 ([code "SELECT 1 FROM "] ++
      Sql.table schema "entity_tag" ++ [code s!" et{a}, "] ++ Sql.table schema "tag_def" ++
      [code s!" td{a} WHERE et{a}.entity_id = e.id AND et{a}.tag_id = td{a}.id AND td{a}.name = ",
        literal tag, code " AND "]) [tag] := by
    refine ⟨by simp [Sql.table, Sql.Spaced, Piece.quote?, Piece.text, toString], ?_⟩
    simpa [a, Sql.table, toString, hschema, Sql.marks, Sql.isMark] using .literal _ (.nil 0)
  have hatom := Splits.rowPasses (hrows.append (Condition.renders_dispatch h n))
  simpa [Predicate.sql] using hatom

theorem Reference.splits_numbered (hschema : Sql.Unmarked schema) {r : Reference}
    (h : r.WellFormed) (k : Nat) : Splits ((r.numbered options k).sql schema)
      [.atom (Sql.text ((r.numbered options k).sql schema))] := by
  obtain ⟨path, condition⟩ := r
  by_cases hchain : path.isChain
  · rw [numbered, if_pos hchain]
    cases condition with
    | none =>
        exact Predicate.splits_entityIn (RowSource.renders_behind hschema
          (RowSource.renders_tagged hschema (k + 1) path.terminal) _ _)
    | some c =>
        exact Predicate.splits_entityIn (RowSource.renders_behind hschema
          (RowSource.renders_valued hschema (h.2 c rfl) (k + 1) path.terminal options.kindSource)
          _ _)
  · rw [numbered, if_neg hchain]
    cases condition with
    | none => exact Predicate.splits_entityIn (RowSource.renders_tagged hschema _ _)
    | some c => exact Predicate.splits_rowPasses hschema (h.2 c rfl) _ _

theorem Expr.isAnd_numbered (e : Expr) (k : Nat) : (e.numbered options k).isAnd = e.isAnd := by
  cases e with
  | or operands | and operands | paren inner | missing path => rfl
  | has path | compare path op value | member path values =>
      exact Reference.isAnd_numbered options k _

/-- The texts of the atoms of predicates. -/
def Predicate.atomTexts (schema : String) (atoms : List Predicate) : List String :=
  atoms.map fun p => Sql.text (p.sql schema)

theorem Predicate.atomTexts_append (ps qs : List Predicate) :
    atomTexts schema (ps ++ qs) = atomTexts schema ps ++ atomTexts schema qs :=
  List.map_append

theorem Reference.atomTexts_numbered (r : Reference) (k : Nat) :
    Predicate.atomTexts schema (r.numbered options k).atoms =
      [Sql.text ((r.numbered options k).sql schema)] := by
  rw [r.atoms_numbered options k]
  rfl

theorem Expr.length_atomTexts (e : Expr) (k : Nat) :
    (Predicate.atomTexts schema (e.numbered options k).atoms).length = e.references.length := by
  have hgather : ∀ (rs : List Reference) (k : Nat),
      (gather (fun k r => [r.numbered options k]) k rs).length = rs.length := by
    intro rs
    induction rs with
    | nil => exact fun _ => rfl
    | cons r rs ih => exact fun k => by simp [gather, ih]
  rw [Predicate.atomTexts, List.length_map, e.atoms_numbered options k, hgather]

theorem Predicate.sqlAll_cons (p : Predicate) (rest : List Predicate) :
    sqlAll schema (p :: rest) =
      p.sql schema ++ rest.flatMap fun q => [code " AND "] ++ q.sql schema := by
  induction rest generalizing p with
  | nil => simp [sqlAll]
  | cons q rest ih =>
    rw [sqlAll, ih, List.flatMap_cons, List.append_assoc, List.append_assoc]
    exact List.cons_ne_nil _ _

theorem Predicate.sqlAny_cons (p : Predicate) (rest : List Predicate) :
    sqlAny schema (p :: rest) = grouped p.isAnd (p.sql schema) ++
      rest.flatMap fun q => [code " OR "] ++ grouped q.isAnd (q.sql schema) := by
  induction rest generalizing p with
  | nil => simp [sqlAny]
  | cons q rest ih =>
    rw [sqlAny, ih, List.flatMap_cons, List.append_assoc, List.append_assoc]
    exact List.cons_ne_nil _ _

namespace Expr

theorem one_le_strength (e : Expr) : 1 ≤ e.strength := by
  rw [strength]
  split
  · exact Nat.le_refl 1
  · split <;> decide

theorem strength_of_term {e : Expr} (h : !e.isOr && !e.isAnd) : e.strength = 3 := by
  simp only [Bool.and_eq_true, Bool.not_eq_true'] at h
  simp [strength, h.1, h.2]

/-- Between alternatives, a condition that binds less than a term is put in parentheses. -/
theorem means_grouped {e : Expr} {k : Nat} {as : List String} {v : (Nat → Bool) → Nat → Bool}
    (hor : !e.isOr) (h : Means e.strength ((e.numbered options k).sql schema) as v) :
    Means 2 (Predicate.grouped (e.numbered options k).isAnd ((e.numbered options k).sql schema))
      as v := by
  simp only [Bool.not_eq_true'] at hor
  rw [isAnd_numbered, Predicate.grouped]
  rw [strength, hor] at h
  split
  · rename_i hand
    rw [hand] at h
    exact (h.weaken (by decide)).group
  · rename_i hand
    rw [if_neg hand] at h
    exact h.weaken (by decide)

mutual

/-- **A numbered filter means the filter**, at the strength of its outermost condition. -/
theorem means_numbered (hschema : Sql.Unmarked schema) : ∀ (e : Expr) (k : Nat), e.Proper →
    e.WellFormed → Means e.strength ((e.numbered options k).sql schema)
      (Predicate.atomTexts schema (e.numbered options k).atoms) fun truth i => e.evalFrom truth i
  | .or [], _, hproper, _ | .and [], _, hproper, _ => by
      rw [Proper] at hproper
      cases hproper.1
  | .or (e :: rest), k, hproper, hwell => by
      rw [Proper, AllProper, List.forall_mem_cons] at hproper
      obtain ⟨-, ⟨hshape, hshapes⟩, he, hrest⟩ := hproper
      rw [WellFormed, references, referencesOfAll, List.forall_mem_append] at hwell
      -- only a conjunction is in parentheses, and nothing else among the operands needs them
      have hfirst := means_grouped hshape (means_numbered hschema e k he hwell.1)
      have hall := means_any hschema rest (k + widthOf e.references) hrest hshapes hwell.2
        (hfirst.weaken (by decide))
      rw [length_atomTexts, ← Predicate.atomTexts_append, ← Predicate.sqlAny_cons] at hall
      rwa [numbered, numberedAll, Predicate.sql, Predicate.atoms, Predicate.atomsOfAll]
  | .and (e :: rest), k, hproper, hwell => by
      rw [Proper, AllProper, List.forall_mem_cons] at hproper
      obtain ⟨-, ⟨hshape, hshapes⟩, he, hrest⟩ := hproper
      rw [WellFormed, references, referencesOfAll, List.forall_mem_append] at hwell
      -- there are no parentheses here, so it takes the shape of the operands
      have hfirst := means_numbered hschema e k he hwell.1
      rw [strength_of_term hshape] at hfirst
      have hall := means_all hschema rest (k + widthOf e.references) hrest hshapes hwell.2
        (hfirst.weaken (by decide))
      rw [length_atomTexts, ← Predicate.atomTexts_append, ← Predicate.sqlAll_cons] at hall
      rwa [numbered, numberedAll, Predicate.sql, Predicate.atoms, Predicate.atomsOfAll]
  | .paren inner, k, hproper, hwell => by
      rw [Proper] at hproper
      rw [WellFormed, references] at hwell
      rw [numbered, Predicate.sql, Predicate.atoms]
      exact ((means_numbered hschema inner k hproper hwell).weaken inner.one_le_strength).group
  | .has path, k, _, hwell | .compare path op value, k, _, hwell
  | .member path values, k, _, hwell => by
      rw [numbered, Reference.atomTexts_numbered]
      exact .atom (Reference.splits_numbered hschema (hwell _ (by simp [references])) k)
  | .missing path, k, _, hwell => by
      rw [numbered, Predicate.atoms, Reference.atomTexts_numbered, Predicate.sql]
      exact .not (Reference.splits_numbered hschema (hwell _ (by simp [references])) k)

-- operands are joined from left to right, so what was read of them so far is carried along

theorem means_any (hschema : Sql.Unmarked schema) : ∀ (es : List Expr) (k : Nat), AllProper es →
    (∀ e ∈ es, !e.isOr) → (∀ r ∈ referencesOfAll es, r.WellFormed) →
    ∀ {ps : List Piece} {as : List String} {v : (Nat → Bool) → Nat → Bool}, Means 1 ps as v →
      Means 1 (ps ++ (numberedAll options k es).flatMap fun q =>
          [code " OR "] ++ Predicate.grouped q.isAnd (q.sql schema))
        (as ++ Predicate.atomTexts schema (Predicate.atomsOfAll (numberedAll options k es)))
        fun truth i => v truth i || anyFrom truth (i + as.length) es
  | [], _, _, _, _, _, _, _, h => by
      simpa [numberedAll, Predicate.atomsOfAll, Predicate.atomTexts, anyFrom] using h
  | e :: rest, k, hproper, hshapes, hwell, ps, as, v, h => by
      rw [AllProper] at hproper
      rw [List.forall_mem_cons] at hshapes
      rw [referencesOfAll, List.forall_mem_append] at hwell
      have hnext := means_grouped hshapes.1 (means_numbered hschema e k hproper.1 hwell.1)
      have hall := means_any hschema rest (k + widthOf e.references) hproper.2 hshapes.2 hwell.2
        (h.or hnext)
      simpa [numberedAll, Predicate.atomsOfAll, Predicate.atomTexts_append, anyFrom,
        length_atomTexts, Bool.or_assoc, Nat.add_assoc] using hall

theorem means_all (hschema : Sql.Unmarked schema) : ∀ (es : List Expr) (k : Nat), AllProper es →
    (∀ e ∈ es, !e.isOr && !e.isAnd) → (∀ r ∈ referencesOfAll es, r.WellFormed) →
    ∀ {ps : List Piece} {as : List String} {v : (Nat → Bool) → Nat → Bool}, Means 2 ps as v →
      Means 2 (ps ++ (numberedAll options k es).flatMap fun q => [code " AND "] ++ q.sql schema)
        (as ++ Predicate.atomTexts schema (Predicate.atomsOfAll (numberedAll options k es)))
        fun truth i => v truth i && allFrom truth (i + as.length) es
  | [], _, _, _, _, _, _, _, h => by
      simpa [numberedAll, Predicate.atomsOfAll, Predicate.atomTexts, allFrom] using h
  | e :: rest, k, hproper, hshapes, hwell, ps, as, v, h => by
      rw [AllProper] at hproper
      rw [List.forall_mem_cons] at hshapes
      rw [referencesOfAll, List.forall_mem_append] at hwell
      have hnext := means_numbered hschema e k hproper.1 hwell.1
      rw [strength_of_term hshapes.1] at hnext
      have hall := means_all hschema rest (k + widthOf e.references) hproper.2 hshapes.2 hwell.2
        (h.and hnext)
      simpa [numberedAll, Predicate.atomsOfAll, Predicate.atomTexts_append, allFrom,
        length_atomTexts, Bool.and_assoc, Nat.add_assoc] using hall

end

end Expr

end Meaning

/-- The atom goes along the path of the mention and makes the test of its condition, if it has
one. -/
def Reference.AskedBy (r : Reference) (p : Predicate) : Prop :=
  r.SpeltBy p ∧ ∃ n, p.atomDispatches = r.condition.toList.map fun c => (n, c.dispatch n)

theorem Reference.askedBy_numbered (options : CompileOptions) (k : Nat) {r : Reference}
    (h : r.path.segments ≠ []) : r.AskedBy (r.numbered options k) := by
  refine ⟨r.speltBy_numbered options k h, k + 1, ?_⟩
  obtain ⟨path, condition⟩ := r
  by_cases hchain : path.isChain
  · rw [numbered, if_pos hchain, Predicate.atomDispatches, RowSource.dispatches_behind, last]
    cases condition <;> rfl
  · rw [numbered, if_neg hchain]
    cases condition <;> rfl

/-- **The text of a compiled filter is read as the filter**: one atom for each mention of a tag,
from left to right, and the same value for all values of the atoms. -/
theorem Predicate.formula_of_parse {text schema : String} {options : CompileOptions} {e : Expr}
    {f : CompiledFilter} (hschema : Sql.isIdentifier schema) (hparse : parse text = .ok e)
    (hf : compileExpr options e = .ok f) :
    ∃ c, Sql.readFormula (Sql.text (f.predicate.sql schema)) = some c ∧
      c.atoms = f.predicate.atoms.map (fun p => Sql.text (p.sql schema)) ∧
      List.Forall₂ Reference.AskedBy e.references f.predicate.atoms ∧
      ∀ truth, c.evalFrom truth 0 = e.evalFrom truth 0 := by
  have hunmarked := Sql.unmarked_of_isIdentifier hschema
  have hwell := wellFormed_of_parse hparse
  obtain ⟨-, -, rfl⟩ := compileExpr_eq_ok_iff.mp hf
  have hmeans : Means e.strength ((e.numbered options 0).sql schema) _ _ :=
    e.means_numbered hunmarked 0 (proper_of_parse hparse).1 hwell
  obtain ⟨c, hread, hatoms, hvalue⟩ := (hmeans.weaken e.one_le_strength).readFormula_eq
    (Expr.renders_numbered hunmarked e 0 hwell)
  refine ⟨c, hread, hatoms, ?_, fun truth => hvalue truth 0⟩
  rw [Expr.atoms_numbered]
  exact forall₂_gather (fun k r hr => r.askedBy_numbered options k (hwell r hr).1) 0

/-- The parentheses of the filter and those around its conjunction are both minded. -/
theorem Predicate.formula_of_nested_alternatives :
    let e : Expr := .or [.and [.missing ⟨["a"]⟩,
      .paren (.or [.has ⟨["b"]⟩, .compare ⟨["c"]⟩ .eq (.bool true)])], .has ⟨["d", "e"]⟩]
    ∃ f c, parse "not a and ( b or c == true ) or d -> e" = .ok e ∧ compileExpr {} e = .ok f ∧
      Sql.readFormula (Sql.text (f.predicate.sql "public")) = some c ∧
      c.atoms = f.predicate.atoms.map (fun p => Sql.text (p.sql "public")) ∧
      f.predicate.atoms.length = 4 ∧
      ∀ truth, c.evalFrom truth 0 = (!truth 0 && (truth 1 || truth 2) || truth 3) := by
  intro e
  have hproper : e.Proper := by
    simp [e, Expr.Proper, Expr.AllProper, Expr.isOr, Expr.isAnd, Path.Proper, Literal.Proper,
      IsName, Reading.isNameStart]
  have hparse : parse "not a and ( b or c == true ) or d -> e" = .ok e := by
    have htext : e.canonicalText = "not a and ( b or c == true ) or d -> e" := by decide
    exact htext ▸ parse_canonicalText hproper (by decide)
  have hschema : Sql.isIdentifier "public" := by decide
  obtain ⟨f, hf⟩ : ∃ f, compileExpr {} e = .ok f := ⟨_, rfl⟩
  obtain ⟨c, hread, hatoms, hasked, hvalue⟩ := formula_of_parse hschema hparse hf
  refine ⟨f, c, hparse, hf, hread, hatoms, hasked.length_eq.symm, fun truth => ?_⟩
  rw [hvalue]
  simp [e, Expr.evalFrom, Expr.anyFrom, Expr.allFrom, Expr.references, Expr.referencesOfAll]

end EntityFilter
