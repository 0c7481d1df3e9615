import EntityFilter.Proofs.Query.Outline

/-!
# Both kinds of quotes

A statement may have literals between single quotes and identifiers between double quotes.  A scan
with both kinds of quotes tells what stands between the quotes of each kind (`Sql.Item.contentsIn`)
and what stands outside of them (`Sql.Item.skeleton`).

**A legible text is scanned into its pieces** (`Sql.Legible.scan_eq`), if its quoted pieces are kept
apart and there are no quotes in its fixed text.
-/

namespace EntityFilter

open Sql.Piece (code literal identifier)

namespace Sql

/-- The quotes of literals and of identifiers. -/
abbrev bothQuotes : List Char :=
  ['\'', '"']

/-- The contents between quotes of one kind. -/
def Item.contentsIn (quote : Char) (is : List Item) : List String :=
  is.filterMap fun
    | .char _           => none
    | .quoted q content => if q = quote then some (String.ofList content) else none

/-- The piece with nothing between its quotes. -/
def Piece.emptied : Piece → Piece
  | .code t       => .code t
  | .literal _    => .literal ""
  | .identifier _ => .identifier ""

/-- The content of a piece in single quotes. -/
def Piece.literal? : Piece → Option String
  | .literal t => some t
  | _          => none

/-- The content of a piece in double quotes. -/
def Piece.identifier? : Piece → Option String
  | .identifier t => some t
  | _             => none

theorem contentsIn_append (quote : Char) (is js : List Item) :
    Item.contentsIn quote (is ++ js) = Item.contentsIn quote is ++ Item.contentsIn quote js :=
  List.filterMap_append

/-- Pieces are found between the quotes of their kind. -/
theorem contentsIn_items {quote : Char} {f : Piece → Option String} (ps : List Piece)
    (h : ∀ p, Item.contentsIn quote (p.items bothQuotes) = (f p).toList) :
    Item.contentsIn quote (items bothQuotes ps) = ps.filterMap f := by
  induction ps with
  | nil => rfl
  | cons p ps ih =>
      rw [items_cons, contentsIn_append, ih, h, List.filterMap_cons]
      cases f p <;> rfl

theorem contentsIn_literals (ps : List Piece) :
    Item.contentsIn '\'' (items bothQuotes ps) = ps.filterMap Piece.literal? := by
  refine contentsIn_items ps fun p => ?_
  cases p <;>
    simp [Item.contentsIn, Piece.items, Piece.quote?, Piece.content, Piece.text, Piece.literal?]

theorem contentsIn_identifiers (ps : List Piece) :
    Item.contentsIn '"' (items bothQuotes ps) = ps.filterMap Piece.identifier? := by
  refine contentsIn_items ps fun p => ?_
  cases p <;>
    simp [Item.contentsIn, Piece.items, Piece.quote?, Piece.content, Piece.text, Piece.identifier?]

/-- Outside quotes stands what is left of the pieces without their contents. -/
theorem skeleton_emptied (ps : List Piece) :
    Item.skeleton (items bothQuotes ps) = items bothQuotes (ps.map Piece.emptied) := by
  induction ps with
  | nil => rfl
  | cons p ps ih =>
      rw [items_cons, skeleton_append, ih]
      cases p with
      | code t => exact congrArg (· ++ _) (skeleton_map_char _)
      | literal t | identifier t => rfl

/-- A quote of either kind. -/
def isQuote (c : Char) : Bool :=
  c == '\'' || c == '"'

/-- The quotes in the fixed text of pieces. -/
def stray (ps : List Piece) : List Char :=
  ps.flatMap fun
    | .code t => t.toList.filter isQuote
    | _       => []

@[simp] theorem stray_nil : stray [] = [] := rfl

@[simp] theorem stray_code_cons (t : String) (ps : List Piece) :
    stray (code t :: ps) = t.toList.filter isQuote ++ stray ps := rfl

@[simp] theorem stray_literal_cons (t : String) (ps : List Piece) :
    stray (literal t :: ps) = stray ps := rfl

@[simp] theorem stray_identifier_cons (t : String) (ps : List Piece) :
    stray (identifier t :: ps) = stray ps := rfl

theorem stray_append (ps qs : List Piece) : stray (ps ++ qs) = stray ps ++ stray qs :=
  List.flatMap_append

/-- Quotes outside of quotes stand in fixed text. -/
theorem mem_stray {ps : List Piece} {quote : Char} (hquote : quote ∈ bothQuotes)
    (h : .char quote ∈ items bothQuotes ps) : quote ∈ stray ps := by
  obtain ⟨p, hp, hmem⟩ := List.mem_flatMap.mp h
  refine List.mem_flatMap.mpr ⟨p, hp, ?_⟩
  cases p with
  | code t =>
      have ht : quote ∈ t.toList := by
        simpa [Piece.items, Piece.quote?, Piece.text] using hmem
      refine List.mem_filter.mpr ⟨ht, ?_⟩
      simpa [isQuote] using hquote
  | literal t | identifier t => simp [Piece.items, Piece.quote?] at hmem

/-- Quoted pieces are kept apart, and there are no other quotes. -/
structure Legible (free : Bool) (ps : List Piece) : Prop where
  spaced : Spaced bothQuotes free ps
  unquoted : stray ps = []

/-- A text without quotes. -/
abbrev Unquoted (t : String) : Prop :=
  t.toList.filter isQuote = []

theorem unquoted_of_all {t : String} {p : Char → Bool} (h : ∀ c ∈ t.toList, p c)
    (hp : bothQuotes.all fun c => !p c) : Unquoted t := by
  rw [Unquoted, List.filter_eq_nil_iff]
  intro c hc hquote
  have hother := List.all_eq_true.mp hp c (by simpa [isQuote] using hquote)
  simp [h c hc] at hother

@[simp] theorem unquoted_natural (n : Nat) : Unquoted (Text.natural n) :=
  unquoted_of_all (char_natural n) (by decide)

theorem unquoted_of_isIdentifier {t : String} (h : isIdentifier t) : Unquoted t :=
  unquoted_of_all (p := fun c => c.isAlphanum || c == '_') (char_isIdentifier h) (by decide)

namespace Legible

variable {free : Bool} {ps qs : List Piece}

theorem nil (free : Bool) : Legible free [] := ⟨trivial, rfl⟩

theorem append (h₁ : Legible free ps) (h₂ : Legible false qs) : Legible free (ps ++ qs) := by
  refine ⟨spaced_append h₁.spaced h₂.spaced, ?_⟩
  rw [stray_append, h₁.unquoted, h₂.unquoted, List.append_nil]

theorem flatMap {α : Type} {f : α → List Piece} {as : List α} (h : ∀ a ∈ as, Legible false (f a)) :
    Legible false (as.flatMap f) := by
  induction as with
  | nil => exact nil false
  | cons a as ih =>
      obtain ⟨ha, has⟩ := List.forall_mem_cons.mp h
      exact ha.append (ih has)

/-- **A legible text is scanned into its pieces.** -/
theorem scan_eq (h : Legible true ps) : scan bothQuotes (text ps) = some (items bothQuotes ps) := by
  refine scan_text h.spaced fun quote hquote hmem => ?_
  have hstray := mem_stray hquote hmem
  rw [h.unquoted] at hstray
  cases hstray

end Legible

theorem between_eq_intercalate (separator : List Piece) (entries : List (List Piece)) :
    between separator entries = separator.intercalate entries := by
  induction entries with
  | nil => rfl
  | cons first others ih =>
      cases others with
      | nil => simp [between, List.intercalate]
      | cons next others =>
          rw [List.intercalate_cons_cons, ← ih]
          rfl

end Sql

end EntityFilter
