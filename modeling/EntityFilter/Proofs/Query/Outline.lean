import EntityFilter.Proofs.Query.Scan

/-!
# The outlines of SQL texts

For quoting and nesting only a few characters matter: quotes and parentheses.  The outline of pieces
is what is left of their scan without all other characters (`Sql.outline`).

Well rendered pieces (`Sql.Renders`) keep their quoted pieces apart, have quotes nowhere else, and
close no parenthesis that they did not open, except for as many levels as they say.  Such pieces can
be put in a row (`Sql.Renders.append`), which is how larger texts are shown to be well rendered.
-/

namespace EntityFilter

namespace Sql

open Piece (code literal identifier)

/-! ### Outlines -/

/-- A character that matters for quoting or nesting. -/
def isMark (c : Char) : Bool :=
  c == '\'' || c == '(' || c == ')'

/-- An item that matters for quoting or nesting. -/
def Item.isMark : Item → Bool
  | .char c     => Sql.isMark c
  | .quoted _ _ => true

/-- A string literal. -/
def Item.literal (text : String) : Item :=
  .quoted '\'' text.toList

/-- The marks in a text. -/
def marks (text : String) : List Item :=
  (text.toList.filter isMark).map .char

/-- The marks and the literals among pieces. -/
def outline (ps : List Piece) : List Item :=
  (items ['\''] ps).filter Item.isMark

/-- A text has no marks. -/
abbrev Unmarked (text : String) : Prop :=
  text.toList.filter isMark = []

theorem unmarked_append {s t : String} (hs : Unmarked s) (ht : Unmarked t) : Unmarked (s ++ t) := by
  rw [Unmarked, String.toList_append, List.filter_append, hs, ht, List.append_nil]

/-- A text of other characters has no marks. -/
theorem unmarked_of_all {text : String} {p : Char → Bool} (h : ∀ c ∈ text.toList, p c)
    (hp : ['\'', '(', ')'].all fun c => !p c) : Unmarked text := by
  rw [Unmarked, List.filter_eq_nil_iff]
  intro c hc hmark
  have hother := List.all_eq_true.mp hp c (by simpa [isMark, or_assoc] using hmark)
  simp [h c hc] at hother

theorem char_natural (n : Nat) : ∀ c ∈ (Text.natural n).toList, c.isDigit := by
  intro c hc
  rw [Text.natural, String.toList_ofList] at hc
  exact Nat.isDigit_of_mem_toDigits (b := 10) (by decide) (by decide) hc

theorem char_integer (n : Int) : ∀ c ∈ (Text.integer n).toList, c.isDigit || c == '-' := by
  intro c hc
  cases n with
  | ofNat n => rw [char_natural n c hc, Bool.true_or]
  | negSucc n =>
      rcases List.mem_cons.mp (by simpa [Text.integer] using hc) with rfl | hc
      · rfl
      · rw [char_natural _ c hc, Bool.true_or]

theorem char_isIdentifier {text : String} (h : isIdentifier text) :
    ∀ c ∈ text.toList, c.isAlphanum || c == '_' := by
  intro c hc
  rw [isIdentifier] at h
  split at h
  · simp_all
  · rename_i first rest htext
    simp only [Bool.and_eq_true, List.all_eq_true] at h
    rw [htext] at hc
    rcases List.mem_cons.mp hc with rfl | hc
    · simpa [Char.isAlphanum, or_assoc] using Or.imp_left Or.inl (by simpa using h.1.1)
    · exact h.1.2 c hc

@[simp]
theorem unmarked_natural (n : Nat) : Unmarked (Text.natural n) :=
  unmarked_of_all (char_natural n) (by decide)

@[simp]
theorem unmarked_integer (n : Int) : Unmarked (Text.integer n) :=
  unmarked_of_all (p := fun c => c.isDigit || c == '-') (char_integer n) (by decide)

theorem unmarked_of_isIdentifier {text : String} (h : isIdentifier text) : Unmarked text :=
  unmarked_of_all (p := fun c => c.isAlphanum || c == '_') (char_isIdentifier h) (by decide)

/-! ### Outlines of pieces in a row -/

@[simp]
theorem outline_nil : outline [] = [] := rfl

@[simp]
theorem outline_append (ps qs : List Piece) : outline (ps ++ qs) = outline ps ++ outline qs := by
  simp [outline, items_append]

theorem filter_map_char (cs : List Char) :
    (cs.map Item.char).filter Item.isMark = (cs.filter isMark).map .char := by
  simp [List.filter_map, Function.comp_def, Item.isMark]

@[simp]
theorem outline_code_cons (t : String) (ps : List Piece) :
    outline (code t :: ps) = marks t ++ outline ps := by
  rw [outline, items_cons, List.filter_append]
  exact congrArg (· ++ outline ps) (filter_map_char _)

@[simp]
theorem outline_identifier_cons (t : String) (ps : List Piece) :
    outline (identifier t :: ps) = marks (quoteIdentifier t) ++ outline ps := by
  rw [outline, items_cons, List.filter_append]
  exact congrArg (· ++ outline ps) (filter_map_char _)

@[simp]
theorem outline_literal_cons (t : String) (ps : List Piece) :
    outline (literal t :: ps) = .literal t :: outline ps := rfl

/-! ### Levels -/

/-- Marks that lead from one level of parentheses to another, with literals among them. -/
inductive Nests : Nat → Nat → List Item → List String → Prop
  | nil (m : Nat) : Nests m m [] []
  | literal {m n : Nat} {is : List Item} {ls : List String} (t : String) (h : Nests m n is ls) :
      Nests m n (.literal t :: is) (t :: ls)
  | opening {m n : Nat} {is : List Item} {ls : List String} (h : Nests (m + 1) n is ls) :
      Nests m n (.char '(' :: is) ls
  | closing {m n : Nat} {is : List Item} {ls : List String} (h : Nests m n is ls) :
      Nests (m + 1) n (.char ')' :: is) ls

namespace Nests

variable {m n k : Nat} {is js : List Item} {ls ks : List String}

theorem append (h₁ : Nests m n is ls) (h₂ : Nests n k js ks) :
    Nests m k (is ++ js) (ls ++ ks) := by
  induction h₁ with
  | nil => exact h₂
  | literal t _ ih => exact .literal t (ih h₂)
  | opening _ ih => exact .opening (ih h₂)
  | closing _ ih => exact .closing (ih h₂)

theorem char_quote_notMem (h : Nests m n is ls) : .char '\'' ∉ is := by
  induction h with
  | nil => simp
  | literal t _ ih => simpa [Item.literal] using ih
  | opening _ ih | closing _ ih => simpa using ih

theorem contents_eq (h : Nests m n is ls) : Item.contents is = ls := by
  induction h with
  | nil => rfl
  | literal t _ ih => simpa [Item.contents, Item.literal] using ih
  | opening _ ih | closing _ ih => exact ih

end Nests

/-- The pieces are well rendered: from one level of parentheses to another, and with these
literals. -/
structure Renders (free : Bool) (m n : Nat) (ps : List Piece) (ls : List String) : Prop where
  spaced : Spaced ['\''] free ps
  nests : Nests m n (outline ps) ls

namespace Renders

variable {free : Bool} {m n k : Nat} {ps qs : List Piece} {ls ks : List String}

theorem nil (free : Bool) (m : Nat) : Renders free m m [] [] :=
  ⟨trivial, .nil m⟩

theorem of_false (h : Renders false m n ps ls) : Renders free m n ps ls :=
  ⟨h.spaced.of_false, h.nests⟩

theorem append (h₁ : Renders free m n ps ls) (h₂ : Renders false n k qs ks) :
    Renders free m k (ps ++ qs) (ls ++ ks) :=
  ⟨spaced_append h₁.spaced h₂.spaced, by rw [outline_append]; exact h₁.nests.append h₂.nests⟩

/-- Text without marks. -/
theorem unmarked {t : String} (ht : t ≠ "") (hmarks : Unmarked t) :
    Renders free m m [code t] [] :=
  ⟨⟨ht, trivial⟩, by rw [outline_code_cons, marks, hmarks]; exact .nil m⟩

/-- Fixed text in front, behind which a literal may follow. -/
theorem code_cons {t : String} (ht : t ≠ "") (hmarks : Nests m n (marks t) [])
    (h : Renders true n k ps ls) : Renders free m k (code t :: ps) ls :=
  ⟨⟨ht, h.spaced⟩, by rw [outline_code_cons]; exact hmarks.append h.nests⟩

/-- Fixed text that leads from one level to another. -/
theorem fixed {t : String} (ht : t ≠ "") (hmarks : Nests m n (marks t) []) :
    Renders free m n [code t] [] :=
  code_cons ht hmarks (.nil true n)

/-- The end of a group. -/
theorem close : Renders free (m + 1) m [code ")"] [] :=
  .fixed (by decide) (.closing (.nil m))

/-- A group of pieces behind fixed text that ends in a parenthesis. -/
theorem group {t : String} (ht : t ≠ "") (hmarks : marks t = [.char '('])
    (h : Renders true (m + 1) (m + 1) ps ls) :
    Renders free m m ([code t] ++ ps ++ [code ")"]) ls := by
  have hopen : Nests m (m + 1) (marks t) [] := hmarks ▸ .opening (.nil (m + 1))
  have hgroup : Renders free m m (code t :: (ps ++ [code ")"])) (ls ++ []) :=
    code_cons ht hopen (h.append close)
  rwa [List.append_nil] at hgroup

/-- A literal, behind which fixed text follows. -/
theorem literal_cons (t : String) (h : Renders false m n ps ls) :
    Renders true m n (literal t :: ps) (t :: ls) :=
  ⟨⟨rfl, h.spaced⟩, .literal t h.nests⟩

theorem between {separator : String} (hne : separator ≠ "") (hseparator : Unmarked separator)
    {α : Type} {f : α → List Piece} {g : α → List String} {as : List α}
    (h : ∀ a ∈ as, Renders true m m (f a) (g a)) :
    Renders true m m (Sql.between [code separator] (as.map f)) (as.flatMap g) := by
  induction as with
  | nil => exact .nil true m
  | cons a as ih =>
      obtain ⟨ha, has⟩ := List.forall_mem_cons.mp h
      cases as with
      | nil => simpa [Sql.between] using ha
      | cons b as =>
          -- the separator keeps a literal at the end of `a` apart from one at the start of `b`
          have hrest : Renders false m m (code separator :: Sql.between [code separator]
              ((b :: as).map f)) ((b :: as).flatMap g) :=
            code_cons hne (by rw [marks, hseparator]; exact .nil m) (ih has)
          have := ha.append hrest
          simpa [Sql.between] using this

theorem flatMap {α : Type} {f : α → List Piece} {g : α → List String} {as : List α}
    (h : ∀ a ∈ as, Renders false m m (f a) (g a)) :
    Renders false m m (as.flatMap f) (as.flatMap g) := by
  induction as with
  | nil => exact .nil false m
  | cons a as ih =>
      obtain ⟨ha, has⟩ := List.forall_mem_cons.mp h
      exact ha.append (ih has)

/-- **The scan of well rendered pieces finds them.** -/
theorem scan_eq (h : Renders true m n ps ls) : scan ['\''] (text ps) = some (items ['\''] ps) := by
  refine scan_text h.spaced fun quote hquote hmem => ?_
  obtain rfl := List.mem_singleton.mp hquote
  exact h.nests.char_quote_notMem (List.mem_filter.mpr ⟨hmem, rfl⟩)

/-- **Their literals are what stands between quotes.** -/
theorem contents_eq (h : Renders free m n ps ls) : Item.contents (items ['\''] ps) = ls := by
  have hfilter : ∀ is : List Item, Item.contents (is.filter Item.isMark) = Item.contents is := by
    intro is
    rw [Item.contents, List.filterMap_filter]
    congr 1
    funext i
    cases i with
    | char c => split <;> rfl
    | quoted quote content => rfl
  rw [← h.nests.contents_eq, outline, hfilter]

end Renders

end Sql

end EntityFilter
