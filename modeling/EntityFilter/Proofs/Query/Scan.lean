import EntityFilter.Query.Sql

/-!
# Scanning SQL texts

A reader of a text in SQL has to tell what stands between quotes from what stands outside them.
`Sql.scan` does so one character at a time, knowing nothing of how the text came about: a quote
opens a part that lasts up to the next quote of its kind, where a doubled quote stands for a quote
in the content.

**A text that is put together from pieces is scanned into these pieces** (`Sql.scan_text`), provided
that fixed text has no quotes and that no two quoted pieces touch (`Sql.Spaced`).
-/

namespace EntityFilter

namespace Sql

/-- What a scan finds: a character outside quotes, or the content between two quotes. -/
inductive Item
  | char (c : Char)
  | quoted (quote : Char) (content : List Char)
deriving DecidableEq, Repr

/-- Where a scan stands. -/
inductive ScanState
  | outside
  /-- Behind a quote, with the content so far. -/
  | inside (quote : Char) (content : List Char)
  /-- Behind a second quote, which closes the content unless a third one follows. -/
  | closing (quote : Char) (content : List Char)

/-- The scan of a text that follows; nothing if it ends inside quotes. -/
def scanFrom (quotes : List Char) : ScanState → List Char → Option (List Item)
  | .outside, []               => some []
  | .inside _ _, []            => none
  | .closing quote content, [] => some [.quoted quote content]
  | .outside, c :: rest        =>
    if c ∈ quotes then scanFrom quotes (.inside c []) rest
    else (scanFrom quotes .outside rest).map (.char c :: ·)
  | .inside quote content, c :: rest =>
    if c = quote then scanFrom quotes (.closing quote content) rest
    else scanFrom quotes (.inside quote (content ++ [c])) rest
  | .closing quote content, c :: rest =>
    if c = quote then scanFrom quotes (.inside quote (content ++ [c])) rest
    else if c ∈ quotes then
      (scanFrom quotes (.inside c []) rest).map (.quoted quote content :: ·)
    else (scanFrom quotes .outside rest).map fun items =>
      .quoted quote content :: .char c :: items

/-- The scan of a text in which these characters are quotes. -/
def scan (quotes : List Char) (text : String) : Option (List Item) :=
  scanFrom quotes .outside text.toList

/-- The contents between quotes. -/
def Item.contents (items : List Item) : List String :=
  items.filterMap fun
    | .char _           => none
    | .quoted _ content => some (String.ofList content)

/-- What is left of the items without the contents between quotes. -/
def Item.skeleton (items : List Item) : List Item :=
  items.map fun
    | .char c         => .char c
    | .quoted quote _ => .quoted quote []

example : scan ['\''] "a = 'it''s' OR b" =
    some ("a = ".toList.map .char ++ [.quoted '\'' "it's".toList] ++ " OR b".toList.map .char) := by
  decide

example : scan ['\''] "a = 'it''" = none := by decide

/-! ### Pieces -/

/-- The quotes around a piece, if they are among `quotes`. -/
def Piece.quote? (quotes : List Char) : Piece → Option Char
  | code _       => none
  | literal _    => if '\'' ∈ quotes then some '\'' else none
  | identifier _ => if '"' ∈ quotes then some '"' else none

/-- What stands between the quotes of a piece. -/
def Piece.content : Piece → String
  | code text | literal text | identifier text => text

/-- What a scan finds of a piece. -/
def Piece.items (quotes : List Char) (p : Piece) : List Item :=
  match p.quote? quotes with
  | some quote => [.quoted quote p.content.toList]
  | none       => p.text.toList.map .char

/-- What a scan finds of pieces. -/
def items (quotes : List Char) (pieces : List Piece) : List Item :=
  pieces.flatMap (Piece.items quotes)

theorem items_cons (quotes : List Char) (p : Piece) (ps : List Piece) :
    items quotes (p :: ps) = p.items quotes ++ items quotes ps :=
  List.flatMap_cons

theorem items_append (quotes : List Char) (ps qs : List Piece) :
    items quotes (ps ++ qs) = items quotes ps ++ items quotes qs :=
  List.flatMap_append

/-- No quoted piece touches another; the first piece may be quoted only if it is `free` to be. -/
def Spaced (quotes : List Char) : Bool → List Piece → Prop
  | _, []           => True
  | free, p :: rest =>
    match p.quote? quotes with
    | some _ => free ∧ Spaced quotes false rest
    | none   => p.text ≠ "" ∧ Spaced quotes true rest

variable {quotes : List Char}

theorem Spaced.of_false {free : Bool} {ps : List Piece} (h : Spaced quotes false ps) :
    Spaced quotes free ps := by
  cases ps with
  | nil => trivial
  | cons p rest =>
      rw [Spaced] at h ⊢
      split at h
      · cases h.1
      · exact h

theorem spaced_append {free : Bool} {ps qs : List Piece} (hp : Spaced quotes free ps)
    (hq : Spaced quotes false qs) : Spaced quotes free (ps ++ qs) := by
  induction ps generalizing free with
  | nil => exact hq.of_false
  | cons p rest ih =>
      rw [List.cons_append, Spaced] at *
      split at hp
      · exact ⟨hp.1, ih hp.2⟩
      · exact ⟨hp.1, ih hp.2⟩

/-! ### The scan of pieces -/

theorem text_append (ps qs : List Piece) : text (ps ++ qs) = text ps ++ text qs := by
  induction ps with
  | nil => simp [text]
  | cons p ps ih => rw [List.cons_append, text, text, ih, String.append_assoc]

theorem toList_text_cons (p : Piece) (rest : List Piece) :
    (text (p :: rest)).toList = p.text.toList ++ (text rest).toList := by
  rw [text, String.toList_append]

theorem scanFrom_outside_append {word rest : List Char} (h : ∀ c ∈ word, c ∉ quotes) :
    scanFrom quotes .outside (word ++ rest) =
      (scanFrom quotes .outside rest).map (word.map .char ++ ·) := by
  induction word with
  | nil => simp
  | cons c word ih =>
      obtain ⟨hc, hword⟩ := List.forall_mem_cons.mp h
      simp [scanFrom, hc, ih hword, Function.comp_def]

/-- Behind a closed content, text that does not start with a quote is scanned as outside. -/
theorem scanFrom_closing {quote c : Char} {content rest : List Char} (hq : quote ∈ quotes)
    (hc : c ∉ quotes) :
    scanFrom quotes (.closing quote content) (c :: rest) =
      (scanFrom quotes .outside (c :: rest)).map (.quoted quote content :: ·) := by
  have hne : c ≠ quote := fun h => hc (h ▸ hq)
  simp [scanFrom, hc, hne, Function.comp_def]

/-- A content with doubled quotes is read back. -/
theorem scanFrom_inside {quote : Char} (word content rest : List Char) :
    scanFrom quotes (.inside quote content)
        (word.flatMap (fun c => if c = quote then [c, c] else [c]) ++ quote :: rest) =
      scanFrom quotes (.closing quote (content ++ word)) rest := by
  induction word generalizing content with
  | nil => simp [scanFrom]
  | cons c word ih =>
      by_cases h : c = quote
      · simp [scanFrom, h, ih]
      · simp [scanFrom, h, ih]

theorem scanFrom_quoted {quote : Char} (hq : quote ∈ quotes) (content : String) (rest : List Char) :
    scanFrom quotes .outside ((quoted quote content).toList ++ rest) =
      scanFrom quotes (.closing quote content.toList) rest := by
  simpa [quoted, scanFrom, hq] using scanFrom_inside content.toList [] rest

theorem Piece.text_of_quote? {p : Piece} {quote : Char} (h : p.quote? quotes = some quote) :
    quote ∈ quotes ∧ p.text = quoted quote p.content := by
  cases p with
  | code t => cases h
  | literal t | identifier t =>
      rw [quote?] at h
      split at h
      · obtain rfl := Option.some.inj h
        exact ⟨‹_›, rfl⟩
      · cases h

/-- From outside quotes, or behind a closed content, pieces are scanned into their items. -/
theorem scanFrom_text {ps : List Piece} (hfree : ∀ quote ∈ quotes, .char quote ∉ items quotes ps) :
    (Spaced quotes true ps → scanFrom quotes .outside (text ps).toList = some (items quotes ps)) ∧
    (Spaced quotes false ps → ∀ quote ∈ quotes, ∀ content,
      scanFrom quotes (.closing quote content) (text ps).toList =
        some (.quoted quote content :: items quotes ps)) := by
  induction ps with
  | nil => exact ⟨fun _ => rfl, fun _ _ _ _ => rfl⟩
  | cons p rest ih =>
      simp only [items_cons, List.mem_append, not_or] at hfree
      obtain ⟨ihOutside, ihClosing⟩ := ih fun quote hmem => (hfree quote hmem).2
      simp only [toList_text_cons, items_cons, Piece.items, Spaced] at hfree ⊢
      cases hquote : p.quote? quotes with
      | some quote =>
          -- a quoted piece right behind a closed content would go on with that content
          obtain ⟨hmem, htext⟩ := Piece.text_of_quote? hquote
          refine ⟨fun h => ?_, fun h => by cases h.1⟩
          rw [htext, scanFrom_quoted hmem]
          exact ihClosing h.2 quote hmem _
      | none =>
          have hplain : ∀ c ∈ p.text.toList, c ∉ quotes := fun c hc hmem =>
            (hfree c hmem).1 (by rw [hquote]; exact List.mem_map_of_mem hc)
          have houtside : Spaced quotes true rest →
              scanFrom quotes .outside (p.text.toList ++ (text rest).toList) =
                some (p.text.toList.map .char ++ items quotes rest) := fun h => by
            rw [scanFrom_outside_append hplain, ihOutside h, Option.map_some]
          refine ⟨fun h => houtside h.2, fun h quote hmem content => ?_⟩
          -- the piece is not empty, and its first character shows that the content was closed
          obtain ⟨c, word, hword⟩ := List.exists_cons_of_ne_nil
            (show p.text.toList ≠ [] by simpa using h.1)
          have hscan := houtside h.2
          rw [hword, List.cons_append] at hscan ⊢
          rw [scanFrom_closing hmem (hplain c (by simp [hword])), hscan]
          rfl

/-- **The scan of a text finds the pieces that it is put together from.** -/
theorem scan_text {ps : List Piece} (hspaced : Spaced quotes true ps)
    (hfree : ∀ quote ∈ quotes, .char quote ∉ items quotes ps) :
    scan quotes (text ps) = some (items quotes ps) :=
  (scanFrom_text hfree).1 hspaced

/-! ### Skeletons -/

/-- The pieces, with nothing in their string literals. -/
def blank (ps : List Piece) : List Piece :=
  ps.map fun
    | .literal _ => .literal ""
    | p          => p

@[simp]
theorem blank_append (ps qs : List Piece) : blank (ps ++ qs) = blank ps ++ blank qs :=
  List.map_append

theorem skeleton_append (is js : List Item) :
    Item.skeleton (is ++ js) = Item.skeleton is ++ Item.skeleton js :=
  List.map_append

theorem skeleton_map_char (cs : List Char) : Item.skeleton (cs.map .char) = cs.map .char := by
  simp [Item.skeleton]

/-- Outside single quotes is what is left of the pieces without their string literals. -/
theorem skeleton_items (ps : List Piece) :
    Item.skeleton (items ['\''] ps) = items ['\''] (blank ps) := by
  induction ps with
  | nil => rfl
  | cons p ps ih =>
      rw [items_cons, skeleton_append, ih]
      cases p with
      | code t | identifier t =>
          exact congrArg (· ++ items ['\''] (blank ps)) (skeleton_map_char _)
      | literal t => rfl

end Sql

end EntityFilter
