import EntityFilter.Proofs.Filter.Alike
import EntityFilter.Proofs.Filter.Stability

/-!
# Layout and the letter case of keywords

The lexemes of a text are what the calls of a cursor take, one after the other, behind blanks
(`Cursor.lexemes`).  They can be laid out anew with other blanks (`Layout`), of which there is at
least one between two of them, and keywords can be written in other letter cases (`Recased`).

**Layout does not matter** (`tokenize_layout`).  The lexemes of a text in a new layout have the same
kinds of tokens and, keywords apart, the same values, and both texts are parsed to the same
expression or both are refused.
-/

namespace EntityFilter

open Text (StartsBlank)

/-! ### The lexemes of a text -/

namespace Cursor

/-- What the next call takes behind blanks. -/
def taken (c : Cursor) : List Char :=
  let text := c.rest.dropWhile Text.isBlank
  text.take (text.length - c.next.2.rest.length)

/-- What the first `n` calls take. -/
def lexemes (c : Cursor) : Nat → List (List Char)
  | 0     => []
  | n + 1 => c.taken :: c.next.2.lexemes n

/-- A call that finds a token takes its lexeme. -/
theorem taken_eq {c : Cursor} {first : Char} {rest : List Char} {kind : TokenKind} {value : String}
    {more : Nat} (hrest : c.skipBlanks.rest = first :: rest)
    (hread : Reading.of first rest = .token kind value more) :
    c.taken = (first :: rest).take (more + 1) ∧ c.next.2 = c.skipBlanks.advance (more + 1) := by
  have hnext : c.next.2 = c.skipBlanks.advance (more + 1) := by
    rw [next, hrest]
    simp only [hread]
  obtain ⟨hmore, -⟩ : (Reading.token kind value more).Covers (first :: rest) :=
    hread ▸ Reading.covers_of first rest
  refine ⟨?_, hnext⟩
  rw [taken, hnext, rest_advance, ← rest_skipBlanks, hrest, List.length_drop,
    Nat.sub_sub_self hmore]

/-- The lexemes of a text read as its tokens. -/
theorem reads_lexemes {c : Cursor} {s : TokenStream} (h : c.tokens = .ok s) :
    List.Forall₂ (fun t lexeme => Lexeme.Reads ⟨t.kind, t.value, lexeme⟩) s.tokens
      (c.lexemes s.tokens.length) := by
  fun_induction Cursor.tokens c generalizing s with
  | case1 c hnil =>
      obtain rfl := Except.ok.inj h
      exact .nil
  | case2 c first rest hrest kind value more hread ih =>
      cases hlater : (c.skipBlanks.advance (more + 1)).tokens with
      | error e => rw [hlater] at h; cases h
      | ok later =>
          rw [hlater] at h
          obtain rfl := Except.ok.inj h
          obtain ⟨htaken, hnext⟩ := taken_eq hrest hread
          have hsettled : Lexeme.Reads ⟨kind, value, (first :: rest).take (more + 1)⟩ := by
            have := Reading.settled_of first rest
            rwa [hread] at this
          refine .cons ?_ ?_
          · rwa [htaken]
          · rw [hnext]
            exact ih hlater
  | case3 c first rest hrest cause taken hread => cases h

end Cursor

/-! ### The letter case of keywords -/

/-- The keywords in small letters. -/
def keywordTexts : List (List Char) :=
  [['a', 'n', 'd'], ['o', 'r'], ['n', 'o', 't'], ['i', 'n']]

/-- `other` is the same lexeme, or the same keyword in another letter case. -/
def Recased (lexeme other : List Char) : Prop :=
  other = lexeme ∨
    lexeme.map Char.toLower ∈ keywordTexts ∧ other.map Char.toLower = lexeme.map Char.toLower

namespace Reading

theorem isAlpha_of_keyword {text : List Char} (h : text.map Char.toLower ∈ keywordTexts) :
    text ≠ [] ∧ ∀ c ∈ text, c.isAlpha := by
  have hletters : ∀ keyword ∈ keywordTexts, keyword ≠ [] ∧ ∀ c ∈ keyword, c.isAlpha := by
    simp [keywordTexts]
  obtain ⟨hne, halpha⟩ := hletters _ h
  refine ⟨fun hnil => hne (by rw [hnil, List.map_nil]), fun c hc => ?_⟩
  rw [← Char.isAlpha_toLower_eq_isAlpha]
  exact halpha _ (List.mem_map_of_mem hc)

/-- A keyword is one in every letter case. -/
theorem wordKind_of_keyword {text other : List Char} (h : text.map Char.toLower ∈ keywordTexts)
    (hother : other.map Char.toLower = text.map Char.toLower) :
    wordKind (String.ofList other) = wordKind (String.ofList text) ∧
      (wordKind (String.ofList text)).isKeyword := by
  rw [wordKind, wordKind, String.toList_ofList, String.toList_ofList, hother]
  simp only [keywordTexts, List.mem_cons, List.not_mem_nil, or_false] at h
  rcases h with h | h | h | h
  · rw [h]; exact ⟨rfl, rfl⟩
  · rw [h]; exact ⟨rfl, rfl⟩
  · rw [h]; exact ⟨rfl, rfl⟩
  · rw [h]; exact ⟨rfl, rfl⟩

/-- Letters read as a word. -/
theorem reads_letters {text : List Char} (hne : text ≠ []) (h : ∀ c ∈ text, c.isAlpha) :
    Lexeme.Reads ⟨wordKind (String.ofList text), String.ofList text, text⟩ := by
  obtain ⟨c, more, rfl⟩ := List.exists_cons_of_ne_nil hne
  have hstart : ∀ d ∈ c :: more, isNameStart d := by
    intro d hd
    rw [isNameStart, h d hd, Bool.true_or]
  have hword : (String.ofList (c :: more)).toList = c :: more := String.toList_ofList
  have hreads := reads_word hword (hstart c List.mem_cons_self)
    fun d hd => isNamePart_of_isNameStart (hstart d (List.mem_cons_of_mem c hd))
  rwa [hword] at hreads

/-- A spelling reads as one token only. -/
theorem reads_unique {spelling : List Char} {kind kind' : TokenKind} {value value' : String}
    (h : Lexeme.Reads ⟨kind, value, spelling⟩) (h' : Lexeme.Reads ⟨kind', value', spelling⟩) :
    kind = kind' ∧ value = value' := by
  obtain ⟨c, more, hspelling, -, hread⟩ := h
  obtain ⟨c', more', hspelling', -, hread'⟩ := h'
  obtain ⟨rfl, rfl⟩ := List.cons.inj (hspelling.symm.trans hspelling')
  have hsame := (hread [] nofun).symm.trans (hread' [] nofun)
  obtain ⟨hkind, hvalue, -⟩ := token.inj hsame
  exact ⟨hkind, hvalue⟩

/-- A lexeme in another letter case reads as a token of the same kind, and of the same value if it
is no keyword. -/
theorem reads_recased {kind : TokenKind} {value : String} {lexeme other : List Char}
    (h : Lexeme.Reads ⟨kind, value, lexeme⟩) (hcase : Recased lexeme other) :
    ∃ value', Lexeme.Reads ⟨kind, value', other⟩ ∧ (kind.isKeyword = false → value' = value) := by
  rcases hcase with rfl | ⟨hkeyword, hother⟩
  · exact ⟨value, h, fun _ => rfl⟩
  · obtain ⟨hne, halpha⟩ := isAlpha_of_keyword hkeyword
    obtain ⟨hne', halpha'⟩ := isAlpha_of_keyword (hother ▸ hkeyword)
    obtain ⟨hkind, hiskeyword⟩ := wordKind_of_keyword hkeyword hother
    obtain ⟨rfl, -⟩ := reads_unique h (reads_letters hne halpha)
    refine ⟨String.ofList other, hkind ▸ reads_letters hne' halpha', fun hno => ?_⟩
    rw [hiskeyword] at hno
    cases hno

end Reading

/-! ### Layouts -/

/-- Blanks for lexemes: some in front, and some behind each lexeme, which are not missing between
two of them. -/
structure Layout (lexemes : List (List Char)) where
  front : List Char
  gaps : List (List Char)
  length_eq : gaps.length = lexemes.length
  blank : ∀ gap ∈ front :: gaps, ∀ c ∈ gap, Text.isBlank c
  apart : ∀ gap ∈ gaps.dropLast, gap ≠ []

/-- The lexemes in this layout. -/
def Layout.text {lexemes : List (List Char)} (l : Layout lexemes) : String :=
  String.ofList (l.front ++ (List.zipWith (· ++ ·) lexemes l.gaps).flatten)

/-- Lexemes with blanks behind each of them are laid out. -/
theorem laid_of_gaps {ls : List Lexeme} {front : List Char} {gaps : List (List Char)}
    (hlength : gaps.length = ls.length) (hblank : ∀ gap ∈ front :: gaps, ∀ c ∈ gap, Text.isBlank c)
    (hapart : ∀ gap ∈ gaps.dropLast, gap ≠ []) :
    Laid (front ++ (List.zipWith (· ++ ·) (ls.map Lexeme.spelling) gaps).flatten) ls := by
  induction ls generalizing front gaps with
  | nil =>
      rw [List.map_nil, List.zipWith_nil_left, List.flatten_nil, List.append_nil]
      exact .nil (hblank front List.mem_cons_self)
  | cons l ls ih =>
      cases gaps with
      | nil => cases hlength
      | cons gap gaps =>
          obtain ⟨hfront, hgaps⟩ := List.forall_mem_cons.mp hblank
          have hlength' : gaps.length = ls.length := Nat.succ.inj hlength
          have hlater := ih hlength' hgaps fun g hg => hapart g (by
            cases gaps with
            | nil => cases hg
            | cons _ _ => exact List.mem_cons_of_mem _ hg)
          have hstarts : StartsBlank
              (gap ++ (List.zipWith (· ++ ·) (ls.map Lexeme.spelling) gaps).flatten) := by
            intro c hc
            cases gap with
            | cons d gap =>
                obtain rfl := Option.some.inj hc
                exact hgaps _ List.mem_cons_self _ List.mem_cons_self
            | nil =>
                -- only the last lexeme may have no blank behind it
                cases gaps with
                | nil =>
                    rw [List.zipWith_nil_right] at hc
                    cases hc
                | cons g gaps => exact absurd rfl (hapart [] List.mem_cons_self)
          have hlaid : Laid (front ++ (l.spelling ++
              (gap ++ (List.zipWith (· ++ ·) (ls.map Lexeme.spelling) gaps).flatten))) (l :: ls) :=
            .cons hfront hstarts hlater
          rwa [List.map_cons, List.zipWith_cons_cons, List.flatten_cons, List.append_assoc]

/-- Lexemes in other letter cases, as tokens. -/
theorem exists_lexemes {tokens : List Token} {lexemes others : List (List Char)}
    (h : List.Forall₂ (fun t lexeme => Lexeme.Reads ⟨t.kind, t.value, lexeme⟩) tokens lexemes)
    (hcase : List.Forall₂ Recased lexemes others) :
    ∃ ls : List Lexeme, ls.map Lexeme.spelling = others ∧ (∀ l ∈ ls, l.Reads) ∧
      List.Forall₂ (fun (t : Token) (p : TokenKind × String) =>
        p.1 = t.kind ∧ (t.kind.isKeyword = false → p.2 = t.value)) tokens
        (ls.map fun l => (l.kind, l.value)) := by
  induction h generalizing others with
  | nil =>
      obtain rfl := List.forall₂_nil_left_iff.mp hcase
      exact ⟨[], rfl, nofun, .nil⟩
  | @cons t lexeme _ _ ht _ ih =>
      obtain ⟨other, others, hother, hothers, rfl⟩ := List.forall₂_cons_left_iff.mp hcase
      obtain ⟨value, hreads, hvalue⟩ := Reading.reads_recased ht hother
      obtain ⟨ls, rfl, hls, htokens⟩ := ih hothers
      exact ⟨⟨t.kind, value, other⟩ :: ls, rfl, List.forall_mem_cons.mpr ⟨hreads, hls⟩,
        .cons ⟨rfl, hvalue⟩ htokens⟩

/-- **Layout does not matter**, and neither does the letter case of keywords. -/
theorem tokenize_layout {text : String} {s : TokenStream} (hs : tokenize text = .ok s)
    {lexemes : List (List Char)}
    (hcase : List.Forall₂ Recased ((Cursor.start text).lexemes s.tokens.length) lexemes)
    (l : Layout lexemes) :
    (∃ s', tokenize l.text = .ok s' ∧ s.Alike s') ∧
      ∀ e, parse text = .ok e ↔ parse l.text = .ok e := by
  obtain ⟨ls, rfl, hls, htokens⟩ := exists_lexemes (Cursor.reads_lexemes hs) hcase
  have hlaid := laid_of_gaps (l.length_eq.trans (List.length_map _)) l.blank l.apart
  obtain ⟨s', hs', hspells⟩ := hlaid.tokens hls (Cursor.start l.text) String.toList_ofList
  have halike : s.Alike s' := by
    rw [← hspells, List.forall₂_map_right_iff] at htokens
    exact htokens.imp fun _ _ h => ⟨h.1, h.2⟩
  exact ⟨⟨s', hs', halike⟩, parse_eq_ok_iff_of_alike hs hs' halike⟩

set_option maxRecDepth 8000 in
/-- A list in its shortest layout, and with blanks of other kinds and a large keyword. -/
theorem tokenize_layout_list : ∃ s, tokenize "x in(1E3,@7)" = .ok s ∧
    (∃ s', tokenize "\t\u3000x iN\n( 1E3 , @7 )" = .ok s' ∧ s.Alike s') ∧
    ∀ e, parse "x in(1E3,@7)" = .ok e ↔ parse "\t\u3000x iN\n( 1E3 , @7 )" = .ok e := by
  have hs : tokenize "x in(1E3,@7)" = .ok ⟨[⟨.name, "x", ⟨1, 1⟩⟩, ⟨.member, "in", ⟨1, 3⟩⟩,
      ⟨.openParen, "(", ⟨1, 5⟩⟩, ⟨.number, "1e3", ⟨1, 6⟩⟩, ⟨.comma, ",", ⟨1, 9⟩⟩,
      ⟨.ref, "7", ⟨1, 10⟩⟩, ⟨.closeParen, ")", ⟨1, 12⟩⟩], ⟨1, 13⟩⟩ := by
    cbv
  have hlexemes : (Cursor.start "x in(1E3,@7)").lexemes 7 =
      [['x'], ['i', 'n'], ['('], ['1', 'E', '3'], [','], ['@', '7'], [')']] := by
    cbv
  have hcase : List.Forall₂ Recased ((Cursor.start "x in(1E3,@7)").lexemes 7)
      [['x'], ['i', 'N'], ['('], ['1', 'E', '3'], [','], ['@', '7'], [')']] := by
    rw [hlexemes]
    refine .cons (.inl rfl) (.cons (.inr ⟨by decide, rfl⟩) (.cons (.inl rfl) (.cons (.inl rfl) ?_)))
    exact .cons (.inl rfl) (.cons (.inl rfl) (.cons (.inl rfl) .nil))
  have hlayout := tokenize_layout hs hcase ⟨['\t', '\u3000'],
    [[' '], ['\n'], [' '], [' '], [' '], [' '], []], rfl,
    by simp [Text.isBlank, Text.inRanges, Text.blankRanges], by simp⟩
  exact ⟨_, hs, hlayout⟩

end EntityFilter
