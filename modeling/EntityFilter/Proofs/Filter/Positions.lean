import Mathlib.Data.List.DropRight
import EntityFilter.Proofs.Filter.Lexemes
import EntityFilter.Proofs.Filter.Writing

/-!
# Tokens stand where their positions say

The position behind a text is told by the text alone (`Position.behind`): the lines are counted by
line feeds, and the columns by the characters behind the last of them.  `Written` relates tokens to
the text that they are read from, as blanks and lexemes in turns with each token at the position of
its lexeme.

One call of a cursor has three outcomes (`Cursor.Step`), and each takes some characters off the
front of the text and moves the position over just these.  So the cursor stays in step with the text
over any number of calls, and **reading a text loses nothing of it**
(`tokenize_lossless`): the tokens write the whole text up to its end, or up to the lexeme that the
error is about.
-/

namespace EntityFilter

namespace Position

/-- The position behind a text. -/
def behind (text : List Char) : Position :=
  ⟨1 + text.count '\n', 1 + (text.rtakeWhile (· != '\n')).length⟩

theorem behind_next (text : List Char) (c : Char) :
    (behind text).next c = behind (text ++ [c]) := by
  by_cases hc : c = '\n'
  · subst hc
    simp [behind, next, Nat.add_assoc]
  · simp [behind, next, hc, Nat.add_assoc]

theorem behind_after (text more : List Char) :
    (behind text).after more = behind (text ++ more) := by
  induction more generalizing text with
  | nil => rw [after_nil, List.append_nil]
  | cons c more ih => rw [after_cons, behind_next, ih, List.append_assoc, List.singleton_append]

end Position

/-- The text, which stands behind `before`, writes the tokens: each has its lexeme, with blanks in
front, at its position. -/
inductive Written : List Char → List Token → List Char → Prop
  | nil {before : List Char} : Written before [] []
  | cons {before gap lexeme text : List Char} {kind : TokenKind} {value : String}
      {tokens : List Token} (hgap : ∀ c ∈ gap, Text.isBlank c) (hlexeme : lexeme ≠ [])
      (hfirst : ∀ c ∈ lexeme.head?, ¬ Text.isBlank c)
      (hwrites : kind.Writes value.toList lexeme)
      (hlater : Written (before ++ (gap ++ lexeme)) tokens text) :
      Written before (⟨kind, value, .behind (before ++ gap)⟩ :: tokens) (gap ++ lexeme ++ text)

/-- Each token takes a character at least. -/
theorem Written.length_le {before text : List Char} {tokens : List Token}
    (h : Written before tokens text) : tokens.length ≤ text.length := by
  induction h with
  | nil => exact Nat.le_refl _
  | cons hgap hlexeme hfirst hwrites hlater ih =>
      have hpos := List.length_pos_iff.mpr hlexeme
      simp only [List.length_cons, List.length_append]
      omega

namespace Cursor

/-! ### One call -/

/-- The outcomes of a call: the end of the text behind blanks, a token behind blanks, or an error at
what stands behind blanks, of which some characters are passed. -/
inductive Step : Cursor → Except SyntaxError Token → Cursor → Prop
  | ends {gap : List Char} {p : Position} (hgap : ∀ c ∈ gap, Text.isBlank c) :
      Step ⟨gap, p⟩ (.ok ⟨.eof, "", p.after gap⟩) ⟨[], p.after gap⟩
  | token {gap lexeme rest : List Char} {p : Position} {kind : TokenKind} {value : String}
      (hgap : ∀ c ∈ gap, Text.isBlank c) (hlexeme : lexeme ≠ [])
      (hfirst : ∀ c ∈ lexeme.head?, ¬ Text.isBlank c)
      (hwrites : kind.Writes value.toList lexeme) :
      Step ⟨gap ++ lexeme ++ rest, p⟩ (.ok ⟨kind, value, p.after gap⟩)
        ⟨rest, p.after (gap ++ lexeme)⟩
  | fault {gap passed rest : List Char} {p : Position} {cause : SyntaxCause}
      (hgap : ∀ c ∈ gap, Text.isBlank c) (hne : passed ++ rest ≠ [])
      (hfirst : ∀ c ∈ (passed ++ rest).head?, ¬ Text.isBlank c) :
      Step ⟨gap ++ passed ++ rest, p⟩ (.error ⟨p.after gap, cause⟩) ⟨rest, p.after (gap ++ passed)⟩

/-- What is behind the blanks at a cursor. -/
theorem exists_gap (c : Cursor) : ∃ gap rest, c.rest = gap ++ rest ∧
    (∀ d ∈ gap, Text.isBlank d) ∧ (∀ d ∈ rest.head?, ¬ Text.isBlank d) ∧
    c.skipBlanks = ⟨rest, c.position.after gap⟩ := by
  refine ⟨c.rest.takeWhile Text.isBlank, c.rest.dropWhile Text.isBlank,
    List.takeWhile_append_dropWhile.symm, fun d => List.mem_takeWhile_imp, fun d hd => ?_, ?_⟩
  · have hstop := List.head?_dropWhile_not Text.isBlank c.rest
    rw [hd] at hstop
    simpa using hstop
  · have htake : c.rest.take (c.rest.takeWhile Text.isBlank).length =
        c.rest.takeWhile Text.isBlank :=
      (List.prefix_iff_eq_take.mp (List.takeWhile_prefix _)).symm
    rw [← rest_skipBlanks, ← htake]
    rfl

/-- A call has one of the outcomes. -/
theorem step_next (c : Cursor) : Step c c.next.1 c.next.2 := by
  obtain ⟨gap, rest, htext, hgap, hfirst, hskip⟩ := c.exists_gap
  obtain ⟨text, p⟩ := c
  dsimp only at htext hskip
  rw [next, hskip]
  cases rest with
  | nil =>
      rw [htext, List.append_nil]
      exact .ends hgap
  | cons first more =>
      have hcovers := Reading.covers_of first more
      have hsplit (n : Nat) : text = gap ++ (first :: more).take n ++ (first :: more).drop n := by
        rw [htext, List.append_assoc, List.take_append_drop]
      dsimp only
      cases hread : Reading.of first more with
      | token kind value n =>
          rw [hread] at hcovers
          rw [hsplit (n + 1)]
          dsimp only [advance]
          rw [← Position.after_append]
          exact .token hgap (by simp) (by simpa using hfirst) hcovers.2
      | fault cause taken =>
          rw [hsplit taken]
          dsimp only [advance]
          rw [← Position.after_append]
          refine .fault hgap ?_ ?_
          · rw [List.take_append_drop]
            exact List.cons_ne_nil _ _
          · rwa [List.take_append_drop]

/-- A call takes some characters off the text and passes just these. -/
theorem Step.exists_taken {c d : Cursor} {answer : Except SyntaxError Token} (h : Step c answer d) :
    ∃ taken, c.rest = taken ++ d.rest ∧ d.position = c.position.after taken := by
  cases h with
  | ends hgap => exact ⟨_, (List.append_nil _).symm, rfl⟩
  | token hgap hlexeme hfirst hwrites => exact ⟨_, rfl, rfl⟩
  | fault hgap hne hfirst => exact ⟨_, rfl, rfl⟩

/-! ### Many calls -/

/-- The cursor behind `n` calls. -/
def calls (c : Cursor) : Nat → Cursor
  | 0     => c
  | n + 1 => c.next.2.calls n

/-- What the first `n` calls answer. -/
def answers (c : Cursor) : Nat → List (Except SyntaxError Token)
  | 0     => []
  | n + 1 => c.next.1 :: c.next.2.answers n

theorem calls_add (c : Cursor) (m n : Nat) : c.calls (m + n) = (c.calls m).calls n := by
  induction m generalizing c with
  | zero => rw [Nat.zero_add, calls]
  | succ m ih => rw [Nat.succ_add, calls, calls, ih]

/-- The position stays in step with the text over any number of calls. -/
theorem exists_taken_calls (c : Cursor) (n : Nat) :
    ∃ taken, c.rest = taken ++ (c.calls n).rest ∧
      (c.calls n).position = c.position.after taken := by
  induction n generalizing c with
  | zero => exact ⟨[], rfl, rfl⟩
  | succ n ih =>
      obtain ⟨first, hfirst, hposition⟩ := c.step_next.exists_taken
      obtain ⟨later, hlater, hbehind⟩ := ih c.next.2
      refine ⟨first ++ later, ?_, ?_⟩
      · rw [hfirst, hlater, List.append_assoc, calls]
      · rw [calls, hbehind, hposition, Position.after_append]

/-- No call goes back. -/
theorem rest_calls_suffix (c : Cursor) {m n : Nat} (h : m ≤ n) :
    (c.calls n).rest <:+ (c.calls m).rest := by
  obtain ⟨k, rfl⟩ := Nat.exists_eq_add_of_le h
  obtain ⟨taken, htaken, -⟩ := (c.calls m).exists_taken_calls k
  rw [calls_add]
  exact ⟨taken, htaken.symm⟩

/-! ### Whole texts -/

/-- The tokens of a text are what calls answer, up to the mark of the end. -/
theorem tokens_eq (c : Cursor) : c.tokens = match c.next with
    | (.error e, _) => .error e
    | (.ok t, d)    =>
      if t.kind = .eof then .ok ⟨[], t.position⟩
      else d.tokens.map fun later => { later with tokens := t :: later.tokens } := by
  rw [tokens.eq_def, next]
  split
  · rename_i hnil
    simp only [hnil, if_true]
  · rename_i first rest hcons
    have hfits := Reading.fits_of first rest
    simp only [hcons]
    cases hread : Reading.of first rest with
    | token kind value more =>
        rw [hread] at hfits
        have hkind : kind ≠ .eof := by
          rintro rfl
          exact hfits
        simp only [if_neg hkind]
        cases (c.skipBlanks.advance (more + 1)).tokens <;> rfl
    | fault cause taken => rfl

/-- How the text at a cursor, which stands behind `before`, is read to its end or to its first
error: `read` writes the tokens, and behind it come blanks and then nothing, or what is no lexeme;
`last` is the answer there. -/
structure Outcome (before : List Char) (c : Cursor) (tokens : List Token)
    (read gap rest : List Char) (last : Except SyntaxError Token) : Prop where
  text : c.rest = read ++ (gap ++ rest)
  written : Written before tokens read
  blank : ∀ x ∈ gap, Text.isBlank x
  first : ∀ x ∈ rest.head?, ¬ Text.isBlank x
  ending : rest = [] ∧ last = .ok ⟨.eof, "", .behind (before ++ (read ++ gap))⟩ ∨
    rest ≠ [] ∧ ∃ cause, last = .error ⟨.behind (before ++ (read ++ gap)), cause⟩
  tokens_eq : c.tokens = last.map fun t => ⟨tokens, t.position⟩
  answers_eq : c.answers (tokens.length + 1) = tokens.map .ok ++ [last]

/-- A token in front of what is read. -/
theorem Outcome.cons {before front lexeme read gap rest : List Char} {c d : Cursor}
    {kind : TokenKind} {value : String} {tokens : List Token} {last : Except SyntaxError Token}
    (h : Outcome (before ++ (front ++ lexeme)) d tokens read gap rest last)
    (hfront : ∀ x ∈ front, Text.isBlank x) (hlexeme : lexeme ≠ [])
    (hfirst : ∀ x ∈ lexeme.head?, ¬ Text.isBlank x) (hwrites : kind.Writes value.toList lexeme)
    (htext : c.rest = front ++ lexeme ++ d.rest)
    (hnext : c.next = (.ok ⟨kind, value, .behind (before ++ front)⟩, d)) :
    Outcome before c (⟨kind, value, .behind (before ++ front)⟩ :: tokens)
      (front ++ lexeme ++ read) gap rest last where
  text := by rw [htext, h.text]; simp only [List.append_assoc]
  written := .cons hfront hlexeme hfirst hwrites h.written
  blank := h.blank
  first := h.first
  ending := by simpa only [List.append_assoc] using h.ending
  tokens_eq := by
    have hkind : kind ≠ .eof := by
      rintro rfl
      exact hwrites
    rw [c.tokens_eq, hnext]
    simp only [if_neg hkind, h.tokens_eq]
    cases last <;> rfl
  answers_eq := by
    rw [List.length_cons, answers, hnext, h.answers_eq]
    rfl

/-- Every text is read to its end or to an error. -/
theorem exists_outcome (c : Cursor) (before : List Char) (hc : c.position = .behind before) :
    ∃ tokens read gap rest last, Outcome before c tokens read gap rest last := by
  -- each token shortens the text
  induction hn : c.rest.length using Nat.strongRecOn generalizing c before with
  | ind n ih =>
      have hstep := c.step_next
      generalize hanswer : c.next.1 = answer, hd : c.next.2 = d at hstep
      have hnext : c.next = (answer, d) := Prod.ext hanswer hd
      cases hstep with
      | @ends gap p hgap =>
          obtain rfl : p = .behind before := hc
          rw [Position.behind_after] at hnext
          exact ⟨[], [], gap, [], _, (List.append_nil gap).symm, .nil, hgap, nofun, .inl ⟨rfl, rfl⟩,
            by rw [tokens_eq, hnext]; rfl, by rw [List.length_nil, answers, hnext]; rfl⟩
      | @token front lexeme rest p kind value hfront hlexeme hfirst hwrites =>
          obtain rfl : p = .behind before := hc
          rw [Position.behind_after, Position.behind_after] at hnext
          have hshorter : rest.length < n := by
            have hpos := List.length_pos_iff.mpr hlexeme
            rw [← hn]
            simp only [List.length_append]
            omega
          obtain ⟨tokens, read, gap, tail, last, hlater⟩ :=
            ih rest.length hshorter ⟨rest, .behind (before ++ (front ++ lexeme))⟩ _ rfl rfl
          exact ⟨_, _, gap, tail, last, hlater.cons hfront hlexeme hfirst hwrites rfl hnext⟩
      | @fault gap passed rest p cause hgap hne hfirst =>
          obtain rfl : p = .behind before := hc
          rw [Position.behind_after, Position.behind_after] at hnext
          exact ⟨[], [], gap, passed ++ rest, _, List.append_assoc _ _ _, .nil, hgap, hfirst,
            .inr ⟨hne, cause, rfl⟩, by rw [tokens_eq, hnext]; rfl,
            by rw [List.length_nil, answers, hnext]; rfl⟩

end Cursor

/-- The cursor is in step with the text over any number of calls, also behind errors and the end,
and never goes back.  A text is blanks and lexemes in turns, which write the tokens of the text at
their positions; the last call finds the end of the text, or an error at the first character of what
stands behind all tokens before it. -/
theorem tokenize_lossless (text : String) :
    (∀ n, ∃ consumed, text.toList = consumed ++ ((Cursor.start text).calls n).rest ∧
      ((Cursor.start text).calls n).position = .behind consumed) ∧
    (∀ m n, m ≤ n →
      ((Cursor.start text).calls n).rest <:+ ((Cursor.start text).calls m).rest) ∧
    ∃ tokens read gap rest, text.toList = read ++ (gap ++ rest) ∧ Written [] tokens read ∧
      (∀ c ∈ gap, Text.isBlank c) ∧ (∀ c ∈ rest.head?, ¬ Text.isBlank c) ∧
      tokens.length ≤ text.length ∧
      (rest = [] ∧ tokenize text = .ok ⟨tokens, .behind text.toList⟩ ∧
          (Cursor.start text).answers (tokens.length + 1) =
            tokens.map .ok ++ [.ok ⟨.eof, "", .behind text.toList⟩] ∨
        rest ≠ [] ∧ ∃ cause, tokenize text = .error ⟨.behind (read ++ gap), cause⟩ ∧
          (Cursor.start text).answers (tokens.length + 1) =
            tokens.map .ok ++ [.error ⟨.behind (read ++ gap), cause⟩]) := by
  have hstart : (Cursor.start text).position = .behind [] := rfl
  refine ⟨fun n => ?_, fun m n h => (Cursor.start text).rest_calls_suffix h, ?_⟩
  · obtain ⟨consumed, htext, hposition⟩ := (Cursor.start text).exists_taken_calls n
    exact ⟨consumed, htext, by rw [hposition, hstart, Position.behind_after, List.nil_append]⟩
  · obtain ⟨tokens, read, gap, rest, last, h⟩ := (Cursor.start text).exists_outcome [] hstart
    have htext : text.toList = read ++ (gap ++ rest) := h.text
    have hshort : tokens.length ≤ text.length := by
      have hread := h.written.length_le
      have hlength := congrArg List.length htext
      simp only [String.length_toList, List.length_append] at hlength
      omega
    refine ⟨tokens, read, gap, rest, htext, h.written, h.blank, h.first, hshort, ?_⟩
    rcases h.ending with ⟨hrest, hlast⟩ | ⟨hrest, cause, hlast⟩
    · have hall : [] ++ (read ++ gap) = text.toList := by
        rw [htext, hrest, List.append_nil, List.nil_append]
      rw [hall] at hlast
      exact .inl ⟨hrest, by rw [tokenize, h.tokens_eq, hlast]; rfl, by rw [h.answers_eq, hlast]⟩
    · exact .inr ⟨hrest, cause, by rw [tokenize, h.tokens_eq, hlast]; rfl,
        by rw [h.answers_eq, hlast]; rfl⟩

end EntityFilter
