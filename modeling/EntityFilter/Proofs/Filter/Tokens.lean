import EntityFilter.Filter.Lexer
import EntityFilter.Filter.Literal

/-!
# What the tokens of a text promise

The value of a token fits the token's kind (`TokenKind.Fits`): the digits behind `@` are an integer
of 64 bits, a date and a time of day can be read, and a number consists of digits, a point, signs
and an exponent mark.  The mark of the end is not among the tokens of a text.

**Every token fits** (`Cursor.fits_of_mem_tokens`).  One lexeme promises it (`Reading.fits_of`), by
cases on its first character, and what every lexeme promises holds of all tokens of a text
(`Cursor.forall_mem_tokens`).
-/

namespace EntityFilter

/-- `c` may stand in a number. -/
def isNumeralChar (c : Char) : Bool :=
  c.isDigit || c == '.' || c == 'e' || c == '+' || c == '-'

/-- `value` is a text that a token of this kind may have. -/
def TokenKind.Fits (value : String) : TokenKind → Prop
  | .number => value ≠ "" ∧ ∀ c ∈ value.toList, isNumeralChar c
  | .ref    => (Text.int64? value.toList).isSome
  | .date   => (Date.read? value.toList).isSome
  | .time   => (TimeOfDay.read? value.toList).isSome
  | .eof    => False
  | _       => True

namespace Reading

/-- The token, if there is one, satisfies `P`. -/
def Gives (P : TokenKind → String → Prop) : Reading → Prop
  | .token kind value _ => P kind value
  | .fault _ _          => True

/-- The token, if there is one, fits its kind. -/
abbrev Fits (r : Reading) : Prop :=
  r.Gives fun kind value => kind.Fits value

/-! ### Numbers -/

/-- `c` may stand in a number as it is written. -/
def isWrittenNumeralChar (c : Char) : Bool :=
  isNumeralChar c || c == 'E'

theorem mem_take_digitsWidth {text : List Char} {c : Char}
    (h : c ∈ text.take (digitsWidth text)) : isWrittenNumeralChar c := by
  have hc : c ∈ text.takeWhile Char.isDigit := by
    rwa [digitsWidth, ← List.prefix_iff_eq_take.mp (List.takeWhile_prefix _)] at h
  have hdigit : c.isDigit = true := List.all_eq_true.mp List.all_takeWhile c hc
  simp [isWrittenNumeralChar, isNumeralChar, hdigit]

theorem mem_take_fractionWidth {text : List Char} {c : Char}
    (h : c ∈ text.take (fractionWidth text)) : isWrittenNumeralChar c := by
  rw [fractionWidth.eq_def] at h
  split at h
  · split at h
    · simp at h
    · rw [Nat.add_comm, List.take_succ_cons] at h
      rcases List.mem_cons.mp h with rfl | h
      · rfl
      · exact mem_take_digitsWidth h
  · simp at h

theorem mem_take_signWidth {text : List Char} {c : Char}
    (h : c ∈ text.take (signWidth text)) : isWrittenNumeralChar c := by
  rw [signWidth.eq_def] at h
  split at h
  · simp only [List.take_succ_cons, List.take_zero, List.mem_singleton] at h
    subst h; rfl
  · simp only [List.take_succ_cons, List.take_zero, List.mem_singleton] at h
    subst h; rfl
  · simp at h

theorem mem_take_exponentWidth {text : List Char} {c : Char}
    (h : c ∈ text.take (exponentWidth text)) : isWrittenNumeralChar c := by
  cases text with
  | nil => simp at h
  | cons e rest =>
      rw [exponentWidth] at h
      split at h
      · rename_i he
        simp only [Bool.and_eq_true, Bool.or_eq_true, beq_iff_eq] at he
        rw [Nat.add_assoc, Nat.add_comm, List.take_succ_cons, List.take_add, List.mem_cons,
          List.mem_append] at h
        rcases h with rfl | h | h
        · rcases he.1 with rfl | rfl <;> rfl
        · exact mem_take_signWidth h
        · exact mem_take_digitsWidth h
      · simp at h

theorem mem_take_numberWidth {text : List Char} {c : Char}
    (h : c ∈ text.take (numberWidth text)) : isWrittenNumeralChar c := by
  simp only [numberWidth] at h
  rw [List.take_add, List.take_add, List.take_add] at h
  simp only [List.mem_append] at h
  rcases h with ((h | h) | h) | h
  · split at h
    · rename_i hhead
      cases text with
      | nil => simp at hhead
      | cons d rest =>
          obtain rfl : d = '-' := by simpa using hhead
          rw [List.take_succ_cons, List.take_zero, List.mem_singleton] at h
          subst h; rfl
    · simp at h
  · exact mem_take_digitsWidth h
  · exact mem_take_fractionWidth h
  · exact mem_take_exponentWidth h

/-- A number takes at least the digit or the sign it starts with. -/
theorem numberWidth_pos {c : Char} {rest : List Char} (h : c.isDigit ∨ c = '-') :
    0 < numberWidth (c :: rest) := by
  by_cases hc : c = '-'
  · simp only [numberWidth, List.head?_cons, hc, beq_self_eq_true, if_true]
    omega
  · have hd := h.resolve_right hc
    have hw : 0 < digitsWidth (c :: rest) := by simp [digitsWidth, hd]
    have hsign : (some c == some '-') = false := by simpa using hc
    simp only [numberWidth, List.head?_cons, hsign, Bool.false_eq_true, if_false, List.drop_zero]
    omega

/-- The exponent mark is written small. -/
theorem isNumeralChar_small {c : Char} (h : isWrittenNumeralChar c) :
    isNumeralChar (if c == 'E' then 'e' else c) := by
  split
  · rfl
  · rename_i hc
    simpa [isWrittenNumeralChar, show ¬ c = 'E' by simpa using hc] using h

theorem fits_number {c : Char} {rest : List Char} (h : c.isDigit ∨ c = '-') :
    (number (c :: rest)).Fits := by
  refine ⟨fun hempty => ?_, fun d hd => ?_⟩
  · have hlen := congrArg (List.length ∘ String.toList) hempty
    have hpos : 0 < numberWidth (c :: rest) := numberWidth_pos h
    simp at hlen
    omega
  · rw [String.toList_ofList] at hd
    obtain ⟨written, hwritten, rfl⟩ := List.mem_map.mp hd
    exact isNumeralChar_small (mem_take_numberWidth hwritten)

/-! ### Other lexemes -/

theorem fits_justDay (day : List Char) : (date.justDay day).Fits := by
  rw [date.justDay]
  split
  · rename_i d hd
    simp [Gives, TokenKind.Fits, hd]
  · trivial

theorem fits_date (text : List Char) : (date text).Fits := by
  rw [date]
  split
  · split
    · dsimp only
      split <;> trivial
    · exact fits_justDay _
  · exact fits_justDay _

theorem fits_time (text : List Char) : (time text).Fits := by
  rw [time]
  split
  · rename_i t ht
    simp [Gives, TokenKind.Fits, ht]
  · trivial

theorem fits_numeric {c : Char} {rest : List Char} (h : c.isDigit) :
    (numeric (c :: rest)).Fits := by
  rw [numeric]
  split
  · split
    · exact fits_date _
    · exact fits_number (.inl h)
  · split
    · exact fits_time _
    · exact fits_number (.inl h)
  · exact fits_number (.inl h)

theorem fits_reference (rest : List Char) : (reference rest).Fits := by
  rw [reference]
  split
  · rename_i n hn
    simp [Gives, TokenKind.Fits, hn]
  · trivial

theorem fits_word (c : Char) (rest : List Char) : (word c rest).Fits := by
  simp only [word, Gives, wordKind]
  split
  · trivial
  · trivial
  · trivial
  · trivial
  · split <;> trivial

theorem fits_toReading {kind : TokenKind} (body : QuotedBody) (h : ∀ value, kind.Fits value) :
    (body.toReading kind).Fits := by
  cases body with
  | closed value width => exact h _
  | fault cause taken => trivial

/-- **A lexeme fits its kind.** -/
theorem fits_of (c : Char) (rest : List Char) : (Reading.of c rest).Fits := by
  rw [Reading.of.eq_def]
  split
  · trivial
  · trivial
  · trivial
  · split <;> trivial
  · split <;> trivial
  · split <;> trivial
  · split <;> trivial
  · split
    · trivial
    · split
      · exact fits_number (.inr rfl)
      · trivial
  · exact fits_toReading _ fun _ => trivial
  · exact fits_toReading _ fun _ => trivial
  · exact fits_toReading _ fun _ => trivial
  · exact fits_reference rest
  · split
    · rename_i hdigit
      exact fits_numeric hdigit
    · split
      · exact fits_word c rest
      · trivial

end Reading

/-- What one lexeme promises of its token holds of all tokens of a text. -/
theorem Cursor.forall_mem_tokens {P : TokenKind → String → Prop}
    (hP : ∀ c rest, (Reading.of c rest).Gives P) {c : Cursor} {s : TokenStream}
    (h : c.tokens = .ok s) : ∀ t ∈ s.tokens, P t.kind t.value := by
  fun_induction Cursor.tokens c generalizing s with
  | case1 c hnil =>
      obtain rfl := Except.ok.inj h
      simp
  | case2 c first rest hrest kind value more hread ih =>
      cases hlater : (c.skipBlanks.advance (more + 1)).tokens with
      | error e => rw [hlater] at h; cases h
      | ok later =>
          rw [hlater] at h
          obtain rfl := Except.ok.inj h
          have hfirst := hP first rest
          rw [hread] at hfirst
          rintro t (_ | ⟨_, ht⟩)
          · exact hfirst
          · exact ih hlater t ht
  | case3 c first rest hrest cause taken hread => cases h

/-- **Every token of a text fits its kind.** -/
theorem Cursor.fits_of_mem_tokens {c : Cursor} {s : TokenStream} (h : c.tokens = .ok s) :
    ∀ t ∈ s.tokens, t.kind.Fits t.value :=
  Cursor.forall_mem_tokens Reading.fits_of h

end EntityFilter
