import EntityFilter.Proofs.Calendar.Readers
import EntityFilter.Proofs.Filter.Tokens

/-!
# What the texts of lexemes look like

Names, numbers, references, dates and times as sets of texts, said apart from the readers
(`IsName`, `IsNumeral`, `IsDateTimeLexeme`).

**Readers stay within these sets** (`Reading.spelt_of`), by cases on the first character of a
lexeme.
-/

namespace EntityFilter

/-! ### Names -/

/-- A letter or an underscore, then letters, digits and underscores; no keyword in any letter case,
and no truth value. -/
def IsName (word : String) : Prop :=
  (∃ c rest, word.toList = c :: rest ∧ Reading.isNameStart c ∧ ∀ d ∈ rest, Reading.isNamePart d) ∧
  String.ofList (word.toList.map Char.toLower) ∉ ["and", "or", "not", "in"] ∧
  word ∉ ["true", "false"]

/-! ### Numbers -/

/-- One or more digits. -/
def IsDigits (text : List Char) : Prop :=
  text ≠ [] ∧ ∀ c ∈ text, c.isDigit

/-- A point and digits, or nothing. -/
def IsFraction (text : List Char) : Prop :=
  text = [] ∨ ∃ digits, text = '.' :: digits ∧ IsDigits digits

/-- `e`, a sign or none, and digits; or nothing. -/
def IsExponent (text : List Char) : Prop :=
  text = [] ∨ ∃ sign digits, text = 'e' :: (sign ++ digits) ∧
    (sign = [] ∨ sign = ['+'] ∨ sign = ['-']) ∧ IsDigits digits

/-- A minus sign or none, digits, a fraction and an exponent. -/
def IsNumeral (text : List Char) : Prop :=
  ∃ sign whole fraction exponent, text = sign ++ (whole ++ (fraction ++ exponent)) ∧
    (sign = [] ∨ sign = ['-']) ∧ IsDigits whole ∧ IsFraction fraction ∧ IsExponent exponent

/-! ### Dates and times -/

/-- `c` may stand in a date. -/
def isDayChar (c : Char) : Bool :=
  c.isDigit || c == '-'

/-- `c` may stand in a time of day behind a date. -/
def isClockChar (c : Char) : Bool :=
  c.isDigit || c == ':' || c == '.' || c == '+' || c == '-' || c == 'Z'

/-- Four digits, a hyphen and a digit come first. -/
def StartsDate (text : List Char) : Prop :=
  ∃ year d rest, text = year ++ '-' :: d :: rest ∧ year.length = 4 ∧ (∀ c ∈ year, c.isDigit) ∧
    d.isDigit

/-- A date starts with a digit. -/
theorem StartsDate.exists_isDigit {text : List Char} (h : StartsDate text) :
    ∃ c rest, text = c :: rest ∧ c.isDigit := by
  obtain ⟨year, d, rest, rfl, hlength, hyear, -⟩ := h
  obtain ⟨c, more, rfl⟩ := List.exists_cons_of_length_pos (l := year) (by omega)
  exact ⟨c, _, rfl, hyear c List.mem_cons_self⟩

theorem StartsDate.append {text : List Char} (h : StartsDate text) (rest : List Char) :
    StartsDate (text ++ rest) := by
  obtain ⟨year, d, more, rfl, hyear⟩ := h
  exact ⟨year, d, more ++ rest, by simp only [List.append_assoc, List.cons_append], hyear⟩

/-- A date and a time of day, as they are written in a filter. -/
def IsDateTimeLexeme (text : List Char) : Prop :=
  isDateTime text ∧ ∃ day d time, text = day ++ 'T' :: d :: time ∧ StartsDate day ∧ d.isDigit ∧
    (∀ c ∈ day, isDayChar c) ∧ ∀ c ∈ time, isClockChar c

/-! ### What readers promise -/

/-- `value` is a text that the readers give to a token of this kind. -/
def TokenKind.Spelt (value : String) : TokenKind → Prop
  | .name     => IsName value
  | .number   => IsNumeral value.toList
  | .uri      => '\x60' ∉ value.toList
  | .ref      => ∀ c ∈ value.toList, c.isDigit
  | .date     => StartsDate value.toList
  | .dateTime => IsDateTimeLexeme value.toList
  | _         => True

namespace Reading

/-- The token, if there is one, has a text of its kind. -/
abbrev Spelt (r : Reading) : Prop :=
  r.Gives fun kind value => kind.Spelt value

/-- The character as it stands in the value of a number. -/
def small (c : Char) : Char :=
  if c == 'E' then 'e' else c

theorem small_of_isDigit {c : Char} (h : c.isDigit) : small c = c := by
  rw [small, if_neg]
  simp only [beq_iff_eq]
  rintro rfl
  exact absurd h (by decide)

theorem map_small_of_isDigit {digits : List Char} (h : ∀ c ∈ digits, c.isDigit) :
    digits.map small = digits := by
  refine (List.map_congr_left fun c hc => ?_).trans (List.map_id digits)
  exact small_of_isDigit (h c hc)

theorem take_digitsWidth (text : List Char) :
    text.take (digitsWidth text) = text.takeWhile Char.isDigit :=
  (List.prefix_iff_eq_take.mp (List.takeWhile_prefix _)).symm

theorem isDigit_of_mem_take {text : List Char} {c : Char} (h : c ∈ text.take (digitsWidth text)) :
    c.isDigit := by
  rw [take_digitsWidth] at h
  exact List.mem_takeWhile_imp h

/-- What is taken by `digitsWidth` are digits, if there is one. -/
theorem isDigits_take {text : List Char} (h : digitsWidth text ≠ 0) :
    IsDigits ((text.take (digitsWidth text)).map small) := by
  rw [map_small_of_isDigit fun c => isDigit_of_mem_take]
  refine ⟨fun hnil => h ?_, fun c => isDigit_of_mem_take⟩
  rw [take_digitsWidth] at hnil
  rw [digitsWidth, hnil, List.length_nil]

theorem isFraction_take (text : List Char) :
    IsFraction ((text.take (fractionWidth text)).map small) := by
  rw [fractionWidth.eq_def]
  split
  · split
    · exact .inl rfl
    · rename_i rest hdigits
      rw [Nat.add_comm, List.take_succ_cons, List.map_cons]
      exact .inr ⟨_, rfl, isDigits_take hdigits⟩
  · exact .inl rfl

theorem take_signWidth (text : List Char) :
    (text.take (signWidth text)).map small = [] ∨ (text.take (signWidth text)).map small = ['+'] ∨
      (text.take (signWidth text)).map small = ['-'] := by
  rw [signWidth.eq_def]
  split
  · exact .inr (.inl rfl)
  · exact .inr (.inr rfl)
  · exact .inl rfl

theorem isExponent_take (text : List Char) :
    IsExponent ((text.take (exponentWidth text)).map small) := by
  cases text with
  | nil => exact .inl rfl
  | cons e rest =>
      rw [exponentWidth]
      split
      · rename_i h
        simp only [Bool.and_eq_true, Bool.or_eq_true, beq_iff_eq, bne_iff_ne] at h
        have he : small e = 'e' := by
          rcases h.1 with rfl | rfl <;> rfl
        rw [Nat.add_assoc, Nat.add_comm, List.take_succ_cons, List.take_add, List.map_cons,
          List.map_append, he]
        exact .inr ⟨_, _, rfl, take_signWidth rest, isDigits_take h.2⟩
      · exact .inl rfl

theorem digitsWidth_pos {c : Char} (h : c.isDigit) (rest : List Char) :
    digitsWidth (c :: rest) ≠ 0 := by
  simp [digitsWidth, h]

/-- A number that starts with a digit or with a sign and a digit is written as numbers are. -/
theorem spelt_number {c : Char} {rest : List Char}
    (h : c.isDigit ∨ c = '-' ∧ rest.head?.any Char.isDigit) : (number (c :: rest)).Spelt := by
  change IsNumeral (String.ofList (((c :: rest).take (numberWidth (c :: rest))).map small)).toList
  rw [String.toList_ofList]
  rcases h with hc | ⟨rfl, hrest⟩
  · have hsign : ((c :: rest).head? == some '-') = false := by
      simp only [List.head?_cons, Option.some_beq_some, beq_eq_false_iff_ne, ne_eq]
      rintro rfl
      exact absurd hc (by decide)
    simp only [numberWidth, hsign, Bool.false_eq_true, if_false, Nat.zero_add, List.drop_zero]
    rw [List.take_add, List.take_add, List.map_append, List.map_append, List.append_assoc]
    exact ⟨[], _, _, _, rfl, .inl rfl, isDigits_take (digitsWidth_pos hc rest),
      isFraction_take _, isExponent_take _⟩
  · obtain ⟨d, more, rfl, hd⟩ : ∃ d more, rest = d :: more ∧ d.isDigit := by
      cases rest with
      | nil => cases hrest
      | cons d more => exact ⟨d, more, rfl, hrest⟩
    simp only [numberWidth, List.head?_cons, beq_self_eq_true, if_true]
    rw [List.take_add, List.take_add, List.take_add, List.map_append, List.map_append,
      List.map_append, List.append_assoc, List.append_assoc]
    exact ⟨['-'], _, _, _, rfl, .inr rfl, isDigits_take (digitsWidth_pos hd more),
      isFraction_take _, isExponent_take _⟩

/-! ### Words and references -/

/-- The words that are names. -/
theorem wordKind_eq_name_iff {word : String} : wordKind word = .name ↔
    String.ofList (word.toList.map Char.toLower) ∉ ["and", "or", "not", "in"] ∧
      word ∉ ["true", "false"] := by
  rw [wordKind.eq_def]
  split
  · simp [*]
  · simp [*]
  · simp [*]
  · simp [*]
  · rename_i hand hor hnot hin
    by_cases hbool : word = "true" ∨ word = "false"
    · rw [if_pos (by simpa using hbool)]
      simpa using fun _ _ _ _ htrue => hbool.resolve_left htrue
    · rw [if_neg (by simpa using hbool)]
      simpa using ⟨⟨hand, hor, hnot, hin⟩, not_or.mp hbool⟩

/-- The other kinds of words. -/
theorem wordKind_cases (word : String) :
    wordKind word ∈ [TokenKind.and, .or, .not, .member, .bool, .name] := by
  rw [wordKind.eq_def]
  split
  · simp
  · simp
  · simp
  · simp
  · split <;> simp

theorem spelt_word {c : Char} (rest : List Char) (hc : isNameStart c) : (word c rest).Spelt := by
  have hpart : ∀ d ∈ rest.takeWhile isNamePart, isNamePart d := fun d => List.mem_takeWhile_imp
  have hkind := wordKind_cases (String.ofList (c :: rest.takeWhile isNamePart))
  simp only [List.mem_cons, List.not_mem_nil, or_false] at hkind
  simp only [word, Spelt, Gives]
  rcases hkind with h | h | h | h | h | h
  · rw [h]; trivial
  · rw [h]; trivial
  · rw [h]; trivial
  · rw [h]; trivial
  · rw [h]; trivial
  · rw [h]
    exact ⟨⟨c, _, String.toList_ofList, hc, hpart⟩, wordKind_eq_name_iff.mp h⟩

theorem spelt_reference (rest : List Char) : (reference rest).Spelt := by
  simp only [reference]
  split
  · change ∀ c ∈ (String.ofList (rest.takeWhile Char.isDigit)).toList, c.isDigit
    rw [String.toList_ofList]
    exact fun c => List.mem_takeWhile_imp
  · trivial

/-! ### Texts in back quotes -/

theorem not_mem_of_uriBody {text value : List Char} {width : Nat}
    (h : uriBody text = .closed value width) : '\x60' ∉ value := by
  induction text generalizing value width with
  | nil => cases h
  | cons c rest ih =>
      rw [uriBody] at h
      split at h
      · obtain ⟨rfl, -⟩ := QuotedBody.closed.inj h
        exact List.not_mem_nil
      · rename_i hc
        cases hbody : uriBody rest with
        | fault cause taken => rw [hbody] at h; cases h
        | closed value' width' =>
            rw [hbody] at h
            obtain ⟨rfl, -⟩ := QuotedBody.closed.inj h
            rw [List.mem_cons, not_or]
            exact ⟨fun heq => hc (beq_iff_eq.mpr heq.symm), ih hbody⟩

theorem spelt_uri (text : List Char) : ((uriBody text).toReading .uri).Spelt := by
  cases hbody : uriBody text with
  | fault cause taken => trivial
  | closed value width =>
      change '\x60' ∉ (String.ofList value).toList
      rw [String.toList_ofList]
      exact not_mem_of_uriBody hbody

/-! ### Dates and times -/

/-- A date goes on as far as its characters do. -/
theorem startsDate_takeWhile {text : List Char} (h : StartsDate text) :
    StartsDate (text.takeWhile isDayChar) := by
  obtain ⟨year, d, rest, rfl, hlength, hyear, hd⟩ := h
  refine ⟨year, d, rest.takeWhile isDayChar, ?_, hlength, hyear, hd⟩
  rw [List.takeWhile_append_of_pos fun c hc => by simp [isDayChar, hyear c hc],
    List.takeWhile_cons_of_pos rfl, List.takeWhile_cons_of_pos (by simp [isDayChar, hd])]

theorem spelt_justDay {day : List Char} (h : StartsDate day) : (date.justDay day).Spelt := by
  rw [date.justDay]
  split
  · change StartsDate (String.ofList day).toList
    rwa [String.toList_ofList]
  · trivial

/-- A text that looks like a date and a time of day. -/
def dateTimeLexeme (lexeme : List Char) : Reading :=
  if isDateTime lexeme then .token .dateTime (String.ofList lexeme) (lexeme.length - 1)
  else .fault (.invalidLiteral .dateTime (String.ofList lexeme)) lexeme.length

theorem date_eq (text : List Char) : date text =
    match text.drop (text.takeWhile isDayChar).length with
    | 'T' :: d :: rest =>
      if d.isDigit then
        dateTimeLexeme (text.takeWhile isDayChar ++ 'T' :: (d :: rest).takeWhile isClockChar)
      else date.justDay (text.takeWhile isDayChar)
    | _ => date.justDay (text.takeWhile isDayChar) := rfl

theorem spelt_date {text : List Char} (h : StartsDate text) : (date text).Spelt := by
  have hday := startsDate_takeWhile h
  have hchars : ∀ c ∈ text.takeWhile isDayChar, isDayChar c := fun c => List.mem_takeWhile_imp
  rw [date_eq]
  split
  · rename_i d rest _
    split
    · rename_i hd
      rw [List.takeWhile_cons_of_pos (by simp [isClockChar, hd]), dateTimeLexeme]
      split
      · rename_i hdateTime
        change IsDateTimeLexeme (String.ofList _).toList
        rw [String.toList_ofList]
        exact ⟨hdateTime, _, d, _, rfl, hday, hd, hchars, fun c => List.mem_takeWhile_imp⟩
      · trivial
    · exact spelt_justDay hday
  · exact spelt_justDay hday

theorem spelt_time (text : List Char) : (time text).Spelt := by
  rw [time]
  split <;> trivial

theorem spelt_numeric {c : Char} {rest : List Char} (h : c.isDigit) :
    (numeric (c :: rest)).Spelt := by
  rw [numeric]
  split
  · rename_i d more hdrop
    split
    · rename_i hdate
      simp only [Bool.and_eq_true, decide_eq_true_eq] at hdate
      refine spelt_date ⟨(c :: rest).take (digitsWidth (c :: rest)), d, more, ?_, ?_, ?_, hdate.2⟩
      · rw [← hdrop, List.take_append_drop]
      · rw [take_digitsWidth]
        exact hdate.1
      · exact fun c => isDigit_of_mem_take
    · exact spelt_number (.inl h)
  · split
    · exact spelt_time _
    · exact spelt_number (.inl h)
  · exact spelt_number (.inl h)

/-- **A lexeme has a text of its kind.** -/
theorem spelt_of (c : Char) (rest : List Char) : (Reading.of c rest).Spelt := by
  rw [Reading.of.eq_def]
  split
  · trivial
  · trivial
  · trivial
  · split <;> trivial
  · split <;> trivial
  · split <;> trivial
  · split <;> trivial
  · split
    · trivial
    · split
      · rename_i hdigit
        exact spelt_number (.inr ⟨rfl, hdigit⟩)
      · trivial
  · cases strBody .plain rest <;> trivial
  · cases inStrBody rest <;> trivial
  · exact spelt_uri rest
  · exact spelt_reference rest
  · split
    · rename_i hdigit
      exact spelt_numeric hdigit
    · split
      · rename_i hname
        exact spelt_word rest hname
      · trivial

end Reading

end EntityFilter
