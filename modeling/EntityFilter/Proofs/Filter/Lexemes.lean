import EntityFilter.Proofs.Filter.Spelling

/-!
# Lexemes with blanks between them

A lexeme is a token and how it is written (`Lexeme`).  It *reads* when its spelling is read as its
token wherever a blank or the end of the text follows (`Lexeme.Reads`); the lemmas `reads_word`,
`reads_date` and so on say so of signs, words, references, dates and times.

**Lexemes that read can be laid out** (`Laid.tokens`): a text of such lexemes, with blanks between
them, has just their tokens.
-/

namespace EntityFilter

open Text (IsVisible Stops StartsBlank)

/-- A token and how it is written. -/
structure Lexeme where
  kind : TokenKind
  value : String
  spelling : List Char
deriving DecidableEq, Repr

/-- The spelling is read as the token wherever a blank or nothing follows. -/
def Lexeme.Reads (l : Lexeme) : Prop :=
  ∃ c more, l.spelling = c :: more ∧ IsVisible c ∧ ∀ rest, StartsBlank rest →
    Reading.of c (more ++ rest) = .token l.kind l.value more.length

namespace Reading

/-! ### Signs -/

/-- No blank is the visible character `d`. -/
theorem head?_ne_of_startsBlank {rest : List Char} (h : StartsBlank rest) {d : Char}
    (hd : IsVisible d) : ¬ (rest.head? == some d) := by
  intro hhead
  have hblank := h d (beq_iff_eq.mp hhead)
  rw [Text.not_isBlank_of_isVisible hd] at hblank
  cases hblank

theorem reads_openParen : Lexeme.Reads ⟨.openParen, "(", ['(']⟩ :=
  ⟨'(', [], rfl, by decide, fun _ _ => rfl⟩

theorem reads_closeParen : Lexeme.Reads ⟨.closeParen, ")", [')']⟩ :=
  ⟨')', [], rfl, by decide, fun _ _ => rfl⟩

theorem reads_comma : Lexeme.Reads ⟨.comma, ",", [',']⟩ :=
  ⟨',', [], rfl, by decide, fun _ _ => rfl⟩

theorem reads_arrow : Lexeme.Reads ⟨.arrow, "->", ['-', '>']⟩ :=
  ⟨'-', ['>'], rfl, by decide, fun _ _ => rfl⟩

theorem reads_comparison (op : Comparison) :
    Lexeme.Reads ⟨.comparison op, op.spelling, op.spelling.toList⟩ := by
  cases op with
  | eq => exact ⟨'=', ['='], rfl, by decide, fun _ _ => rfl⟩
  | ne => exact ⟨'!', ['='], rfl, by decide, fun _ _ => rfl⟩
  | le => exact ⟨'<', ['='], rfl, by decide, fun _ _ => rfl⟩
  | ge => exact ⟨'>', ['='], rfl, by decide, fun _ _ => rfl⟩
  | lt =>
      exact ⟨'<', [], rfl, by decide, fun rest hrest =>
        if_neg (head?_ne_of_startsBlank hrest (by decide))⟩
  | gt =>
      exact ⟨'>', [], rfl, by decide, fun rest hrest =>
        if_neg (head?_ne_of_startsBlank hrest (by decide))⟩

/-! ### Words -/

theorem isVisible_of_isNamePart {c : Char} (h : isNamePart c) : IsVisible c := by
  simp only [isNamePart, Char.isAlphanum, Char.isAlpha, Char.isUpper, Char.isLower, Char.isDigit,
    Bool.or_eq_true, Bool.and_eq_true, decide_eq_true_eq, ge_iff_le, UInt32.le_iff_toNat_le,
    beq_iff_eq] at h
  rcases h with ((h | h) | h) | rfl
  · exact ⟨Nat.le_trans (by decide) h.1, Nat.le_trans h.2 (by decide)⟩
  · exact ⟨Nat.le_trans (by decide) h.1, Nat.le_trans h.2 (by decide)⟩
  · exact ⟨Nat.le_trans (by decide) h.1, Nat.le_trans h.2 (by decide)⟩
  · decide

theorem isNamePart_of_isNameStart {c : Char} (h : isNameStart c) : isNamePart c := by
  simp only [isNameStart, isNamePart, Char.isAlphanum, Bool.or_eq_true] at h ⊢
  exact h.imp .inl id

/-- Letters, digits and underscores are no signs. -/
theorem of_isNamePart {c : Char} (h : isNamePart c) (rest : List Char) :
    Reading.of c rest = if c.isDigit then numeric (c :: rest)
      else if isNameStart c then word c rest
      else .fault (.unrecognised (String.singleton c)) 0 := by
  rw [Reading.of.eq_def]
  split <;> first | rfl | exact absurd h (by decide)

theorem of_isNameStart {c : Char} (h : isNameStart c) (rest : List Char) :
    Reading.of c rest = word c rest := by
  have hdigit : ¬ c.isDigit := by
    simp only [isNameStart, Char.isAlpha, Char.isUpper, Char.isLower, Char.isDigit,
      Bool.or_eq_true, Bool.and_eq_true, decide_eq_true_eq, ge_iff_le, UInt32.le_iff_toNat_le,
      beq_iff_eq] at h ⊢
    rintro ⟨hlow, hhigh⟩
    rcases h with (h | h) | rfl
    · exact absurd (Nat.le_trans h.1 hhigh) (by decide)
    · exact absurd (Nat.le_trans h.1 hhigh) (by decide)
    · exact absurd hhigh (by decide)
  rw [of_isNamePart (isNamePart_of_isNameStart h), if_neg hdigit, if_pos h]

theorem of_isDigit {c : Char} (h : c.isDigit) (rest : List Char) :
    Reading.of c rest = numeric (c :: rest) := by
  rw [of_isNamePart (by simp [isNamePart, Char.isAlphanum, h]), if_pos h]

theorem reads_word {word : String} {c : Char} {more : List Char} (hword : word.toList = c :: more)
    (hc : isNameStart c) (hmore : ∀ d ∈ more, isNamePart d) :
    Lexeme.Reads ⟨wordKind word, word, word.toList⟩ := by
  refine ⟨c, more, hword, isVisible_of_isNamePart (isNamePart_of_isNameStart hc),
    fun rest hrest => ?_⟩
  have htake : (more ++ rest).takeWhile isNamePart = more :=
    Text.takeWhile_append_of_stops hmore (hrest.stops fun d => isVisible_of_isNamePart)
  rw [of_isNameStart hc]
  simp only [Reading.word]
  rw [htake, ← hword, String.ofList_toList]

theorem reads_name {name : String} (h : IsName name) : Lexeme.Reads ⟨.name, name, name.toList⟩ := by
  obtain ⟨⟨c, rest, hname, hc, hrest⟩, hwords⟩ := h
  rw [← wordKind_eq_name_iff.mpr hwords]
  exact reads_word hname hc hrest

/-! ### References and quoted texts -/

theorem reads_ref {n : Nat} (h : (n : Int) ≤ Text.int64Max) :
    Lexeme.Reads ⟨.ref, Text.natural n, '@' :: (Text.natural n).toList⟩ := by
  refine ⟨'@', _, rfl, by decide, fun rest hrest => ?_⟩
  have hdigits : (Text.natural n).toList = Nat.toDigits 10 n := String.toList_ofList
  have htake : (Nat.toDigits 10 n ++ rest).takeWhile Char.isDigit = Nat.toDigits 10 n :=
    Text.takeWhile_append_of_stops (fun c => Text.isDigit_of_mem_toDigits)
      (hrest.stops fun c => Text.isVisible_of_isDigit)
  change reference ((Text.natural n).toList ++ rest) = _
  rw [hdigits, reference]
  dsimp only
  rw [htake, Text.int64?_toDigits h]
  rfl

theorem uriBody_append {text : List Char} (h : '\x60' ∉ text) (rest : List Char) :
    uriBody (text ++ '\x60' :: rest) = .closed text (text.length + 1) := by
  induction text with
  | nil => rfl
  | cons c text ih =>
      rw [List.mem_cons, not_or] at h
      rw [List.cons_append, uriBody, if_neg (by simpa using h.1 ∘ Eq.symm), ih h.2]
      simp only [QuotedBody.push, List.length_cons, QuotedBody.closed.injEq, true_and]
      omega

theorem reads_uri {text : String} (h : '\x60' ∉ text.toList) :
    Lexeme.Reads ⟨.uri, text, '\x60' :: (text.toList ++ ['\x60'])⟩ := by
  refine ⟨'\x60', _, rfl, by decide, fun rest _ => ?_⟩
  change (uriBody _).toReading .uri = _
  rw [List.append_assoc, List.singleton_append, uriBody_append h, QuotedBody.toReading,
    String.ofList_toList, List.length_append]
  rfl

/-! ### Dates and times -/

theorem digitsWidth_append {digits rest : List Char} (h : ∀ c ∈ digits, c.isDigit)
    (hrest : Stops Char.isDigit rest) : digitsWidth (digits ++ rest) = digits.length := by
  rw [digitsWidth, Text.takeWhile_append_of_stops h hrest]

theorem isVisible_of_isDayChar {c : Char} (h : isDayChar c) : IsVisible c := by
  rw [isDayChar, Bool.or_eq_true, beq_iff_eq] at h
  rcases h with h | rfl
  · exact Text.isVisible_of_isDigit h
  · decide

theorem isVisible_of_isClockChar {c : Char} (h : isClockChar c) : IsVisible c := by
  simp only [isClockChar, Bool.or_eq_true, beq_iff_eq] at h
  rcases h with ((((h | rfl) | rfl) | rfl) | rfl) | rfl
  · exact Text.isVisible_of_isDigit h
  · decide
  · decide
  · decide
  · decide
  · decide

/-- A text that starts as a date does is read as one. -/
theorem of_startsDate {c : Char} {rest : List Char} (h : StartsDate (c :: rest)) :
    Reading.of c rest = date (c :: rest) := by
  obtain ⟨c', rest', htext, hc⟩ := h.exists_isDigit
  obtain ⟨rfl, rfl⟩ := List.cons.inj htext
  obtain ⟨year, d, more, htext, hlength, hyear, hd⟩ := h
  have hwidth : digitsWidth (c :: rest) = 4 := by
    rw [htext, digitsWidth_append hyear (Text.stops_cons.mpr (by decide)), hlength]
  have hdrop : (c :: rest).drop 4 = '-' :: d :: more := by
    rw [htext, ← hlength, List.drop_left]
  rw [of_isDigit hc, numeric]
  simp only [hwidth, hdrop, hd, decide_true, Bool.and_self, if_true]

/-- A date ends where a blank follows. -/
theorem date_of_startsBlank {day rest : List Char} (hday : ∀ c ∈ day, isDayChar c)
    (hrest : StartsBlank rest) : date (day ++ rest) = date.justDay day := by
  have htake : (day ++ rest).takeWhile isDayChar = day :=
    Text.takeWhile_append_of_stops hday (hrest.stops fun c => isVisible_of_isDayChar)
  rw [date_eq, htake, List.drop_left]
  split
  · exact absurd (hrest 'T' rfl) (by decide)
  · rfl

/-- A time of day behind a date ends where a blank follows. -/
theorem date_of_clock {day : List Char} {d : Char} {time rest : List Char}
    (hday : ∀ c ∈ day, isDayChar c) (hd : d.isDigit) (htime : ∀ c ∈ time, isClockChar c)
    (hrest : StartsBlank rest) :
    date (day ++ 'T' :: d :: (time ++ rest)) = dateTimeLexeme (day ++ 'T' :: d :: time) := by
  have hday : (day ++ 'T' :: d :: (time ++ rest)).takeWhile isDayChar = day :=
    Text.takeWhile_append_of_stops hday (Text.stops_cons.mpr (by decide))
  have hclock : (d :: (time ++ rest)).takeWhile isClockChar = d :: time := by
    rw [List.takeWhile_cons_of_pos (by simp [isClockChar, hd]),
      Text.takeWhile_append_of_stops htime (hrest.stops fun c => isVisible_of_isClockChar)]
  rw [date_eq, hday, List.drop_left]
  change (if d.isDigit then
      dateTimeLexeme (day ++ 'T' :: (d :: (time ++ rest)).takeWhile isClockChar)
    else date.justDay day) = _
  rw [if_pos hd, hclock]

theorem reads_date {text : String} (hstart : StartsDate text.toList)
    (hchars : ∀ c ∈ text.toList, isDayChar c) (hday : (Date.read? text.toList).isSome) :
    Lexeme.Reads ⟨.date, text, text.toList⟩ := by
  obtain ⟨d, hd⟩ := Option.isSome_iff_exists.mp hday
  obtain ⟨c, more, htext, hc⟩ := hstart.exists_isDigit
  refine ⟨c, more, htext, Text.isVisible_of_isDigit hc, fun rest hrest => ?_⟩
  have hread := date_of_startsBlank hchars hrest
  rw [date.justDay, hd, String.ofList_toList, htext] at hread
  rw [htext] at hstart
  exact (of_startsDate (hstart.append rest)).trans hread

theorem reads_dateTime {text : String} (h : IsDateTimeLexeme text.toList) :
    Lexeme.Reads ⟨.dateTime, text, text.toList⟩ := by
  obtain ⟨hdateTime, day, d, time, htext, hstart, hd, hday, htime⟩ := h
  obtain ⟨c, more, rfl, hc⟩ := hstart.exists_isDigit
  refine ⟨c, more ++ 'T' :: d :: time, htext, Text.isVisible_of_isDigit hc, fun rest hrest => ?_⟩
  have hread := date_of_clock hday hd htime hrest
  rw [← htext, dateTimeLexeme, if_pos hdateTime, String.ofList_toList, htext] at hread
  rw [List.append_assoc]
  exact (of_startsDate (hstart.append _)).trans hread

/-- `c` may stand in a time of day. -/
def isTimeChar (c : Char) : Bool :=
  c.isDigit || c == ':' || c == '.'

theorem isVisible_of_isTimeChar {c : Char} (h : isTimeChar c) : IsVisible c := by
  simp only [isTimeChar, Bool.or_eq_true, beq_iff_eq] at h
  rcases h with (h | rfl) | rfl
  · exact Text.isVisible_of_isDigit h
  · decide
  · decide

theorem time_eq (text : List Char) : time text =
    match TimeOfDay.read? (text.takeWhile isTimeChar) with
    | some _ => .token .time (String.ofList (text.takeWhile isTimeChar))
        ((text.takeWhile isTimeChar).length - 1)
    | none   => .fault (.invalidLiteral .time (String.ofList (text.takeWhile isTimeChar)))
        (text.takeWhile isTimeChar).length := rfl

theorem reads_time {text : String} {hour more : List Char}
    (htext : text.toList = hour ++ ':' :: more) (hlength : hour.length = 2)
    (hhour : ∀ c ∈ hour, c.isDigit) (hmore : ∀ c ∈ more, isTimeChar c)
    (htime : (TimeOfDay.read? text.toList).isSome) :
    Lexeme.Reads ⟨.time, text, text.toList⟩ := by
  obtain ⟨t, ht⟩ := Option.isSome_iff_exists.mp htime
  have hchars : ∀ c ∈ text.toList, isTimeChar c := by
    rw [htext, List.forall_mem_append, List.forall_mem_cons]
    exact ⟨fun c hc => by simp [isTimeChar, hhour c hc], rfl, hmore⟩
  have hread : ∀ rest, StartsBlank rest → numeric (hour ++ ':' :: (more ++ rest)) =
      .token .time text ((hour ++ ':' :: more).length - 1) := by
    intro rest hrest
    have htake : (hour ++ ':' :: (more ++ rest)).takeWhile isTimeChar = text.toList := by
      rw [← List.cons_append, ← List.append_assoc, ← htext]
      exact Text.takeWhile_append_of_stops hchars (hrest.stops fun c => isVisible_of_isTimeChar)
    rw [numeric, digitsWidth_append hhour (Text.stops_cons.mpr (by decide)), List.drop_left]
    change (if hour.length = 2 then time (hour ++ ':' :: (more ++ rest)) else number _) = _
    rw [if_pos hlength, time_eq, htake, ht, ← htext, String.ofList_toList]
  obtain ⟨c, tail, rfl⟩ := List.exists_cons_of_length_pos (l := hour) (by omega)
  have hc := hhour c List.mem_cons_self
  refine ⟨c, tail ++ ':' :: more, htext, Text.isVisible_of_isDigit hc, fun rest hrest => ?_⟩
  rw [List.append_assoc]
  exact (of_isDigit hc _).trans (hread rest hrest)

end Reading

/-! ### Texts of lexemes -/

/-- The text consists of the lexemes, with blanks around them and at least one between two of
them. -/
inductive Laid : List Char → List Lexeme → Prop
  | nil {gap : List Char} (hgap : ∀ c ∈ gap, Text.isBlank c) : Laid gap []
  | cons {gap : List Char} {l : Lexeme} {rest : List Char} {ls : List Lexeme}
      (hgap : ∀ c ∈ gap, Text.isBlank c) (hrest : StartsBlank rest) (h : Laid rest ls) :
      Laid (gap ++ (l.spelling ++ rest)) (l :: ls)

/-- The tokens are those of the lexemes. -/
def Spells (ts : List Token) (ls : List Lexeme) : Prop :=
  ts.map (fun t => (t.kind, t.value)) = ls.map fun l => (l.kind, l.value)

namespace Cursor

theorem rest_skipBlanks (c : Cursor) : c.skipBlanks.rest = c.rest.dropWhile Text.isBlank := by
  obtain ⟨rest, position⟩ := c
  have hsplit : rest = rest.takeWhile Text.isBlank ++ rest.dropWhile Text.isBlank :=
    List.takeWhile_append_dropWhile.symm
  calc rest.drop (rest.takeWhile Text.isBlank).length
    _ = (rest.takeWhile Text.isBlank ++ rest.dropWhile Text.isBlank).drop
        (rest.takeWhile Text.isBlank).length := congrArg _ hsplit
    _ = rest.dropWhile Text.isBlank := List.drop_left

/-- At the end, blanks apart, there are no tokens. -/
theorem tokens_of_blank {c : Cursor} (h : ∀ x ∈ c.rest, Text.isBlank x) :
    ∃ s, c.tokens = .ok s ∧ s.tokens = [] := by
  have hrest : c.skipBlanks.rest = [] := by
    rw [rest_skipBlanks, List.dropWhile_eq_nil_iff]
    exact h
  rw [tokens.eq_def]
  split
  · exact ⟨_, rfl, rfl⟩
  · rename_i hcons
    rw [hrest] at hcons
    cases hcons

/-- A token behind blanks comes before all others. -/
theorem tokens_of_token {c : Cursor} {gap rest : List Char} {first : Char} {kind : TokenKind}
    {value : String} {more : Nat} (hc : c.rest = gap ++ first :: rest)
    (hgap : ∀ x ∈ gap, Text.isBlank x) (hfirst : Text.isBlank first = false)
    (hread : Reading.of first rest = .token kind value more) {ts : List (TokenKind × String)}
    (hlater : ∀ later : Cursor, later.rest = rest.drop more →
      ∃ s, later.tokens = .ok s ∧ s.tokens.map (fun t => (t.kind, t.value)) = ts) :
    ∃ s, c.tokens = .ok s ∧
      s.tokens.map (fun t => (t.kind, t.value)) = (kind, value) :: ts := by
  have hrest : c.skipBlanks.rest = first :: rest := by
    rw [rest_skipBlanks, hc, List.dropWhile_append_of_pos hgap,
      List.dropWhile_cons_of_neg (by simp [hfirst])]
  obtain ⟨s, hs, hts⟩ := hlater (c.skipBlanks.advance (more + 1)) (by
    rw [rest_advance, hrest, List.drop_succ_cons])
  refine ⟨{ s with tokens := ⟨kind, value, c.skipBlanks.position⟩ :: s.tokens }, ?_, ?_⟩
  · rw [tokens.eq_def]
    split
    · rename_i hnil
      rw [hrest] at hnil
      cases hnil
    · rename_i first' rest' hcons
      rw [hrest] at hcons
      obtain ⟨rfl, rfl⟩ := List.cons.inj hcons
      rw [hread]
      dsimp only
      rw [hs]
      rfl
  · rw [List.map_cons, hts]

end Cursor

/-- **A text of lexemes that read has their tokens.** -/
theorem Laid.tokens {text : List Char} {ls : List Lexeme} (h : Laid text ls)
    (hreads : ∀ l ∈ ls, l.Reads) (c : Cursor) (hc : c.rest = text) :
    ∃ s, c.tokens = .ok s ∧ Spells s.tokens ls := by
  induction h generalizing c with
  | nil hgap =>
      obtain ⟨s, hs, htokens⟩ := c.tokens_of_blank (hc ▸ hgap)
      exact ⟨s, hs, by rw [Spells, htokens]; rfl⟩
  | @cons gap l rest ls hgap hrest _ ih =>
      obtain ⟨hl, hls⟩ := List.forall_mem_cons.mp hreads
      obtain ⟨first, more, hspelling, hfirst, hread⟩ := hl
      rw [hspelling, List.cons_append] at hc
      refine Cursor.tokens_of_token hc hgap (Text.not_isBlank_of_isVisible hfirst)
        (hread rest hrest) fun later hlater => ih hls later ?_
      rw [hlater, List.drop_left]

end EntityFilter
