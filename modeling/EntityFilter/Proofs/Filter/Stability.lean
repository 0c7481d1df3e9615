import EntityFilter.Proofs.Filter.Numerals

/-!
# Lexemes do not depend on what follows

A reader looks at the character behind a lexeme only to see that the lexeme does not go on there,
and no lexeme goes on with a blank.  So numbers and quoted texts read as well, in every way they can
be written (`Reading.reads_writtenNumeral`, `Reading.reads_escaped`).

**Lexemes are settled** (`Reading.settled_of`).  Whatever a token was read from is read as the same
token wherever a blank or the end of the text follows, by cases on the first character.
-/

namespace EntityFilter

open Text (IsVisible Stops StartsBlank)

namespace Reading

/-! ### Numbers -/

theorem isVisible_of_isWrittenNumeralChar {c : Char} (h : isWrittenNumeralChar c) :
    IsVisible c := by
  simp only [isWrittenNumeralChar, isNumeralChar, Bool.or_eq_true, beq_iff_eq] at h
  rcases h with ((((h | rfl) | rfl) | rfl) | rfl) | rfl
  · exact Text.isVisible_of_isDigit h
  · decide
  · decide
  · decide
  · decide
  · decide

/-- A number that a blank follows is read as far as it goes, and no further. -/
theorem take_numberWidth_append {text rest : List Char} (h : IsWrittenNumeral text)
    (hrest : StartsBlank rest) :
    (text ++ rest).take (numberWidth (text ++ rest)) = text := by
  have hle : text.length ≤ numberWidth (text ++ rest) :=
    length_le_numberWidth (List.prefix_append text rest) h
  cases rest with
  | nil =>
      rw [List.append_nil] at hle ⊢
      exact List.take_of_length_le hle
  | cons blank more =>
      by_cases hlt : text.length < numberWidth (text ++ blank :: more)
      · -- then the blank is taken, which stands in no number
        have hmem : blank ∈ (text ++ blank :: more).take (numberWidth (text ++ blank :: more)) := by
          rw [List.take_append, List.mem_append]
          refine .inr ?_
          rw [← Nat.succ_pred_eq_of_pos (Nat.sub_pos_of_lt hlt), List.take_succ_cons]
          exact List.mem_cons_self
        have hvisible := isVisible_of_isWrittenNumeralChar (mem_take_numberWidth hmem)
        have hblank := hrest blank rfl
        rw [Text.not_isBlank_of_isVisible hvisible] at hblank
        cases hblank
      · rw [Nat.le_antisymm (Nat.not_lt.mp hlt) hle, List.take_left]

/-- No character of `p` comes next where one of `marks` or a blank does. -/
theorem stops_of_head? {p : Char → Bool} {marks : List Char} {rest : List Char}
    (hp : ∀ c, p c → IsVisible c) (hmarks : ∀ c ∈ marks, p c = false)
    (h : ∀ c ∈ rest.head?, c ∈ marks ∨ Text.isBlank c) : Stops p rest := by
  intro c hc
  rcases h c hc with hmark | hblank
  · exact hmarks c hmark
  · have hstart : StartsBlank [c] := fun d hd => Option.some.inj hd ▸ hblank
    exact Text.stops_cons.mp (hstart.stops hp)

/-- What follows the first digits of a number. -/
theorem stops_of_scale {p : Char → Bool} (hp : ∀ c, p c → IsVisible c)
    (hmarks : ∀ c ∈ ['.', 'e', 'E'], p c = false) {fraction exponent rest : List Char}
    (hf : IsFraction fraction) (he : IsWrittenExponent exponent) (hrest : StartsBlank rest) :
    Stops p (fraction ++ (exponent ++ rest)) := by
  refine stops_of_head? hp hmarks fun c hc => ?_
  rcases hf with rfl | ⟨digits, rfl, -⟩
  · rcases he with rfl | ⟨mark, sign, digits, rfl, hmark, -⟩
    · exact .inr (hrest c hc)
    · obtain rfl := Option.some.inj hc
      exact .inl (by rcases hmark with rfl | rfl <;> decide)
  · obtain rfl := Option.some.inj hc
    exact .inl List.mem_cons_self

/-- Digits that neither a hyphen nor a colon follows start a number. -/
theorem numeric_eq_number {text : List Char}
    (h : Stops (fun c => c == '-' || c == ':') (text.drop (digitsWidth text))) :
    numeric text = number text := by
  rw [numeric]
  split
  · rename_i heq
    rw [heq, Text.stops_cons] at h
    cases h
  · rename_i heq
    rw [heq, Text.stops_cons] at h
    cases h
  · rfl

/-- Digits that start a numeral start neither a date nor a time. -/
theorem numeric_of_isWrittenNumeral {c : Char} {more rest : List Char} (hc : c.isDigit)
    (h : IsWrittenNumeral (c :: more)) (hrest : StartsBlank rest) :
    numeric (c :: more ++ rest) = number (c :: more ++ rest) := by
  obtain ⟨sign, whole, fraction, exponent, htext, hsign, hwhole, hf, he⟩ := h
  obtain rfl : sign = [] := by
    refine hsign.resolve_right ?_
    rintro rfl
    rw [(List.cons.inj htext).1] at hc
    exact absurd hc (by decide)
  refine numeric_eq_number ?_
  have hstops := stops_of_scale (fun d => Text.isVisible_of_isDigit) (by simp) hf he hrest
  rw [htext, List.nil_append, List.append_assoc, List.append_assoc,
    digitsWidth_append hwhole.2 hstops, List.drop_left]
  refine stops_of_scale (fun d hd => ?_) (by simp) hf he hrest
  simp only [Bool.or_eq_true, beq_iff_eq] at hd
  rcases hd with rfl | rfl <;> decide

/-- A numeral reads as a number with a small exponent mark. -/
theorem reads_writtenNumeral {text : List Char} (h : IsWrittenNumeral text) :
    Lexeme.Reads ⟨.number, String.ofList (text.map small), text⟩ := by
  cases text with
  | nil =>
      obtain ⟨sign, whole, fraction, exponent, htext, -, hwhole, -⟩ := h
      exact absurd (List.append_eq_nil_iff.mp (List.append_eq_nil_iff.mp htext.symm).2).1 hwhole.1
  | cons c more =>
      have hnumber : ∀ rest, StartsBlank rest → number (c :: more ++ rest) =
          .token .number (String.ofList ((c :: more).map small)) more.length := by
        intro rest hrest
        change Reading.token _ (String.ofList (((c :: more ++ rest).take
          (numberWidth (c :: more ++ rest))).map small)) _ = _
        rw [take_numberWidth_append h hrest]
        rfl
      rcases isWrittenNumeral_start h with hc | ⟨rfl, hmore⟩
      · refine ⟨c, more, rfl, Text.isVisible_of_isDigit hc, fun rest hrest => ?_⟩
        rw [of_isDigit hc, ← hnumber rest hrest]
        exact numeric_of_isWrittenNumeral hc h hrest
      · cases more with
        | nil => cases hmore
        | cons d more =>
            refine ⟨'-', d :: more, rfl, by decide, fun rest hrest => ?_⟩
            rw [← hnumber rest hrest]
            exact of_minus hmore (more ++ rest)

/-- A number with a small exponent mark reads as it is. -/
theorem reads_number {text : String} (h : IsNumeral text.toList) :
    Lexeme.Reads ⟨.number, text, text.toList⟩ := by
  have hsmall := map_small_of_isNumeral h
  have hreads := reads_writtenNumeral (isWrittenNumeral_of_small (hsmall.symm ▸ h))
  rwa [hsmall, String.ofList_toList] at hreads

/-! ### Quoted texts -/

theorem reads_escaped {body value : List Char} (h : Escaped body value) :
    Lexeme.Reads ⟨.str, String.ofList value, '"' :: (body ++ ['"'])⟩ := by
  refine ⟨'"', _, rfl, by decide, fun rest _ => ?_⟩
  change (strBody .plain _).toReading .str = _
  rw [List.append_assoc, List.singleton_append, strBody_of_escaped h, QuotedBody.toReading,
    List.length_append]
  rfl

theorem reads_str (text : String) :
    Lexeme.Reads ⟨.str, text, '"' :: (escaped text.toList ++ ['"'])⟩ := by
  have hreads := reads_escaped (escaped_escaped text.toList)
  rwa [String.ofList_toList] at hreads

theorem reads_doubled (value : List Char) :
    Lexeme.Reads ⟨.inStr, String.ofList value, '\'' :: (doubled value ++ ['\''])⟩ := by
  refine ⟨'\'', _, rfl, by decide, fun rest hrest => ?_⟩
  have hquote : rest.head? ≠ some '\'' := by
    have := head?_ne_of_startsBlank hrest (d := '\'') (by decide)
    simpa using this
  change (inStrBody _).toReading .inStr = _
  rw [List.append_assoc, List.singleton_append, inStrBody_doubled value hquote,
    QuotedBody.toReading, List.length_append]
  rfl

/-! ### What readers promise -/

/-- The token, if there is one, is read from the same characters wherever a blank follows. -/
def Settled (text : List Char) : Reading → Prop
  | .token kind value more => Lexeme.Reads ⟨kind, value, text.take (more + 1)⟩
  | .fault _ _             => True

/-- A token that takes some of the text, which reads. -/
theorem settled_take {kind : TokenKind} {value : String} {text lexeme : List Char}
    (hlexeme : lexeme <+: text) (h : Lexeme.Reads ⟨kind, value, lexeme⟩) :
    (Reading.token kind value (lexeme.length - 1)).Settled text := by
  obtain ⟨rest, rfl⟩ := hlexeme
  obtain ⟨c, more, hspelling, -⟩ := id h
  obtain rfl : lexeme = c :: more := hspelling
  rwa [Settled, List.length_cons, Nat.add_sub_cancel, ← List.length_cons, List.take_left]

theorem settled_quoted {kind : TokenKind} {quote : Char} {P : List Char → List Char → Prop}
    {b : QuotedBody} {rest : List Char} (h : b.Covers quote P rest)
    (hP : ∀ body value, P body value →
      Lexeme.Reads ⟨kind, String.ofList value, quote :: (body ++ [quote])⟩) :
    (b.toReading kind).Settled (quote :: rest) := by
  cases b with
  | closed value width =>
      obtain ⟨body, tail, rfl, rfl, hbody⟩ := h
      have hfront : quote :: (body ++ [quote]) <+: quote :: (body ++ quote :: tail) :=
        ⟨tail, by simp⟩
      have hsettled := settled_take hfront (hP body value hbody)
      rwa [List.length_cons, List.length_append, Nat.add_sub_cancel] at hsettled
  | fault cause taken => trivial

theorem settled_number {c : Char} {rest : List Char}
    (h : c.isDigit ∨ c = '-' ∧ rest.head?.any Char.isDigit) :
    (number (c :: rest)).Settled (c :: rest) := by
  have hspelt : IsNumeral (String.ofList (((c :: rest).take (numberWidth (c :: rest))).map
    small)).toList := spelt_number h
  rw [String.toList_ofList] at hspelt
  exact settled_take (List.take_prefix _ _)
    (reads_writtenNumeral (isWrittenNumeral_of_small hspelt))

theorem settled_reference (rest : List Char) : (reference rest).Settled ('@' :: rest) := by
  rw [reference]
  split
  · rename_i n hn
    have hdigits : ∀ c ∈ rest.takeWhile Char.isDigit, c.isDigit := fun c => List.mem_takeWhile_imp
    have hfront : '@' :: rest.takeWhile Char.isDigit <+: '@' :: rest :=
      (List.prefix_cons_inj '@').mpr (List.takeWhile_prefix _)
    refine settled_take hfront ⟨'@', _, rfl, by decide, fun later hlater => ?_⟩
    have hstops := hlater.stops fun c => Text.isVisible_of_isDigit
    change reference (rest.takeWhile Char.isDigit ++ later) = _
    rw [reference]
    simp only [Text.takeWhile_append_of_stops hdigits hstops, hn]
  · trivial

theorem settled_word {c : Char} (rest : List Char) (hc : isNameStart c) :
    (word c rest).Settled (c :: rest) := by
  have hpart : ∀ d ∈ rest.takeWhile isNamePart, isNamePart d := fun d => List.mem_takeWhile_imp
  have hword : (String.ofList (c :: rest.takeWhile isNamePart)).toList =
      c :: rest.takeWhile isNamePart := String.toList_ofList
  have hreads := reads_word hword hc hpart
  rw [String.toList_ofList] at hreads
  exact settled_take ((List.prefix_cons_inj c).mpr (List.takeWhile_prefix _)) hreads

/-! ### Dates and times -/

theorem settled_justDay {text : List Char} (h : StartsDate text) :
    (date.justDay (text.takeWhile isDayChar)).Settled text := by
  rw [date.justDay]
  split
  · rename_i d hd
    have hreads := @reads_date (String.ofList (text.takeWhile isDayChar))
    simp only [String.toList_ofList] at hreads
    exact settled_take (List.takeWhile_prefix _) (hreads (startsDate_takeWhile h)
      (fun c => List.mem_takeWhile_imp) (Option.isSome_iff_exists.mpr ⟨d, hd⟩))
  · trivial

theorem settled_date {text : List Char} (h : StartsDate text) : (date text).Settled text := by
  have hspelt := spelt_date h
  rw [date_eq] at hspelt ⊢
  split
  · rename_i d rest hdrop
    rw [hdrop] at hspelt
    split
    · rename_i hd
      simp only [if_pos hd] at hspelt
      rw [dateTimeLexeme] at hspelt ⊢
      split
      · rename_i hdateTime
        rw [if_pos hdateTime] at hspelt
        have hreads := reads_dateTime hspelt
        rw [String.toList_ofList] at hreads
        refine settled_take ?_ hreads
        have htext : text.takeWhile isDayChar ++ 'T' :: d :: rest = text := by
          rw [← hdrop]
          exact (List.prefix_append_drop (List.takeWhile_prefix isDayChar)).symm
        have hclock : (d :: rest).takeWhile isClockChar <+: d :: rest := List.takeWhile_prefix _
        nth_rewrite 2 [← htext]
        exact (List.prefix_append_right_inj _).mpr ((List.prefix_cons_inj 'T').mpr hclock)
      · trivial
    · exact settled_justDay h
  · exact settled_justDay h

theorem settled_time {text more : List Char} (hwidth : digitsWidth text = 2)
    (hdrop : text.drop (digitsWidth text) = ':' :: more) : (time text).Settled text := by
  have htext : text.take 2 ++ ':' :: more = text := by
    rw [← hdrop, hwidth, List.take_append_drop]
  have hhour : ∀ c ∈ text.take 2, c.isDigit := by
    rw [← hwidth]
    exact fun c => isDigit_of_mem_take
  have htake : text.takeWhile isTimeChar = text.take 2 ++ ':' :: more.takeWhile isTimeChar := by
    conv_lhs => rw [← htext]
    rw [List.takeWhile_append_of_pos fun c hc => by simp [isTimeChar, hhour c hc],
      List.takeWhile_cons_of_pos rfl]
  have hlength : (text.take 2).length = 2 := by
    rw [← hwidth, take_digitsWidth]
    rfl
  rw [time_eq]
  split
  · rename_i t ht
    have htime : (String.ofList (text.takeWhile isTimeChar)).toList =
        text.take 2 ++ ':' :: more.takeWhile isTimeChar := String.toList_ofList.trans htake
    have hreads := reads_time htime hlength hhour fun c => List.mem_takeWhile_imp
    rw [String.toList_ofList] at hreads
    exact settled_take (List.takeWhile_prefix _) (hreads (Option.isSome_iff_exists.mpr ⟨t, ht⟩))
  · trivial

theorem settled_numeric {c : Char} {rest : List Char} (h : c.isDigit) :
    (numeric (c :: rest)).Settled (c :: rest) := by
  rw [numeric]
  split
  · rename_i d more hdrop
    split
    · rename_i hdate
      simp only [Bool.and_eq_true, decide_eq_true_eq] at hdate
      refine settled_date ⟨(c :: rest).take (digitsWidth (c :: rest)), d, more, ?_, ?_, ?_, hdate.2⟩
      · rw [← hdrop, List.take_append_drop]
      · rw [take_digitsWidth]
        exact hdate.1
      · exact fun c => isDigit_of_mem_take
    · exact settled_number (.inl h)
  · rename_i more hdrop
    split
    · rename_i hwidth
      exact settled_time hwidth hdrop
    · exact settled_number (.inl h)
  · exact settled_number (.inl h)

/-! ### All lexemes -/

/-- A sign of two characters. -/
theorem settled_sign {kind : TokenKind} {c d : Char} {rest : List Char}
    (hrest : rest.head? == some d) (h : Lexeme.Reads ⟨kind, String.ofList [c, d], [c, d]⟩) :
    (Reading.token kind (String.ofList [c, d]) 1).Settled (c :: rest) := by
  obtain ⟨more, rfl⟩ := List.head?_eq_some_iff.mp (beq_iff_eq.mp hrest)
  exact h

/-- **Lexemes are settled.** -/
theorem settled_of (c : Char) (rest : List Char) : (Reading.of c rest).Settled (c :: rest) := by
  rw [Reading.of.eq_def]
  split
  · exact reads_openParen
  · exact reads_closeParen
  · exact reads_comma
  · split
    case isTrue h => exact settled_sign h (reads_comparison .eq)
    case isFalse => trivial
  · split
    case isTrue h => exact settled_sign h (reads_comparison .ne)
    case isFalse => trivial
  · split
    case isTrue h => exact settled_sign h (reads_comparison .le)
    case isFalse => exact reads_comparison .lt
  · split
    case isTrue h => exact settled_sign h (reads_comparison .ge)
    case isFalse => exact reads_comparison .gt
  · split
    case isTrue h => exact settled_sign h reads_arrow
    case isFalse =>
      split
      case isTrue h => exact settled_number (.inr ⟨rfl, h⟩)
      case isFalse => trivial
  · exact settled_quoted (covers_strBody .plain rest trivial) fun _ _ h => reads_escaped h
  · exact settled_quoted (covers_inStrBody rest) fun _ value h => h ▸ reads_doubled value
  · refine settled_quoted (covers_uriBody rest) ?_
    rintro body _ ⟨rfl, hbody⟩
    have hreads := @reads_uri (String.ofList body) (by rwa [String.toList_ofList])
    rwa [String.toList_ofList] at hreads
  · exact settled_reference rest
  · split
    · rename_i hdigit
      exact settled_numeric hdigit
    · split
      · rename_i hname
        exact settled_word rest hname
      · trivial

end Reading

end EntityFilter
