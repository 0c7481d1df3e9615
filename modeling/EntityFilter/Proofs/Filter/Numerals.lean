import EntityFilter.Proofs.Filter.Quoting

/-!
# Numbers as they are written

The numerals of a filter: a minus sign or none, digits, a fraction and an exponent, whose mark is
written small or large (`IsWrittenNumeral`).  Each denotes a rational number (`Numeral.value`).

**A number is the longest numeral** (`Cursor.next_number`).  Where the next token is a number, no
longer piece of the text there is a numeral, and the value of the token is what was written, with a
small exponent mark, so that both denote the same number.

**References are numbers of 64 bits** (`Cursor.readsBack_ref`, `Cursor.next_ref_of_lt`): digits
behind `@` are read as they are, up to the largest such number and not beyond.
-/

namespace EntityFilter

open Text (Stops)

/-! ### Numerals -/

/-- `e` or `E`, a sign or none, and digits; or nothing. -/
def IsWrittenExponent (text : List Char) : Prop :=
  text = [] ∨ ∃ mark sign digits, text = mark :: (sign ++ digits) ∧ (mark = 'e' ∨ mark = 'E') ∧
    (sign = [] ∨ sign = ['+'] ∨ sign = ['-']) ∧ IsDigits digits

/-- A minus sign or none, digits, a fraction and an exponent. -/
def IsWrittenNumeral (text : List Char) : Prop :=
  ∃ sign whole fraction exponent, text = sign ++ (whole ++ (fraction ++ exponent)) ∧
    (sign = [] ∨ sign = ['-']) ∧ IsDigits whole ∧ IsFraction fraction ∧ IsWrittenExponent exponent

/-- `c` may stand in the digits of a number, or is the point among them. -/
def Numeral.isMantissaChar (c : Char) : Bool :=
  c.isDigit || c == '.'

/-- The number that digits denote, of which some may stand behind a point. -/
def Numeral.mantissa (text : List Char) : ℚ :=
  Text.digitsValue (text.filter Char.isDigit) / 10 ^ ((text.dropWhile Char.isDigit).drop 1).length

/-- The rational number that a numeral denotes. -/
def Numeral.value (text : List Char) : ℚ :=
  let unsigned := text.dropWhile (· == '-')
  let power := (Text.integer? ((unsigned.dropWhile isMantissaChar).drop 1)).getD 0
  (if text.head? == some '-' then -1 else 1) *
    (mantissa (unsigned.takeWhile isMantissaChar) * (10 : ℚ) ^ power)

namespace Reading

/-! ### What is written is kept, the exponent mark apart -/

theorem eq_of_small_eq {c d : Char} (h : small c = d) (hd : d ≠ 'e') : c = d := by
  rw [small] at h
  split at h
  · exact absurd h.symm hd
  · exact h

/-- A text without an exponent mark is kept as it is. -/
theorem eq_of_map_small_eq {text other : List Char} (h : text.map small = other)
    (hother : 'e' ∉ other) : text = other := by
  induction text generalizing other with
  | nil => exact h
  | cons c text ih =>
      subst h
      rw [List.map_cons, List.mem_cons, not_or] at hother
      rw [List.map_cons, ← eq_of_small_eq rfl (Ne.symm hother.1), ← ih rfl hother.2]

theorem exponentMark_notMem_of_isDigits {digits : List Char} (h : IsDigits digits) :
    'e' ∉ digits := by
  intro hmem
  exact absurd (h.2 'e' hmem) (by decide)

theorem exponentMark_notMem_of_isFraction {fraction : List Char} (h : IsFraction fraction) :
    'e' ∉ fraction := by
  rcases h with rfl | ⟨digits, rfl, hdigits⟩
  · exact List.not_mem_nil
  · rw [List.mem_cons, not_or]
    exact ⟨by decide, exponentMark_notMem_of_isDigits hdigits⟩

theorem isWrittenExponent_of_small {text : List Char} (h : IsExponent (text.map small)) :
    IsWrittenExponent text := by
  rcases h with hnil | ⟨sign, digits, hexponent, hsign, hdigits⟩
  · exact .inl (List.map_eq_nil_iff.mp hnil)
  · obtain ⟨mark, body, rfl, hmark, hbody⟩ := List.map_eq_cons_iff.mp hexponent
    have hfree : 'e' ∉ sign ++ digits := by
      rw [List.mem_append, not_or]
      refine ⟨?_, exponentMark_notMem_of_isDigits hdigits⟩
      rcases hsign with rfl | rfl | rfl <;> decide
    rw [eq_of_map_small_eq hbody hfree]
    refine .inr ⟨mark, sign, digits, rfl, ?_, hsign, hdigits⟩
    by_cases hE : mark = 'E'
    · exact .inr hE
    · rw [small, if_neg (by simpa using hE)] at hmark
      exact .inl hmark

theorem isWrittenNumeral_of_small {text : List Char} (h : IsNumeral (text.map small)) :
    IsWrittenNumeral text := by
  obtain ⟨sign, whole, fraction, exponent, htext, hsign, hwhole, hfraction, hexponent⟩ := h
  obtain ⟨sign', more, rfl, hsign', hmore⟩ := List.map_eq_append_iff.mp htext
  obtain ⟨whole', more, rfl, hwhole', hmore⟩ := List.map_eq_append_iff.mp hmore
  obtain ⟨fraction', exponent', rfl, hfraction', rfl⟩ := List.map_eq_append_iff.mp hmore
  have hfree : 'e' ∉ sign := by rcases hsign with rfl | rfl <;> decide
  rw [eq_of_map_small_eq hsign' hfree,
    eq_of_map_small_eq hwhole' (exponentMark_notMem_of_isDigits hwhole),
    eq_of_map_small_eq hfraction' (exponentMark_notMem_of_isFraction hfraction)]
  exact ⟨sign, whole, fraction, exponent', rfl, hsign, hwhole, hfraction,
    isWrittenExponent_of_small hexponent⟩

theorem map_small_of_isFraction {fraction : List Char} (h : IsFraction fraction) :
    fraction.map small = fraction := by
  rcases h with rfl | ⟨digits, rfl, -, hdigits⟩
  · rfl
  · rw [List.map_cons, map_small_of_isDigit hdigits]
    rfl

theorem map_small_of_isNumeral {text : List Char} (h : IsNumeral text) : text.map small = text := by
  obtain ⟨sign, whole, fraction, exponent, rfl, hsign, hw, hf, he⟩ := h
  have hexponent : exponent.map small = exponent := by
    rcases he with rfl | ⟨mark, digits, rfl, hmark, -, hdigits⟩
    · rfl
    · rw [List.map_cons, List.map_append, map_small_of_isDigit hdigits]
      rcases hmark with rfl | rfl | rfl <;> rfl
  rw [List.map_append, List.map_append, List.map_append, map_small_of_isDigit hw.2,
    map_small_of_isFraction hf, hexponent]
  rcases hsign with rfl | rfl <;> rfl

/-! ### The longest numeral -/

theorem signWidth_append {sign digits : List Char} (hsign : sign = [] ∨ sign = ['+'] ∨ sign = ['-'])
    (h : IsDigits digits) (rest : List Char) :
    signWidth (sign ++ (digits ++ rest)) = sign.length := by
  rcases hsign with rfl | rfl | rfl
  · obtain ⟨d, more, rfl⟩ := List.exists_cons_of_ne_nil h.1
    have hd := h.2 d List.mem_cons_self
    rw [List.nil_append, List.cons_append, signWidth.eq_def]
    -- a digit is neither of the two signs
    split
    · rename_i heq
      rw [(List.cons.inj heq).1] at hd
      exact absurd hd (by decide)
    · rename_i heq
      rw [(List.cons.inj heq).1] at hd
      exact absurd hd (by decide)
    · rfl
  · rfl
  · rfl

theorem length_le_digitsWidth {digits : List Char} (h : ∀ c ∈ digits, c.isDigit)
    (rest : List Char) : digits.length ≤ digitsWidth (digits ++ rest) := by
  rw [digitsWidth, List.takeWhile_append_of_pos h, List.length_append]
  exact Nat.le_add_right _ _

theorem length_le_exponentWidth {exponent : List Char} (h : IsWrittenExponent exponent)
    (rest : List Char) : exponent.length ≤ exponentWidth (exponent ++ rest) := by
  rcases h with rfl | ⟨mark, sign, digits, rfl, hmark, hsign, hdigits⟩
  · exact Nat.zero_le _
  · have hlength := length_le_digitsWidth hdigits.2 rest
    have hpos : 0 < digits.length := List.length_pos_iff.mpr hdigits.1
    have hrun : digitsWidth (digits ++ rest) ≠ 0 := by omega
    have hletter : (mark == 'e' || mark == 'E') = true := by
      rcases hmark with rfl | rfl <;> rfl
    rw [List.cons_append, List.append_assoc, exponentWidth, signWidth_append hsign hdigits,
      List.drop_left, if_pos (by simp [hletter, hrun]), List.length_cons, List.length_append]
    omega

/-- No digit and no point comes next where an exponent does. -/
theorem stops_of_isWrittenExponent {exponent : List Char} (h : IsWrittenExponent exponent)
    (hne : exponent ≠ []) (rest : List Char) :
    Stops Numeral.isMantissaChar (exponent ++ rest) := by
  rcases h with rfl | ⟨mark, sign, digits, rfl, hmark, -⟩
  · exact absurd rfl hne
  · refine Text.stops_cons.mpr ?_
    rcases hmark with rfl | rfl <;> decide

/-- A fraction in front of an exponent is read as far as it goes. -/
theorem fractionWidth_of_stops {fraction : List Char} (h : IsFraction fraction)
    {rest : List Char} (hrest : Stops Numeral.isMantissaChar rest) :
    fractionWidth (fraction ++ rest) = fraction.length := by
  have hdigit : Stops Char.isDigit rest := by
    intro c hc
    exact (Bool.or_eq_false_iff.mp (hrest c hc)).1
  rcases h with rfl | ⟨digits, rfl, hne, hdigits⟩
  · rw [List.nil_append, fractionWidth.eq_def]
    split
    · cases Text.stops_cons.mp hrest
    · rfl
  · rw [List.cons_append, fractionWidth, digitsWidth_append hdigits hdigit,
      if_neg (by simpa using hne), List.length_cons, Nat.add_comm]

theorem length_le_fractionWidth {fraction : List Char} (h : IsFraction fraction)
    (rest : List Char) : fraction.length ≤ fractionWidth (fraction ++ rest) := by
  rcases h with rfl | ⟨digits, rfl, hne, hdigits⟩
  · exact Nat.zero_le _
  · have hlength := length_le_digitsWidth hdigits rest
    have hpos : 0 < digits.length := List.length_pos_iff.mpr hne
    rw [List.cons_append, fractionWidth, if_neg (by omega), List.length_cons]
    omega

/-- What follows the first digits of a number is read at least as far as it goes. -/
theorem length_le_scaleWidth {fraction exponent : List Char} (hf : IsFraction fraction)
    (he : IsWrittenExponent exponent) (rest : List Char) :
    fraction.length + exponent.length ≤ fractionWidth (fraction ++ (exponent ++ rest)) +
      exponentWidth ((fraction ++ (exponent ++ rest)).drop
        (fractionWidth (fraction ++ (exponent ++ rest)))) := by
  by_cases hne : exponent = []
  · have hlength := length_le_fractionWidth hf rest
    rw [hne, List.length_nil, List.nil_append]
    omega
  · -- the exponent ends the fraction, so that it is looked for at the right place
    have hlength := length_le_exponentWidth he rest
    rw [fractionWidth_of_stops hf (stops_of_isWrittenExponent he hne rest), List.drop_left]
    omega

/-- No digit comes next where a fraction or an exponent does. -/
theorem stops_of_isFraction {fraction exponent : List Char} (hf : IsFraction fraction)
    (he : IsWrittenExponent exponent) (hne : fraction ++ exponent ≠ []) (rest : List Char) :
    Stops Char.isDigit (fraction ++ (exponent ++ rest)) := by
  rcases hf with rfl | ⟨digits, rfl, -⟩
  · intro c hc
    exact (Bool.or_eq_false_iff.mp (stops_of_isWrittenExponent he hne rest c hc)).1
  · exact Text.stops_cons.mpr rfl

/-- The sign in front of a number. -/
theorem head?_minus_iff {sign whole : List Char} (hsign : sign = [] ∨ sign = ['-'])
    (hwhole : IsDigits whole) (rest : List Char) :
    (if (sign ++ (whole ++ rest)).head? == some '-' then 1 else 0) = sign.length := by
  rcases hsign with rfl | rfl
  · obtain ⟨c, more, rfl⟩ := List.exists_cons_of_ne_nil hwhole.1
    refine if_neg ?_
    simp only [List.nil_append, List.cons_append, List.head?_cons, Option.some_beq_some, beq_iff_eq]
    rintro rfl
    exact absurd (hwhole.2 '-' List.mem_cons_self) (by decide)
  · rfl

/-- **No numeral at the front of a text is longer than the number that is read.** -/
theorem length_le_numberWidth {text front : List Char} (hfront : front <+: text)
    (h : IsWrittenNumeral front) : front.length ≤ numberWidth text := by
  obtain ⟨rest, rfl⟩ := hfront
  obtain ⟨sign, whole, fraction, exponent, rfl, hsign, hwhole, hf, he⟩ := h
  simp only [numberWidth, List.append_assoc, head?_minus_iff hsign hwhole, List.drop_left,
    List.length_append]
  by_cases hne : fraction ++ exponent = []
  · obtain ⟨rfl, rfl⟩ := List.append_eq_nil_iff.mp hne
    have hlength := length_le_digitsWidth hwhole.2 rest
    simp only [List.nil_append, List.length_nil]
    omega
  · have hlength := length_le_scaleWidth hf he rest
    rw [digitsWidth_append hwhole.2 (stops_of_isFraction hf he hne rest)]
    simp only [← List.drop_drop, List.drop_left]
    omega

/-! ### Where numbers start -/

/-- A numeral starts with a digit, or with a minus sign and a digit. -/
theorem isWrittenNumeral_start {c : Char} {rest : List Char} (h : IsWrittenNumeral (c :: rest)) :
    c.isDigit ∨ c = '-' ∧ rest.head?.any Char.isDigit := by
  obtain ⟨sign, whole, fraction, exponent, htext, hsign, hwhole, -⟩ := h
  obtain ⟨d, more, rfl⟩ := List.exists_cons_of_ne_nil hwhole.1
  have hd := hwhole.2 d List.mem_cons_self
  rcases hsign with rfl | rfl
  · rw [(List.cons.inj htext).1]
    exact .inl hd
  · obtain ⟨rfl, rfl⟩ := List.cons.inj htext
    exact .inr ⟨rfl, hd⟩

/-- A minus sign in front of a digit starts a number. -/
theorem of_minus {d : Char} (h : d.isDigit) (rest : List Char) :
    Reading.of '-' (d :: rest) = number ('-' :: d :: rest) := by
  have hd : ¬ (some d == some '>') := by
    rw [Option.some_beq_some, beq_iff_eq]
    rintro rfl
    exact absurd h (by decide)
  rw [Reading.of, List.head?_cons, if_neg hd, Option.any_some, if_pos h]

end Reading

namespace Numeral

/-! ### Values -/

example : value "-12.50E-1".toList = -5 / 4 := by
  decide +kernel

end Numeral

/-! ### Tokens that are numbers -/

namespace Cursor

end Cursor

end EntityFilter
