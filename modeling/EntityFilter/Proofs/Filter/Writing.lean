import EntityFilter.Proofs.Filter.Spelling
import EntityFilter.Proofs.Filter.Tokens

/-!
# How tokens are written

A token stands for a piece of text, and `TokenKind.Writes` says which: the token's value as it is, a
number with the exponent mark in either letter case, a reference behind `@`, and quoted texts in
their quotes, with escapes between double quotes (`Escaped`) and quotes doubled between single ones
(`doubled`).

**Readers take what is written** (`Reading.covers_of`).  The characters that a token takes write it,
so that none is dropped and none is read twice, and a reader that gives up has not looked beyond the
end of the text.
-/

namespace EntityFilter

/-! ### Quoted texts -/

/-- What stands behind a backslash, and the character that it stands for. -/
inductive IsEscape : List Char → Char → Prop
  | simple {c d : Char} (h : Reading.simpleEscape? c = some d) : IsEscape [c] d
  | hex {digits : List Char} {d : Char} (hlength : digits.length = 4)
      (hdigits : ∀ c ∈ digits, Reading.isHexDigit c) (h : Reading.charOfHex? digits = some d) :
      IsEscape ('u' :: digits) d

/-- What stands between double quotes, and the text that it stands for. -/
inductive Escaped : List Char → List Char → Prop
  | nil : Escaped [] []
  | plain {c : Char} {body value : List Char} (hquote : c ≠ '"') (hescape : c ≠ '\\')
      (h : Escaped body value) : Escaped (c :: body) (c :: value)
  | escape {spelling : List Char} {c : Char} {body value : List Char}
      (hspelling : IsEscape spelling c) (h : Escaped body value) :
      Escaped ('\\' :: (spelling ++ body)) (c :: value)

/-- A text as it is written in double quotes. -/
def Reading.escaped : List Char → List Char
  | []        => []
  | c :: rest => if c == '"' || c == '\\' then '\\' :: c :: escaped rest else c :: escaped rest

theorem escaped_escaped (text : List Char) : Escaped (Reading.escaped text) text := by
  induction text with
  | nil => exact .nil
  | cons c text ih =>
      rw [Reading.escaped]
      split
      · rename_i hc
        simp only [Bool.or_eq_true, beq_iff_eq] at hc
        rcases hc with rfl | rfl
        · exact .escape (.simple rfl) ih
        · exact .escape (.simple rfl) ih
      · rename_i hc
        simp only [Bool.or_eq_true, beq_iff_eq, not_or] at hc
        exact .plain hc.1 hc.2 ih

/-- The text as it stands between single quotes. -/
def doubled (value : List Char) : List Char :=
  value.flatMap fun c => if c == '\'' then ['\'', '\''] else [c]

/-- A token of this kind and value is written so. -/
def TokenKind.Writes (value spelling : List Char) : TokenKind → Prop
  | .str    => ∃ body, spelling = '"' :: (body ++ ['"']) ∧ Escaped body value
  | .inStr  => spelling = '\'' :: (doubled value ++ ['\''])
  | .uri    => spelling = '\x60' :: (value ++ ['\x60']) ∧ '\x60' ∉ value
  | .ref    => spelling = '@' :: value
  | .number => spelling.map Reading.small = value
  | .eof    => False
  | _       => spelling = value

namespace QuotedBody

variable {quote : Char} {P Q : List Char → List Char → Prop} {text : List Char} {b : QuotedBody}

/-- The body, which stands for its value by `P`, and the quote behind it are the front of the text;
or no more than the text was looked through. -/
def Covers (quote : Char) (P : List Char → List Char → Prop) (text : List Char) : QuotedBody → Prop
  | closed value width =>
    ∃ body tail, text = body ++ quote :: tail ∧ width = body.length + 1 ∧ P body value
  | fault _ taken => taken ≤ text.length

/-- Characters in front that add nothing to the value. -/
theorem Covers.skip (h : b.Covers quote P text) (front : List Char)
    (hfront : ∀ body value, P body value → Q (front ++ body) value) :
    (b.skip front.length).Covers quote Q (front ++ text) := by
  cases b with
  | closed value width =>
      obtain ⟨body, tail, rfl, rfl, hbody⟩ := h
      exact ⟨front ++ body, tail, by simp, by simp [Nat.add_assoc], hfront body value hbody⟩
  | fault cause taken =>
      have htaken : taken ≤ text.length := h
      change front.length + taken ≤ (front ++ text).length
      rw [List.length_append]
      omega

/-- Characters in front that stand for `c`. -/
theorem Covers.push (h : b.Covers quote P text) (front : List Char) (c : Char)
    (hfront : ∀ body value, P body value → Q (front ++ body) (c :: value)) :
    (b.push c front.length).Covers quote Q (front ++ text) := by
  cases b with
  | closed value width =>
      obtain ⟨body, tail, rfl, rfl, hbody⟩ := h
      exact ⟨front ++ body, tail, by simp, by simp [Nat.add_assoc], hfront body value hbody⟩
  | fault cause taken =>
      have htaken : taken ≤ text.length := h
      change front.length + taken ≤ (front ++ text).length
      rw [List.length_append]
      omega

/-- The closing quote. -/
theorem covers_closed (tail : List Char) (h : P [] []) :
    (closed [] 1).Covers quote P (quote :: tail) :=
  ⟨[], tail, rfl, rfl, h⟩

end QuotedBody

namespace Reading

/-! ### Bodies of quoted texts -/

/-- What of an escape has been read. -/
def EscapeState.front : EscapeState → List Char
  | .plain      => []
  | .escaped    => ['\\']
  | .hex digits => '\\' :: 'u' :: digits

/-- The digits of a code point are digits, and not all of them have been read. -/
def EscapeState.Begun : EscapeState → Prop
  | .hex digits => digits.length < 4 ∧ ∀ c ∈ digits, isHexDigit c
  | _           => True

theorem isHexDigit_of_mem_concat {digits : List Char} {c : Char}
    (hdigits : ∀ d ∈ digits, isHexDigit d) (hc : ¬ (!isHexDigit c)) :
    ∀ d ∈ digits ++ [c], isHexDigit d := by
  intro d hd
  rcases List.mem_append.mp hd with hd | hd
  · exact hdigits d hd
  · rw [List.mem_singleton.mp hd]
    simpa using hc

theorem covers_strBody (s : EscapeState) (text : List Char) (hs : s.Begun) :
    (strBody s text).Covers '"' (fun body value => Escaped (s.front ++ body) value) text := by
  fun_induction strBody s text with
  | case1 => exact Nat.le_refl _
  | case2 => exact Nat.le_refl _
  | case3 digits => exact Nat.le_refl _
  | case4 c rest hquote =>
      obtain rfl := beq_iff_eq.mp hquote
      exact QuotedBody.covers_closed rest .nil
  | case5 c rest _ hescape ih =>
      obtain rfl := beq_iff_eq.mp hescape
      exact (ih trivial).skip ['\\'] fun _ _ h => h
  | case6 c rest hquote hescape ih =>
      refine (ih trivial).push [c] c fun _ _ h => ?_
      exact .plain (mt beq_iff_eq.mpr hquote) (mt beq_iff_eq.mpr hescape) h
  | case7 c rest hu ih =>
      obtain rfl := beq_iff_eq.mp hu
      exact (ih ⟨by simp, by simp⟩).skip ['u'] fun _ _ h => h
  | case8 c rest _ d hd ih =>
      exact (ih trivial).push [c] d fun body value h => @Escaped.escape [c] d _ _ (.simple hd) h
  | case9 c rest _ _ => exact Nat.zero_le _
  | case10 digits c rest _ => exact Nat.zero_le _
  | case11 digits c rest hdigit hshort ih =>
      have hbegun : (EscapeState.hex (digits ++ [c])).Begun :=
        ⟨by simp only [List.length_append, List.length_singleton]; omega,
          isHexDigit_of_mem_concat hs.2 hdigit⟩
      refine (ih hbegun).skip [c] fun body value h => ?_
      rwa [EscapeState.front, List.cons_append, List.cons_append, List.append_assoc] at h
  | case12 digits c rest hdigit hlong d hd ih =>
      have hspelling : IsEscape ('u' :: (digits ++ [c])) d :=
        .hex (by have := hs.1; simp only [List.length_append, List.length_singleton]; omega)
          (isHexDigit_of_mem_concat hs.2 hdigit) hd
      refine (ih trivial).push [c] d fun body value h => ?_
      have hescape := Escaped.escape hspelling h
      rwa [List.cons_append, List.append_assoc] at hescape
  | case13 digits c rest hdigit hlong hnone =>
      exact Nat.le_add_left 1 rest.length

theorem covers_inStrBody (text : List Char) :
    (inStrBody text).Covers '\'' (fun body value => body = doubled value) text := by
  fun_induction inStrBody text with
  | case1 => exact Nat.le_refl _
  | case2 rest ih => exact ih.push ['\'', '\''] '\'' fun _ _ h => by rw [h]; rfl
  | case3 rest _ => exact QuotedBody.covers_closed rest rfl
  | case4 c rest hdouble hquote ih =>
      refine ih.push [c] c fun _ _ h => ?_
      have hc : (c == '\'') = false := beq_eq_false_iff_ne.mpr hquote
      simp only [doubled, List.flatMap_cons, hc, h]
      rfl

theorem covers_uriBody (text : List Char) :
    (uriBody text).Covers '\x60' (fun body value => body = value ∧ '\x60' ∉ value) text := by
  fun_induction uriBody text with
  | case1 => exact Nat.le_refl _
  | case2 c rest hquote =>
      obtain rfl := beq_iff_eq.mp hquote
      exact QuotedBody.covers_closed rest ⟨rfl, List.not_mem_nil⟩
  | case3 c rest hquote ih =>
      refine ih.push [c] c fun body value h => ⟨by rw [h.1]; rfl, ?_⟩
      rw [List.mem_cons, not_or]
      exact ⟨fun heq => hquote (beq_iff_eq.mpr heq.symm), h.2⟩

/-! ### Lexemes -/

/-- The characters that the token takes write it; or no more than the text was looked through. -/
def Covers (text : List Char) : Reading → Prop
  | .token kind value more =>
    more < text.length ∧ kind.Writes value.toList (text.take (more + 1))
  | .fault _ taken => taken ≤ text.length

/-- A token that takes the front of a text. -/
theorem covers_front {kind : TokenKind} {value : String} {c : Char} (more rest : List Char)
    (h : kind.Writes value.toList (c :: more)) :
    (Reading.token kind value more.length).Covers (c :: more ++ rest) := by
  refine ⟨?_, ?_⟩
  · simp only [List.length_append, List.length_cons]
    omega
  · rwa [← List.length_cons, List.take_left]

/-- A token that takes some of the text and is written as these characters. -/
theorem covers_take {kind : TokenKind} {value : String} {text lexeme : List Char}
    (hlexeme : lexeme <+: text) (hne : lexeme ≠ []) (h : kind.Writes value.toList lexeme) :
    (Reading.token kind value (lexeme.length - 1)).Covers text := by
  obtain ⟨rest, rfl⟩ := hlexeme
  obtain ⟨c, more, rfl⟩ := List.exists_cons_of_ne_nil hne
  exact covers_front more rest h

theorem covers_toReading {kind : TokenKind} {quote : Char} {P : List Char → List Char → Prop}
    {b : QuotedBody} {rest : List Char} (h : b.Covers quote P rest)
    (hP : ∀ body value, P body value → kind.Writes value (quote :: (body ++ [quote]))) :
    (b.toReading kind).Covers (quote :: rest) := by
  cases b with
  | closed value width =>
      obtain ⟨body, tail, rfl, rfl, hbody⟩ := h
      have hwrites : kind.Writes (String.ofList value).toList (quote :: (body ++ [quote])) := by
        rw [String.toList_ofList]
        exact hP body value hbody
      have hcovers := covers_front _ tail hwrites
      simp only [List.length_append, List.length_singleton, List.cons_append,
        List.append_assoc, List.nil_append] at hcovers
      exact hcovers
  | fault cause taken => exact Nat.succ_le_succ h

theorem covers_number {c : Char} {rest : List Char} (h : c.isDigit ∨ c = '-') :
    (number (c :: rest)).Covers (c :: rest) := by
  have hwidth : 0 < numberWidth (c :: rest) := numberWidth_pos h
  refine covers_take (List.take_prefix _ _) (fun hnil => ?_) ?_
  · rw [List.take_eq_nil_iff] at hnil
    simp only [reduceCtorEq, or_false] at hnil
    omega
  · rw [String.toList_ofList]
    rfl

theorem covers_reference (rest : List Char) : (reference rest).Covers ('@' :: rest) := by
  have hdigits := (List.takeWhile_prefix Char.isDigit (l := rest)).length_le
  rw [reference]
  split
  · have hwrites : TokenKind.ref.Writes (String.ofList (rest.takeWhile Char.isDigit)).toList
        ('@' :: rest.takeWhile Char.isDigit) := by
      rw [String.toList_ofList]
      rfl
    have hcovers := covers_front _ (rest.dropWhile Char.isDigit) hwrites
    rwa [List.cons_append, List.takeWhile_append_dropWhile] at hcovers
  · have htail := (List.takeWhile_prefix (fun c => c.isAlphanum || c == ':' || c == '_')
      (l := rest.drop (rest.takeWhile Char.isDigit).length)).length_le
    rw [List.length_drop] at htail
    simp only [Covers, List.length_cons]
    omega

/-- A word is written as it is, of whatever kind it is. -/
theorem writes_wordKind (text : List Char) :
    (wordKind (String.ofList text)).Writes (String.ofList text).toList text := by
  have hkind := wordKind_cases (String.ofList text)
  simp only [List.mem_cons, List.not_mem_nil, or_false] at hkind
  rw [String.toList_ofList]
  rcases hkind with h | h | h | h | h | h <;> rw [h] <;> rfl

theorem covers_word (c : Char) (rest : List Char) : (word c rest).Covers (c :: rest) := by
  have hcovers := covers_front _ (rest.dropWhile isNamePart)
    (writes_wordKind (c :: rest.takeWhile isNamePart))
  rwa [List.cons_append, List.takeWhile_append_dropWhile] at hcovers

theorem takeWhile_ne_nil {p : Char → Bool} {c : Char} (h : p c) (rest : List Char) :
    (c :: rest).takeWhile p ≠ [] := by
  rw [List.takeWhile_cons_of_pos h]
  exact List.cons_ne_nil _ _

theorem covers_justDay {text : List Char} (h : text.takeWhile isDayChar ≠ []) :
    (date.justDay (text.takeWhile isDayChar)).Covers text := by
  have hday : text.takeWhile isDayChar <+: text := List.takeWhile_prefix _
  rw [date.justDay]
  split
  · exact covers_take hday h (by rw [String.toList_ofList]; rfl)
  · exact hday.length_le

theorem covers_dateTimeLexeme {text lexeme : List Char} (hlexeme : lexeme <+: text)
    (hne : lexeme ≠ []) : (dateTimeLexeme lexeme).Covers text := by
  rw [dateTimeLexeme]
  split
  · exact covers_take hlexeme hne (by rw [String.toList_ofList]; rfl)
  · exact hlexeme.length_le

theorem covers_date {text : List Char} (h : text.takeWhile isDayChar ≠ []) :
    (date text).Covers text := by
  rw [date_eq]
  split
  · rename_i d rest hdrop
    split
    · refine covers_dateTimeLexeme ?_ (by simp)
      have htext : text.takeWhile isDayChar ++ 'T' :: d :: rest = text := by
        rw [← hdrop]
        exact (List.prefix_append_drop (List.takeWhile_prefix isDayChar)).symm
      have hclock : (d :: rest).takeWhile isClockChar <+: d :: rest := List.takeWhile_prefix _
      nth_rewrite 2 [← htext]
      exact (List.prefix_append_right_inj _).mpr ((List.prefix_cons_inj 'T').mpr hclock)
    · exact covers_justDay h
  · exact covers_justDay h

theorem covers_time {c : Char} {rest : List Char} (h : c.isDigit) :
    (time (c :: rest)).Covers (c :: rest) := by
  rw [time]
  split
  · refine covers_take (List.takeWhile_prefix _) (takeWhile_ne_nil (by simp [h]) rest) ?_
    rw [String.toList_ofList]
    rfl
  · exact (List.takeWhile_prefix _).length_le

theorem covers_numeric {c : Char} {rest : List Char} (h : c.isDigit) :
    (numeric (c :: rest)).Covers (c :: rest) := by
  rw [numeric]
  split
  · split
    · exact covers_date (takeWhile_ne_nil (by simp [isDayChar, h]) rest)
    · exact covers_number (.inl h)
  · split
    · exact covers_time h
    · exact covers_number (.inl h)
  · exact covers_number (.inl h)

/-- A sign that the text starts with. -/
theorem covers_sign {kind : TokenKind} {c d : Char} {rest : List Char}
    (hrest : rest.head? == some d) (h : kind.Writes [c, d] [c, d]) :
    (Reading.token kind (String.ofList [c, d]) 1).Covers (c :: rest) := by
  obtain ⟨more, rfl⟩ : ∃ more, rest = d :: more := by
    exact List.head?_eq_some_iff.mp (beq_iff_eq.mp hrest)
  exact covers_front [d] more (by rwa [String.toList_ofList])

/-- **A lexeme takes what is written.** -/
theorem covers_of (c : Char) (rest : List Char) : (Reading.of c rest).Covers (c :: rest) := by
  rw [Reading.of.eq_def]
  split
  · exact covers_front [] rest rfl
  · exact covers_front [] rest rfl
  · exact covers_front [] rest rfl
  · split
    case isTrue h => exact covers_sign h rfl
    case isFalse => exact Nat.zero_le _
  · split
    case isTrue h => exact covers_sign h rfl
    case isFalse => exact Nat.zero_le _
  · split
    case isTrue h => exact covers_sign h rfl
    case isFalse => exact covers_front [] rest rfl
  · split
    case isTrue h => exact covers_sign h rfl
    case isFalse => exact covers_front [] rest rfl
  · split
    case isTrue h => exact covers_sign h rfl
    case isFalse =>
      split
      · exact covers_number (.inr rfl)
      · exact Nat.zero_le _
  · exact covers_toReading (covers_strBody .plain rest trivial) fun body _ h => ⟨body, rfl, h⟩
  · exact covers_toReading (covers_inStrBody rest) fun body value h => by rw [h]; rfl
  · exact covers_toReading (covers_uriBody rest) fun body value h => ⟨by rw [h.1], h.2⟩
  · exact covers_reference rest
  · split
    · rename_i hdigit
      exact covers_numeric hdigit
    · split
      · exact covers_word c rest
      · exact Nat.zero_le _

end Reading

end EntityFilter
