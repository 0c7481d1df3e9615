import EntityFilter.Proofs.Filter.Lexemes
import EntityFilter.Proofs.Filter.Writing
import EntityFilter.Query.Sql

/-!
# Quoted texts are read back

A text can be written between double quotes in many ways: quotes and backslashes stand behind a
backslash, a line break, a tab or a carriage return may be written as `\n`, `\t` or `\r`, and every
character below `U+10000` as `\u` with its code point in four hexadecimal digits (`Encodes`).

**Quoted texts are read back** (`Cursor.next_quoted`).  However a text was written between double
quotes, and with its quotes doubled between single ones, and as it is between back quotes, the next
token has the text as its value, and what follows the closing quote is left as it is.
-/

namespace EntityFilter

/-! ### Ways to write a text -/

/-- `digit` is the hexadecimal digit `n`, in either letter case. -/
def IsHexDigitOf (n : Nat) (digit : Char) : Prop :=
  digit = Nat.digitChar n ∨ digit = (Nat.digitChar n).toUpper

/-- `c` is written so between double quotes. -/
inductive Encodes : Char → List Char → Prop
  | plain {c : Char} (hquote : c ≠ '"') (hescape : c ≠ '\\') : Encodes c [c]
  | quote : Encodes '"' ['\\', '"']
  | backslash : Encodes '\\' ['\\', '\\']
  | newline : Encodes '\n' ['\\', 'n']
  | tab : Encodes '\t' ['\\', 't']
  | carriageReturn : Encodes '\r' ['\\', 'r']
  | code {c d₁ d₂ d₃ d₄ : Char} (hc : c.toNat < 0x10000)
      (h₁ : IsHexDigitOf (c.toNat / 0x1000) d₁) (h₂ : IsHexDigitOf (c.toNat / 0x100 % 0x10) d₂)
      (h₃ : IsHexDigitOf (c.toNat / 0x10 % 0x10) d₃) (h₄ : IsHexDigitOf (c.toNat % 0x10) d₄) :
      Encodes c ['\\', 'u', d₁, d₂, d₃, d₄]

namespace Reading

/-! ### Code points -/

theorem hexDigit_of_isHexDigitOf {n : Nat} (hn : n < 0x10) {digit : Char}
    (h : IsHexDigitOf n digit) : isHexDigit digit ∧ hexDigit digit = n := by
  rcases h with rfl | rfl
  · interval_cases n <;> decide
  · interval_cases n <;> decide

/-- Four digits of a code point stand for its character. -/
theorem charOfHex?_of_value {c : Char} {digits : List Char}
    (h : digits.foldl (fun n d => 16 * n + hexDigit d) 0 = c.toNat) :
    charOfHex? digits = some c := by
  have hvalid : c.toNat.isValidChar := c.valid
  rw [charOfHex?, h, if_pos hvalid, Char.ofNat_toNat]

theorem isEscape_code {c d₁ d₂ d₃ d₄ : Char} (hc : c.toNat < 0x10000)
    (h₁ : IsHexDigitOf (c.toNat / 0x1000) d₁) (h₂ : IsHexDigitOf (c.toNat / 0x100 % 0x10) d₂)
    (h₃ : IsHexDigitOf (c.toNat / 0x10 % 0x10) d₃) (h₄ : IsHexDigitOf (c.toNat % 0x10) d₄) :
    IsEscape ['u', d₁, d₂, d₃, d₄] c := by
  obtain ⟨hd₁, hv₁⟩ := hexDigit_of_isHexDigitOf (by omega) h₁
  obtain ⟨hd₂, hv₂⟩ := hexDigit_of_isHexDigitOf (by omega) h₂
  obtain ⟨hd₃, hv₃⟩ := hexDigit_of_isHexDigitOf (by omega) h₃
  obtain ⟨hd₄, hv₄⟩ := hexDigit_of_isHexDigitOf (by omega) h₄
  refine .hex rfl (by simp [hd₁, hd₂, hd₃, hd₄]) (charOfHex?_of_value ?_)
  simp only [List.foldl_cons, List.foldl_nil, hv₁, hv₂, hv₃, hv₄]
  omega

/-- Characters that are written one after the other. -/
theorem escaped_of_encodes {value : List Char} {parts : List (List Char)}
    (h : List.Forall₂ Encodes value parts) : Escaped parts.flatten value := by
  induction h with
  | nil => exact .nil
  | cons hc _ ih =>
      cases hc with
      | plain hquote hescape => exact .plain hquote hescape ih
      | quote | backslash | newline | tab | carriageReturn => exact .escape (.simple rfl) ih
      | code hc h₁ h₂ h₃ h₄ => exact .escape (isEscape_code hc h₁ h₂ h₃ h₄) ih

/-! ### Bodies of quoted texts -/

/-- An escape stands for one character. -/
theorem strBody_escape {spelling : List Char} {d : Char} (h : IsEscape spelling d)
    (text : List Char) : strBody .plain ('\\' :: (spelling ++ text)) =
      (strBody .plain text).push d (spelling.length + 1) := by
  have hskip : ∀ (b : QuotedBody) (m n : Nat), (b.push d m).skip n = b.push d (n + m) := by
    intro b m n
    cases b <;> simp [QuotedBody.push, QuotedBody.skip, Nat.add_assoc]
  cases h with
  | @simple c _ hsimple =>
      have hu : ¬ (c == 'u') := by
        rw [beq_iff_eq]
        rintro rfl
        cases hsimple
      change (strBody .escaped (c :: text)).skip 1 = _
      rw [strBody, if_neg hu, hsimple]
      exact hskip _ _ _
  | @hex digits _ hlength hdigits hd =>
      obtain ⟨d₁, d₂, d₃, d₄, rfl⟩ := List.length_eq_four.mp hlength
      simp only [List.forall_mem_cons] at hdigits
      obtain ⟨hd₁, hd₂, hd₃, hd₄, -⟩ := hdigits
      -- each digit in turn joins those that have been read
      have hread : strBody (.hex []) (d₁ :: d₂ :: d₃ :: d₄ :: text) =
          ((((strBody .plain text).push d 1).skip 1).skip 1).skip 1 := by
        simp [strBody, hd₁, hd₂, hd₃, hd₄, hd]
      change ((strBody (.hex []) (d₁ :: d₂ :: d₃ :: d₄ :: text)).skip 1).skip 1 = _
      rw [hread]
      simp only [hskip]
      rfl

theorem strBody_of_escaped {body value : List Char} (h : Escaped body value) (rest : List Char) :
    strBody .plain (body ++ '"' :: rest) = .closed value (body.length + 1) := by
  induction h with
  | nil => rfl
  | plain hquote hescape _ ih =>
      rw [List.cons_append, strBody, if_neg (by simpa using hquote),
        if_neg (by simpa using hescape), ih, QuotedBody.push, List.length_cons, Nat.add_comm]
  | @escape spelling c body value hspelling _ ih =>
      rw [List.cons_append, List.append_assoc, strBody_escape hspelling, ih, QuotedBody.push,
        List.length_cons, List.length_append]
      congr 1
      omega

/-- Doubled quotes are read as one, and a single one ends the text unless another follows. -/
theorem inStrBody_doubled (value : List Char) {rest : List Char} (h : rest.head? ≠ some '\'') :
    inStrBody (doubled value ++ '\'' :: rest) = .closed value ((doubled value).length + 1) := by
  induction value with
  | nil =>
      change inStrBody ('\'' :: rest) = .closed [] 1
      rw [inStrBody.eq_def]
      split
      · rename_i hnil
        cases hnil
      · rename_i hquotes
        rw [(List.cons.inj hquotes).2] at h
        exact absurd rfl h
      · rfl
      · rename_i hother hquote
        exact absurd (List.cons.inj hquote).1.symm hother
  | cons c value ih =>
      by_cases hc : c = '\''
      · subst hc
        change (inStrBody (doubled value ++ '\'' :: rest)).push '\'' 2 = _
        rw [ih, QuotedBody.push]
        congr 1
        change _ = (doubled value).length + 2 + 1
        omega
      · have hdoubled : doubled (c :: value) = c :: doubled value := by
          simp [doubled, hc]
        rw [hdoubled, List.cons_append, inStrBody, ih, QuotedBody.push, List.length_cons,
          Nat.add_comm]
        · rintro _ rfl
          exact absurd rfl hc
        · rintro rfl
          exact absurd rfl hc

end Reading

/-! ### Tokens of quoted texts -/

namespace Cursor

/-- Where `spelling` is followed by `rest`, the next token is this one, and just `rest` is left. -/
def ReadsBack (kind : TokenKind) (value : String) (spelling rest : List Char) : Prop :=
  ∀ p : Position, next ⟨spelling ++ rest, p⟩ = (.ok ⟨kind, value, p⟩, ⟨rest, p.after spelling⟩)

/-- A token that starts with no blank. -/
theorem readsBack_of_token {kind : TokenKind} {value : String} {first : Char}
    {more rest : List Char} (hfirst : Text.isBlank first = false)
    (h : Reading.of first (more ++ rest) = .token kind value more.length) :
    ReadsBack kind value (first :: more) rest := by
  intro p
  have hskip : skipBlanks ⟨first :: more ++ rest, p⟩ = ⟨first :: more ++ rest, p⟩ := by
    rw [skipBlanks, List.cons_append, List.takeWhile_cons_of_neg (by simp [hfirst])]
    rfl
  have hadvance : advance ⟨first :: more ++ rest, p⟩ (more.length + 1) =
      ⟨rest, p.after (first :: more)⟩ := by
    rw [advance, ← List.length_cons, List.drop_left, List.take_left]
  rw [next, hskip]
  simp only [List.cons_append, h]
  rw [← List.cons_append, hadvance]

/-- A quoted text whose body is read to its closing quote. -/
theorem readsBack_of_closed {kind : TokenKind} {value : String} {quote : Char}
    {body rest : List Char} {b : QuotedBody} (hquote : Text.isBlank quote = false)
    (hof : Reading.of quote (body ++ quote :: rest) = b.toReading kind)
    (hb : b = .closed value.toList (body.length + 1)) :
    ReadsBack kind value (quote :: (body ++ [quote])) rest := by
  refine readsBack_of_token hquote ?_
  rw [List.append_assoc, List.singleton_append, hof, hb, QuotedBody.toReading,
    String.ofList_toList, List.length_append, List.length_singleton]

/-- **Quoted texts are read back**, whatever they say and whatever follows them. -/
theorem next_quoted (s : String) (rest : List Char) :
    (∀ parts, List.Forall₂ Encodes s.toList parts →
      ReadsBack .str s ('"' :: (parts.flatten ++ ['"'])) rest) ∧
    (rest.head? ≠ some '\'' → ReadsBack .inStr s (Sql.quoteLiteral s).toList rest) ∧
    ('\x60' ∉ s.toList → ReadsBack .uri s ('\x60' :: (s.toList ++ ['\x60'])) rest) := by
  refine ⟨fun parts hparts => ?_, fun hrest => ?_, fun hs => ?_⟩
  · exact readsBack_of_closed (by decide) rfl
      (Reading.strBody_of_escaped (Reading.escaped_of_encodes hparts) rest)
  · have hliteral : (Sql.quoteLiteral s).toList = '\'' :: (doubled s.toList ++ ['\'']) := by
      rw [Sql.quoteLiteral, Sql.quoted, String.toList_ofList, List.cons_append, doubled]
      congr 3
      funext c
      by_cases hc : c = '\''
      · rw [hc]
      · simp [hc]
    rw [hliteral]
    exact readsBack_of_closed (by decide) rfl (Reading.inStrBody_doubled _ hrest)
  · exact readsBack_of_closed (by decide) rfl (Reading.uriBody_append hs rest)

/-- A text with both quotes, a backslash, a line break and characters on both sides of `U+10000`,
with a quote right behind it. -/
theorem next_quoted_mixed :
    ReadsBack .str "é\"\\\n'😀" "\"\\u00E9\\\"\\\\\\n\\u0027😀\"".toList ['"'] ∧
    ReadsBack .inStr "é\"\\\n'😀" "'é\"\\\n''😀'".toList ['"'] ∧
    ReadsBack .uri "é\"\\\n'😀" "\x60é\"\\\n'😀\x60".toList ['"'] := by
  obtain ⟨hstr, hinStr, huri⟩ := next_quoted "é\"\\\n'😀" ['"']
  refine ⟨hstr [['\\', 'u', '0', '0', 'E', '9'], ['\\', '"'], ['\\', '\\'], ['\\', 'n'],
    ['\\', 'u', '0', '0', '2', '7'], ['😀']] ?_, hinStr (by decide), huri (by decide)⟩
  refine .cons (.code (by decide) (.inl rfl) (.inl rfl) (.inr rfl) (.inl rfl)) ?_
  refine .cons .quote (.cons .backslash (.cons .newline (.cons (.code ?_ ?_ ?_ ?_ ?_) ?_)))
  · decide
  · exact .inl rfl
  · exact .inl rfl
  · exact .inl rfl
  · exact .inl rfl
  · exact .cons (.plain (by decide) (by decide)) .nil

end Cursor

end EntityFilter
