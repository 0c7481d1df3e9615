import EntityFilter.Calendar.Reading
import EntityFilter.Proofs.Text.Characters

/-!
# Readers of dates and times

What the rules for the fields of a date or a time take of a text.  A run of digits is taken if there
are enough of them, and no more than that (`Reader.digits_append`); so a field of full width is
taken whatever follows it (`Reader.number_append`, `Reader.year_append`).  The fields that days and times
of day are printed with stand in `Date.toList_text` and `TimeOfDay.toList_text`.
-/

namespace EntityFilter

open Text (Stops)

namespace Reader

variable {α β : Type}

theorem bind_apply (x : Reader α) (f : α → Reader β) (text : List Char) :
    (x >>= f) text = (x text).bind fun p => f p.1 p.2 := rfl

theorem bind_eq_some_iff {x : Reader α} {f : α → Reader β} {text : List Char} {p : β × List Char} :
    (x >>= f) text = some p ↔ ∃ a rest, x text = some (a, rest) ∧ f a rest = some p := by
  rw [bind_apply, Option.bind_eq_some_iff, Prod.exists]

theorem whole?_eq_some_iff {rule : Reader α} {text : List Char} {a : α} :
    rule.whole? text = some a ↔ rule text = some (a, []) := by
  rw [whole?]
  constructor
  · intro h
    split at h
    · rename_i value hvalue
      rw [hvalue, Option.some.inj h]
    · cases h
  · intro h
    rw [h]

theorem char_cons (c : Char) (rest : List Char) : char c (c :: rest) = some ((), rest) := by
  simp [char]

/-- A run of digits is taken if there are enough, and no more than that, of them. -/
theorem digits_append {least most : Nat} {run rest : List Char} (hrun : ∀ c ∈ run, c.isDigit)
    (hleast : least ≤ run.length) (hmost : run.length ≤ most)
    (hstop : run.length = most ∨ Stops Char.isDigit rest) :
    digits least most (run ++ rest) = some (run, rest) := by
  have htake : ((run ++ rest).take most).takeWhile Char.isDigit = run := by
    rw [List.take_append, List.take_of_length_le hmost]
    refine Text.takeWhile_append_of_stops hrun ?_
    rcases hstop with hfull | hstop
    · simp [hfull, Stops]
    · intro c hc
      rw [List.head?_take] at hc
      split at hc
      · cases hc
      · exact hstop c hc
  simp only [digits]
  rw [htake, if_pos hleast, List.drop_left]

theorem of_digits_eq_some {least most : Nat} {text run rest : List Char}
    (h : digits least most text = some (run, rest)) :
    (∀ c ∈ run, c.isDigit) ∧ run.length ≤ most := by
  simp only [digits] at h
  split at h
  · obtain ⟨rfl, -⟩ := Prod.mk.inj (Option.some.inj h)
    refine ⟨fun c hc => List.all_eq_true.mp List.all_takeWhile c hc, ?_⟩
    exact Nat.le_trans (List.takeWhile_sublist _).length_le (List.length_take_le _ _)
  · cases h

/-- Blanks in front of a digit are none. -/
theorem blanks_append {run rest : List Char} (hne : run ≠ []) (hrun : ∀ c ∈ run, c.isDigit) :
    blanks (run ++ rest) = some ((), run ++ rest) := by
  obtain ⟨c, more, rfl⟩ := List.exists_cons_of_ne_nil hne
  have hvisible := Text.isVisible_of_isDigit (hrun c List.mem_cons_self)
  simp [blanks, Text.trimStart, Text.not_isBlank_of_isVisible hvisible]

/-- A number of two digits is taken, whatever follows. -/
theorem number_append {run : List Char} (hlength : run.length = 2) (hrun : ∀ c ∈ run, c.isDigit)
    (rest : List Char) : number (run ++ rest) = some (Text.digitsValue run, rest) := by
  have hne : run ≠ [] := List.ne_nil_of_length_pos (by omega)
  rw [number, bind_apply, blanks_append hne hrun]
  change (digits 1 2 (run ++ rest)).bind _ = _
  rw [digits_append hrun (by omega) (by omega) (.inl hlength)]
  rfl

/-- A text that starts with a digit has a year without a sign. -/
theorem year_of_isDigit {c : Char} (hc : c.isDigit) (rest : List Char) :
    year (c :: rest) =
      (digits 1 4 (c :: rest)).bind fun p => some ((Text.digitsValue p.1 : Int), p.2) := by
  have hblanks : blanks ([c] ++ rest) = some ((), [c] ++ rest) :=
    blanks_append (by simp) (by simpa using hc)
  change blanks (c :: rest) = _ at hblanks
  rw [year, bind_apply, hblanks, Option.bind_some]
  dsimp only
  split
  · rename_i heq
    rw [(List.cons.inj heq).1] at hc
    exact absurd hc (by decide)
  · rename_i heq
    rw [(List.cons.inj heq).1] at hc
    exact absurd hc (by decide)
  · rfl

/-- A year of four digits is taken, whatever follows. -/
theorem year_append {run : List Char} (hlength : run.length = 4) (hrun : ∀ c ∈ run, c.isDigit)
    (rest : List Char) : year (run ++ rest) = some ((Text.digitsValue run : Int), rest) := by
  have hdigits : digits 1 4 (run ++ rest) = some (run, rest) :=
    digits_append hrun (by omega) (by omega) (.inl hlength)
  obtain ⟨c, more, rfl⟩ := List.exists_cons_of_length_pos (l := run) (by omega)
  rw [List.cons_append] at hdigits ⊢
  rw [year_of_isDigit (hrun c List.mem_cons_self), hdigits, Option.bind_some]

end Reader

/-! ### Days -/

namespace Date

theorem of?_self (d : Date) : of? d.year d.month d.day = some d := by
  rw [of?, dif_pos d.isDay]

/-- The fields of a day of the years 0 to 9999. -/
theorem toList_text {d : Date} (h : 0 ≤ d.year ∧ d.year ≤ 9999) :
    d.text.toList = (Text.padded 4 d.year.toNat).toList ++ '-' ::
      ((Text.padded 2 d.month).toList ++ '-' :: (Text.padded 2 d.day).toList) := by
  have hyear : yearText d.year = Text.padded 4 d.year.toNat := by
    rw [yearText, if_pos (by simpa using h)]
  rw [text, hyear]
  simp only [String.toList_append, List.append_assoc]
  rfl

theorem day_le (d : Date) : d.day ≤ 31 := by
  obtain ⟨-, -, -, -, -, hday⟩ := d.isDay
  refine Nat.le_trans hday ?_
  rw [daysInMonth.eq_def]
  split
  · split <;> decide
  · decide
  · decide
  · decide
  · decide
  · exact Nat.le_refl 31

end Date

/-! ### Times of day -/

namespace TimeOfDay

theorem of?_self (t : TimeOfDay) : of? t.hour t.minute t.second t.nano = some t := by
  rw [of?, dif_pos t.isTime]

/-- The fields of a time of day. -/
theorem toList_text (t : TimeOfDay) :
    t.text.toList = (Text.padded 2 t.hour).toList ++ ':' :: ((Text.padded 2 t.minute).toList ++
      ':' :: ((Text.padded 2 t.second).toList ++ (fractionText t.nano).toList)) := by
  rw [text]
  simp only [String.toList_append, List.append_assoc]
  rfl

end TimeOfDay

end EntityFilter
