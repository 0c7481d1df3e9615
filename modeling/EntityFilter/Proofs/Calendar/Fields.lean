import EntityFilter.Proofs.Calendar.Readers

/-!
# Dates and times by their fields

How days and times of day are written, said apart from the readers.  A field is a run of digits of
a certain width (`Text.IsField`), and the digits behind a point are a part of a second, of which
what is below a nanosecond is dropped (`Text.IsPart`).  A day is three fields between hyphens
(`Date.Written`), a time of day three fields between colons and a part of a second
(`TimeOfDay.Written`), or hour and minute alone (`TimeOfDay.Short`).

**Readers take what is written** (`Reader.date_append`, `Reader.clock_append`), where no digit
follows that would lengthen the last field, and take nothing else where there are no blanks or signs
(`Date.written_of_read?`, `TimeOfDay.written_of_read?`).  Hence the text of a day of the years 0 to
9999 denotes that day (`Date.read?_text`), and the text of a time of day denotes that time
(`TimeOfDay.read?_text`).
-/

namespace EntityFilter

open Text (Stops)

/-! ### Fields -/

namespace Text

/-- Digits, `least` to `most` of them, that denote `n`. -/
structure IsField (least most n : Nat) (run : List Char) : Prop where
  least_le : least ≤ run.length
  le_most : run.length ≤ most
  isDigit : ∀ c ∈ run, c.isDigit
  value : digitsValue run = n

theorem IsField.widen {least least' most n : Nat} {run : List Char} (h : IsField least most n run)
    (hle : least' ≤ least) : IsField least' most n run :=
  ⟨Nat.le_trans hle h.least_le, h.le_most, h.isDigit, h.value⟩

theorem IsField.ne_nil {least most n : Nat} {run : List Char} (h : IsField least most n run)
    (hleast : 1 ≤ least) : run ≠ [] :=
  List.ne_nil_of_length_pos (Nat.le_trans hleast h.least_le)

theorem IsField.length_eq {width n : Nat} {run : List Char} (h : IsField width width n run) :
    run.length = width :=
  Nat.le_antisymm h.le_most h.least_le

theorem isField_padded {width n : Nat} (hwidth : 0 < width) (h : n < 10 ^ width) :
    IsField width width n (padded width n).toList := by
  have hlength := length_padded hwidth h
  exact ⟨hlength.ge, hlength.le, fun c => isDigit_of_mem_padded, digitsValue_padded width n⟩

/-- A point and digits that denote so many nanoseconds as a part of a second, or nothing. -/
def IsPart (nano : Nat) (text : List Char) : Prop :=
  text = [] ∧ nano = 0 ∨ ∃ run, text = '.' :: run ∧ run ≠ [] ∧ (∀ c ∈ run, c.isDigit) ∧
    nano = digitsValue run * 10 ^ 9 / 10 ^ run.length

theorem IsPart.mem {nano : Nat} {part : List Char} (h : IsPart nano part) :
    ∀ c ∈ part, c = '.' ∨ c.isDigit := by
  rcases h with ⟨rfl, -⟩ | ⟨run, rfl, -, hrun, -⟩
  · simp
  · exact List.forall_mem_cons.mpr ⟨.inl rfl, fun c hc => .inr (hrun c hc)⟩

theorem stops_nil {p : Char → Bool} : Stops p [] := by
  simp [Stops]

/-- What is dropped ends where no such character comes next. -/
theorem dropWhile_append_of_stops {p : Char → Bool} {run text : List Char} (hrun : ∀ c ∈ run, p c)
    (h : Stops p text) : (run ++ text).dropWhile p = text := by
  rw [List.dropWhile_append_of_pos hrun]
  cases text with
  | nil => rfl
  | cons c rest => rw [List.dropWhile_cons_of_neg (by simp [stops_cons.mp h])]

theorem digitsValue_append (digits more : List Char) :
    digitsValue (digits ++ more) = digitsValue digits * 10 ^ more.length + digitsValue more := by
  rw [digitsValue_eq, Nat.ofDigitChars_append, Nat.ofDigitChars_eq_ofDigitChars_zero,
    Nat.mul_comm]
  rfl

end Text

namespace Reader

/-- The nanoseconds are the part of the second, without what is below one nanosecond. -/
theorem nanoseconds_eq {run : List Char} (h : ∀ c ∈ run, c.isDigit) :
    nanoseconds run = Text.digitsValue run * 10 ^ 9 / 10 ^ run.length := by
  rw [nanoseconds, List.take_append, List.take_replicate]
  by_cases hlength : run.length ≤ 9
  · rw [List.take_of_length_le hlength, Nat.min_eq_left (Nat.sub_le _ _),
      Text.digitsValue_append_zeros]
    refine (Nat.div_eq_of_eq_mul_left (by positivity) ?_).symm
    have hpow : 10 ^ 9 = 10 ^ (9 - run.length) * 10 ^ run.length := by
      rw [← Nat.pow_add, Nat.sub_add_cancel hlength]
    rw [hpow, Nat.mul_comm (10 ^ (9 - run.length)) (Text.digitsValue run), Nat.mul_assoc]
  · -- the digits behind the first nine are less than one of the ninth
    have hsplit := Text.digitsValue_append (run.take 9) (run.drop 9)
    rw [List.take_append_drop] at hsplit
    have hdigits : ∀ c ∈ run.drop 9, c.isDigit := fun c hc => h c (List.mem_of_mem_drop hc)
    have hlt := Text.digitsValue_lt hdigits
    have hpow : 10 ^ run.length = 10 ^ (run.drop 9).length * 10 ^ 9 := by
      rw [← Nat.pow_add, List.length_drop, Nat.sub_add_cancel (by omega)]
    rw [Nat.sub_eq_zero_of_le (by omega), Nat.zero_min, List.replicate_zero, List.append_nil,
      hpow, Nat.mul_div_mul_right _ _ (by positivity), hsplit, Nat.add_comm,
      Nat.add_mul_div_right _ _ (by positivity), Nat.div_eq_of_lt hlt, Nat.zero_add]

/-! ### Fields are read -/

/-- One rule after another. -/
theorem bind_of_eq {α β : Type} {x : Reader α} {f : α → Reader β} {text rest : List Char} {a : α}
    (h : x text = some (a, rest)) : (x >>= f) text = f a rest := by
  rw [bind_apply, h, Option.bind_some]

/-- A number is taken if no digit lengthens it. -/
theorem number_of_field {n : Nat} {run rest : List Char} (h : Text.IsField 1 2 n run)
    (hrest : Stops Char.isDigit rest) : number (run ++ rest) = some (n, rest) := by
  rw [number, bind_apply, blanks_append (h.ne_nil le_rfl) h.isDigit]
  change (digits 1 2 (run ++ rest)).bind _ = _
  rw [digits_append h.isDigit h.least_le h.le_most (.inr hrest), ← h.value]
  rfl

/-- A field of a fixed width is taken, whatever follows. -/
theorem field_of_field {width n : Nat} {run : List Char} (h : Text.IsField width width n run)
    (rest : List Char) : field width (run ++ rest) = some (n, rest) := by
  change (digits width width (run ++ rest)).bind _ = _
  rw [digits_append h.isDigit h.least_le h.le_most (.inl h.length_eq), ← h.value]
  rfl

/-- A part of a second is taken if neither a digit nor a point follows. -/
theorem fraction_of_part {nano : Nat} {part rest : List Char} (h : Text.IsPart nano part)
    (hdigit : Stops Char.isDigit rest) (hpoint : Stops (· == '.') rest) :
    fraction (part ++ rest) = some (nano, rest) := by
  rcases h with ⟨rfl, rfl⟩ | ⟨run, rfl, hne, hrun, rfl⟩
  · rw [List.nil_append, fraction.eq_def]
    split
    · cases Text.stops_cons.mp hpoint
    · rfl
  · rw [List.cons_append, fraction, Text.takeWhile_append_of_stops hrun hdigit,
      Text.dropWhile_append_of_stops hrun hdigit, if_neg (by simpa using hne), nanoseconds_eq hrun]

/-! ### What is read are fields -/

theorem eq_cons_of_char {c : Char} {text rest : List Char} {u : Unit}
    (h : char c text = some (u, rest)) : text = c :: rest := by
  cases text with
  | nil => cases h
  | cons d more =>
      rw [char] at h
      split at h
      · rename_i hd
        rw [beq_iff_eq.mp hd, (Prod.mk.inj (Option.some.inj h)).2]
      · cases h

theorem isField_of_digits {least most : Nat} {text run rest : List Char}
    (h : digits least most text = some (run, rest)) :
    text = run ++ rest ∧ Text.IsField least most (Text.digitsValue run) run := by
  obtain ⟨hrun, hmost⟩ := of_digits_eq_some h
  simp only [digits] at h
  split at h
  · rename_i hleast
    obtain ⟨rfl, rfl⟩ := Prod.mk.inj (Option.some.inj h)
    have hfront := (List.takeWhile_prefix (p := Char.isDigit)).trans (List.take_prefix most text)
    refine ⟨?_, hleast, hmost, hrun, rfl⟩
    exact (List.prefix_append_drop hfront)
  · cases h

/-- Where no blank comes next, a number is one or two digits. -/
theorem isField_of_number {n : Nat} {text rest : List Char} (hblank : Stops Text.isBlank text)
    (h : number text = some (n, rest)) :
    ∃ run, text = run ++ rest ∧ Text.IsField 1 2 n run := by
  have htrim : Text.trimStart text = text :=
    Text.dropWhile_append_of_stops (List.forall_mem_nil _) hblank
  rw [number, bind_apply, blanks, htrim, Option.bind_some] at h
  obtain ⟨⟨run, rest'⟩, hrun, hn⟩ := Option.bind_eq_some_iff.mp h
  obtain ⟨rfl, rfl⟩ := Prod.mk.inj (Option.some.inj hn)
  obtain ⟨htext, hfield⟩ := isField_of_digits hrun
  exact ⟨run, htext, hfield⟩

theorem isPart_of_fraction {nano : Nat} {text rest : List Char}
    (h : fraction text = some (nano, rest)) :
    ∃ part, text = part ++ rest ∧ Text.IsPart nano part := by
  rw [fraction.eq_def] at h
  split at h
  · rename_i cs
    split at h
    · cases h
    · rename_i hne
      obtain ⟨rfl, rfl⟩ := Prod.mk.inj (Option.some.inj h)
      have hdigits : ∀ c ∈ cs.takeWhile Char.isDigit, c.isDigit := fun c => List.mem_takeWhile_imp
      refine ⟨'.' :: cs.takeWhile Char.isDigit, ?_, .inr ⟨_, rfl, by simpa using hne, hdigits,
        nanoseconds_eq hdigits⟩⟩
      rw [List.cons_append, List.takeWhile_append_dropWhile]
  · obtain ⟨rfl, rfl⟩ := Prod.mk.inj (Option.some.inj h)
    exact ⟨[], rfl, .inl ⟨rfl, rfl⟩⟩

end Reader

/-! ### Days -/

namespace Date

/-- Year, month and day between hyphens: four digits for the year, and `least` to two for the
others. -/
def Written (d : Date) (least : Nat) (text : List Char) : Prop :=
  ∃ (n : Nat) (year month day : List Char), text = year ++ '-' :: (month ++ '-' :: day) ∧
    d.year = n ∧ Text.IsField 4 4 n year ∧ Text.IsField least 2 d.month month ∧
    Text.IsField least 2 d.day day

theorem Written.widen {d : Date} {least least' : Nat} {text : List Char} (h : d.Written least text)
    (hle : least' ≤ least) : d.Written least' text := by
  obtain ⟨n, year, month, day, htext, hn, hyear, hmonth, hday⟩ := h
  exact ⟨n, year, month, day, htext, hn, hyear, hmonth.widen hle, hday.widen hle⟩

theorem written_text {d : Date} (h : 0 ≤ d.year ∧ d.year ≤ 9999) : d.Written 2 d.text.toList := by
  obtain ⟨-, -, -, hmonth, -, -⟩ := d.isDay
  have hday := d.day_le
  exact ⟨d.year.toNat, _, _, _, toList_text h, (Int.toNat_of_nonneg h.1).symm,
    Text.isField_padded (by decide) (by omega), Text.isField_padded (by decide) (by omega),
    Text.isField_padded (by decide) (by omega)⟩

theorem fields_of_of? {y : Int} {m n : Nat} {d : Date} (h : of? y m n = some d) :
    d.year = y ∧ d.month = m ∧ d.day = n := by
  rw [of?] at h
  split at h
  · obtain rfl := Option.some.inj h
    exact ⟨rfl, rfl, rfl⟩
  · cases h

/-- Four digits write no year but those from 0 to 9999. -/
theorem Written.year_le {d : Date} {least : Nat} {text : List Char} (h : d.Written least text) :
    0 ≤ d.year ∧ d.year ≤ 9999 := by
  obtain ⟨n, year, -, -, -, hn, hyear, -⟩ := h
  have hlt := Text.digitsValue_lt hyear.isDigit
  have hpow := Nat.pow_le_pow_right (show 0 < 10 by decide) hyear.le_most
  rw [hyear.value] at hlt
  exact ⟨by omega, by omega⟩

end Date

/-- A day that is written is read, if no digit lengthens it. -/
theorem Reader.date_append {d : Date} {text rest : List Char} (h : d.Written 1 text)
    (hrest : Stops Char.isDigit rest) : date (text ++ rest) = some (d, rest) := by
  obtain ⟨n, year, month, day, rfl, hn, hyear, hmonth, hday⟩ := h
  have hhyphen : ∀ more, Stops Char.isDigit ('-' :: more) :=
    fun more => Text.stops_cons.mpr (by decide)
  have htext : year ++ '-' :: (month ++ '-' :: day) ++ rest =
      year ++ '-' :: (month ++ '-' :: (day ++ rest)) := by
    simp only [List.append_assoc, List.cons_append]
  rw [htext, date, bind_of_eq (year_append hyear.length_eq hyear.isDigit _), hyear.value, ← hn,
    bind_of_eq (char_cons _ _), bind_of_eq (number_of_field hmonth (hhyphen _)),
    bind_of_eq (char_cons _ _), bind_of_eq (number_of_field hday hrest), Date.of?_self]
  rfl

/-- Where a text of digits and hyphens denotes a day, the day is written there. -/
theorem Date.written_of_read? {d : Date} {year more : List Char} {text : List Char}
    (htext : text = year ++ '-' :: more) (hlength : year.length = 4)
    (hyear : ∀ c ∈ year, c.isDigit) (hmore : ∀ c ∈ more, Text.isBlank c = false)
    (h : read? text = some d) : d.Written 1 text := by
  rw [read?, Reader.whole?_eq_some_iff, Reader.date, htext,
    Reader.bind_of_eq (Reader.year_append hlength hyear _),
    Reader.bind_of_eq (Reader.char_cons _ _)] at h
  obtain ⟨m, behindMonth, hm, hrest⟩ := Reader.bind_eq_some_iff.mp h
  obtain ⟨month, rfl, hmonth⟩ := Reader.isField_of_number
    (fun c hc => hmore c (List.mem_of_mem_head? hc)) hm
  obtain ⟨_, fromDay, hchar, hlast⟩ := Reader.bind_eq_some_iff.mp hrest
  obtain rfl := Reader.eq_cons_of_char hchar
  obtain ⟨n, behindDay, hn, hof⟩ := Reader.bind_eq_some_iff.mp hlast
  obtain ⟨day, rfl, hday⟩ := Reader.isField_of_number (fun c hc => hmore c (by
    simp only [List.mem_append, List.mem_cons]
    exact .inr (.inr (List.mem_of_mem_head? hc)))) hn
  obtain ⟨d', hd', hsome⟩ := Option.bind_eq_some_iff.mp hof
  obtain ⟨rfl, rfl⟩ := Prod.mk.inj (Option.some.inj hsome)
  obtain ⟨hy, rfl, rfl⟩ := fields_of_of? hd'
  rw [List.append_nil] at htext
  exact ⟨_, year, month, day, htext, hy, ⟨hlength.ge, hlength.le, hyear, rfl⟩, hmonth, hday⟩

/-- A day that is written is read. -/
theorem Date.read?_of_written {d : Date} {text : List Char} (h : d.Written 1 text) :
    read? text = some d := by
  have hread := Reader.date_append h Text.stops_nil
  rw [List.append_nil] at hread
  rw [read?, Reader.whole?_eq_some_iff, hread]

/-- **The text of a day denotes it**, in the years 0 to 9999. -/
theorem Date.read?_text {d : Date} (h : 0 ≤ d.year ∧ d.year ≤ 9999) :
    read? d.text.toList = some d :=
  read?_of_written ((written_text h).widen (by decide))

/-- A text that starts with a digit denotes no day outside of the years 0 to 9999. -/
theorem Date.year_of_read? {c : Char} {rest : List Char} {d : Date} (hc : c.isDigit)
    (h : read? (c :: rest) = some d) : 0 ≤ d.year ∧ d.year ≤ 9999 := by
  rw [read?, Reader.whole?_eq_some_iff, Reader.date] at h
  obtain ⟨y, _, hyear, h⟩ := Reader.bind_eq_some_iff.mp h
  obtain ⟨_, _, -, h⟩ := Reader.bind_eq_some_iff.mp h
  obtain ⟨m, _, -, h⟩ := Reader.bind_eq_some_iff.mp h
  obtain ⟨_, _, -, h⟩ := Reader.bind_eq_some_iff.mp h
  obtain ⟨n, _, -, h⟩ := Reader.bind_eq_some_iff.mp h
  have hd : d.year = y := by
    obtain ⟨d', hd', hsome⟩ := Option.bind_eq_some_iff.mp h
    obtain ⟨rfl, -⟩ := Prod.mk.inj (Option.some.inj hsome)
    exact (fields_of_of? hd').1
  rw [Reader.year_of_isDigit hc, Option.bind_eq_some_iff] at hyear
  obtain ⟨⟨run, _⟩, hrun, hsome⟩ := hyear
  obtain ⟨rfl, -⟩ := Prod.mk.inj (Option.some.inj hsome)
  obtain ⟨hdigits, hlength⟩ := Reader.of_digits_eq_some hrun
  have hlt := Text.digitsValue_lt hdigits
  have hpow := Nat.pow_le_pow_right (show 0 < 10 by decide) hlength
  rw [hd]
  dsimp only
  exact ⟨by omega, by omega⟩

/-! ### Times of day -/

namespace TimeOfDay

/-- Hour, minute and second between colons, two digits for the hour and `least` to two for the
others, and a part of a second. -/
def Written (t : TimeOfDay) (least : Nat) (text : List Char) : Prop :=
  ∃ hour minute second part, text = hour ++ ':' :: (minute ++ ':' :: (second ++ part)) ∧
    Text.IsField 2 2 t.hour hour ∧ Text.IsField least 2 t.minute minute ∧
    Text.IsField least 2 t.second second ∧ Text.IsPart t.nano part

/-- Hour and minute of a whole minute, two digits for the hour and one or two for the minute. -/
def Short (t : TimeOfDay) (text : List Char) : Prop :=
  t.second = 0 ∧ t.nano = 0 ∧ ∃ hour minute, text = hour ++ ':' :: minute ∧
    Text.IsField 2 2 t.hour hour ∧ Text.IsField 1 2 t.minute minute

theorem Written.widen {t : TimeOfDay} {least least' : Nat} {text : List Char}
    (h : t.Written least text) (hle : least' ≤ least) : t.Written least' text := by
  obtain ⟨hour, minute, second, part, htext, hhour, hminute, hsecond, hpart⟩ := h
  exact ⟨hour, minute, second, part, htext, hhour, hminute.widen hle, hsecond.widen hle, hpart⟩

/-- A point and three, six or nine digits, each of which counts `10 ^ (9 - width)` nanoseconds. -/
theorem isPart_padded {width n nano : Nat} (hwidth : width ∈ [3, 6, 9]) (h : n < 10 ^ width)
    (hnano : nano = n * 10 ^ 9 / 10 ^ width) :
    Text.IsPart nano ("." ++ Text.padded width n).toList ∧
      ("." ++ Text.padded width n).toList.length ∈ [0, 4, 7, 10] := by
  simp only [List.mem_cons, List.not_mem_nil, or_false] at hwidth
  have hlength := Text.length_padded (show 0 < width by omega) h
  have htext : ("." ++ Text.padded width n).toList = '.' :: (Text.padded width n).toList := by
    rw [String.toList_append]
    rfl
  rw [htext, List.length_cons, hlength]
  refine ⟨.inr ⟨_, rfl, List.ne_nil_of_length_pos (by omega), fun c => Text.isDigit_of_mem_padded,
    ?_⟩, ?_⟩
  · rw [Text.digitsValue_padded, hlength, hnano]
  · simp only [List.mem_cons, List.not_mem_nil, or_false]
    omega

/-- A part of a second is printed with 0, 3, 6 or 9 digits. -/
theorem isPart_fractionText {nano : Nat} (h : nano < 1000000000) :
    Text.IsPart nano (fractionText nano).toList ∧
      (fractionText nano).toList.length ∈ [0, 4, 7, 10] := by
  rw [fractionText]
  split
  · rename_i hzero
    exact ⟨.inl ⟨rfl, beq_iff_eq.mp hzero⟩, by decide⟩
  · split
    · rename_i hmillis
      have hmod := beq_iff_eq.mp hmillis
      exact isPart_padded (by decide) (by omega) (by omega)
    · split
      · rename_i hmicros
        have hmod := beq_iff_eq.mp hmicros
        exact isPart_padded (by decide) (by omega) (by omega)
      · exact isPart_padded (by decide) (by omega) (by omega)

/-- A time of day is printed in full width: eight characters, and those of the part. -/
theorem written_text (t : TimeOfDay) :
    t.Written 2 t.text.toList ∧ t.text.toList.length ∈ [8, 12, 15, 18] := by
  obtain ⟨hhour, hminute, hsecond, hnano⟩ := t.isTime
  obtain ⟨hpart, hwidth⟩ := isPart_fractionText hnano
  have hfield : ∀ n, n < 100 → Text.IsField 2 2 n (Text.padded 2 n).toList :=
    fun n hn => Text.isField_padded (by decide) hn
  have hlength : ∀ n, n < 100 → (Text.padded 2 n).toList.length = 2 :=
    fun n hn => Text.length_padded (by decide) hn
  refine ⟨⟨_, _, _, _, t.toList_text, hfield _ (by omega), hfield _ (by omega),
    hfield _ (by omega), hpart⟩, ?_⟩
  simp only [toList_text, List.length_append, List.length_cons, hlength t.hour (by omega),
    hlength t.minute (by omega), hlength t.second (by omega)]
  simp only [List.mem_cons, List.not_mem_nil, or_false] at hwidth ⊢
  omega

theorem fields_of_of? {h m s n : Nat} {t : TimeOfDay} (ht : of? h m s n = some t) :
    t.hour = h ∧ t.minute = m ∧ t.second = s ∧ t.nano = n := by
  rw [of?] at ht
  split at ht
  · obtain rfl := Option.some.inj ht
    exact ⟨rfl, rfl, rfl, rfl⟩
  · cases ht

end TimeOfDay

namespace Reader

theorem stops_colon (text : List Char) : Stops Char.isDigit (':' :: text) :=
  Text.stops_cons.mpr (by decide)

/-- A time of day that is written is read, if neither a digit nor a point follows. -/
theorem clock_append {t : TimeOfDay} {text rest : List Char} (h : t.Written 1 text)
    (hdigit : Stops Char.isDigit rest) (hpoint : Stops (· == '.') rest) :
    clock (text ++ rest) = some (t, rest) := by
  obtain ⟨hour, minute, second, part, rfl, hhour, hminute, hsecond, hpart⟩ := h
  have htext : hour ++ ':' :: (minute ++ ':' :: (second ++ part)) ++ rest =
      hour ++ ':' :: (minute ++ ':' :: (second ++ (part ++ rest))) := by
    simp only [List.append_assoc, List.cons_append]
  have hstop : Stops Char.isDigit (part ++ rest) := by
    rcases hpart with ⟨rfl, -⟩ | ⟨run, rfl, -⟩
    · exact hdigit
    · exact Text.stops_cons.mpr (by decide)
  rw [htext, clock, bind_of_eq (number_of_field (hhour.widen (by decide)) (stops_colon _)),
    bind_of_eq (char_cons _ _), bind_of_eq (number_of_field hminute (stops_colon _)),
    bind_of_eq (char_cons _ _), bind_of_eq (number_of_field hsecond hstop),
    bind_of_eq (fraction_of_part hpart hdigit hpoint), TimeOfDay.of?_self]
  rfl

end Reader

namespace TimeOfDay

/-- A time of day that is written is read. -/
theorem read?_of_written {t : TimeOfDay} {text : List Char} (h : t.Written 1 text) :
    read? text = some t := by
  have hread := Reader.clock_append h Text.stops_nil Text.stops_nil
  rw [List.append_nil] at hread
  rw [read?, Reader.whole?_eq_some_iff.mpr hread]
  rfl

/-- **The text of a time of day denotes it.** -/
theorem read?_text (t : TimeOfDay) : read? t.text.toList = some t :=
  read?_of_written (t.written_text.1.widen (by decide))

/-- Without seconds a colon is missed, and hour and minute are read alone. -/
theorem read?_of_short {t : TimeOfDay} {text : List Char} (h : t.Short text) :
    read? text = some t := by
  obtain ⟨hsecond, hnano, hour, minute, rfl, hhour, hminute⟩ := h
  have hlast := Reader.number_of_field hminute Text.stops_nil
  rw [List.append_nil] at hlast
  have hfirst := Reader.number_of_field (hhour.widen (by decide)) (Reader.stops_colon minute)
  have hclock : Reader.clock (hour ++ ':' :: minute) = none := by
    rw [Reader.clock, Reader.bind_of_eq hfirst, Reader.bind_of_eq (Reader.char_cons _ _),
      Reader.bind_of_eq hlast]
    rfl
  have hminutes : Reader.hourMinute (hour ++ ':' :: minute) = some (t, []) := by
    have hself := of?_self t
    rw [hsecond, hnano] at hself
    rw [Reader.hourMinute, Reader.bind_of_eq hfirst, Reader.bind_of_eq (Reader.char_cons _ _),
      Reader.bind_of_eq hlast, hself]
    rfl
  rw [read?, Reader.whole?_eq_some_iff.mpr hminutes, Reader.whole?, hclock]
  rfl

/-- Where a text without blanks denotes a time of day, the time is written there. -/
theorem written_of_read? {t : TimeOfDay} {hour more text : List Char}
    (htext : text = hour ++ ':' :: more) (hlength : hour.length = 2)
    (hhour : ∀ c ∈ hour, c.isDigit) (hmore : ∀ c ∈ more, Text.isBlank c = false)
    (h : read? text = some t) : t.Written 1 text ∨ t.Short text := by
  have hfield : Text.IsField 2 2 (Text.digitsValue hour) hour :=
    ⟨hlength.ge, hlength.le, hhour, rfl⟩
  have hfirst := Reader.number_append hlength hhour (':' :: more)
  rw [read?, Option.orElse_eq_some] at h
  rcases h with h | ⟨-, h⟩
  · rw [Reader.whole?_eq_some_iff, Reader.clock, htext, Reader.bind_of_eq hfirst,
      Reader.bind_of_eq (Reader.char_cons _ _)] at h
    obtain ⟨m, behindMinute, hm, hrest⟩ := Reader.bind_eq_some_iff.mp h
    obtain ⟨minute, rfl, hminute⟩ := Reader.isField_of_number
      (fun c hc => hmore c (List.mem_of_mem_head? hc)) hm
    obtain ⟨_, fromSecond, hchar, hseconds⟩ := Reader.bind_eq_some_iff.mp hrest
    obtain rfl := Reader.eq_cons_of_char hchar
    obtain ⟨s, behindSecond, hs, hfraction⟩ := Reader.bind_eq_some_iff.mp hseconds
    obtain ⟨second, rfl, hsecond⟩ := Reader.isField_of_number (fun c hc => hmore c (by
      simp only [List.mem_append, List.mem_cons]
      exact .inr (.inr (List.mem_of_mem_head? hc)))) hs
    obtain ⟨n, behindPart, hn, hof⟩ := Reader.bind_eq_some_iff.mp hfraction
    obtain ⟨part, rfl, hpart⟩ := Reader.isPart_of_fraction hn
    obtain ⟨t', ht', hsome⟩ := Option.bind_eq_some_iff.mp hof
    obtain ⟨rfl, rfl⟩ := Prod.mk.inj (Option.some.inj hsome)
    obtain ⟨hh, rfl, rfl, rfl⟩ := fields_of_of? ht'
    rw [List.append_nil] at htext
    exact .inl ⟨hour, minute, second, part, htext, hh ▸ hfield, hminute, hsecond, hpart⟩
  · rw [Reader.whole?_eq_some_iff, Reader.hourMinute, htext, Reader.bind_of_eq hfirst,
      Reader.bind_of_eq (Reader.char_cons _ _)] at h
    obtain ⟨m, behindMinute, hm, hof⟩ := Reader.bind_eq_some_iff.mp h
    obtain ⟨minute, rfl, hminute⟩ := Reader.isField_of_number
      (fun c hc => hmore c (List.mem_of_mem_head? hc)) hm
    obtain ⟨t', ht', hsome⟩ := Option.bind_eq_some_iff.mp hof
    obtain ⟨rfl, rfl⟩ := Prod.mk.inj (Option.some.inj hsome)
    obtain ⟨hh, rfl, hsecond, hnano⟩ := fields_of_of? ht'
    rw [List.append_nil] at htext
    exact .inr ⟨hsecond, hnano, hour, minute, htext, hh ▸ hfield, hminute⟩

end TimeOfDay

end EntityFilter
