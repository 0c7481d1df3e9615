import EntityFilter.Calendar.Instant
import EntityFilter.Proofs.Calendar.Readers

/-!
# Counting days

The number of a day steps by one from each day to the next (`Date.dayNumber_of_isNext`), where the
next day is said by the calendar: the next of the month, or the first of the next month, or of the
next year (`Date.IsNext`).  So days are in the order of their numbers (`Date.dayNumber_lt_iff`).

A clock that runs ahead of UTC shows other fields than UTC does at the same instant
(`CarriesTo`): some minutes more, and at the ends of a day the fields of the day before or after.
**The fields in UTC tell the instant** (`Instant.ofLocal_of_carriesTo`), **and its place among all
others** (`Instant.before_iff`) except in a leap second.
-/

namespace EntityFilter

namespace Date

/-! ### The length of months and years -/

/-- How many days a year has. -/
def daysInYear (year : Int) : Nat :=
  if isLeapYear year then 366 else 365

theorem daysBeforeYear_succ (year : Int) :
    daysBeforeYear (year + 1) = daysBeforeYear year + daysInYear year := by
  rw [daysInYear, isLeapYear]
  simp only [daysBeforeYear, Bool.and_eq_true, Bool.or_eq_true, beq_iff_eq, bne_iff_ne]
  split
  · omega
  · omega

theorem daysBeforeYear_mono : Monotone daysBeforeYear :=
  monotone_int_of_le_succ fun year => by
    rw [daysBeforeYear_succ]
    omega

theorem daysBeforeMonth_succ {month : Nat} (h : 1 ≤ month) (year : Int) :
    daysBeforeMonth year (month + 1) = daysBeforeMonth year month + daysInMonth year month := by
  obtain ⟨k, rfl⟩ := Nat.exists_eq_add_of_le' h
  rw [daysBeforeMonth, Nat.add_sub_cancel, List.range_succ, List.foldl_append]
  rfl

theorem daysBeforeMonth_mono (year : Int) {month later : Nat} (h : 1 ≤ month)
    (hle : month ≤ later) : daysBeforeMonth year month ≤ daysBeforeMonth year later := by
  induction later, hle using Nat.le_induction with
  | base => exact le_rfl
  | succ later hle ih =>
      rw [daysBeforeMonth_succ (h.trans hle)]
      omega

theorem daysInMonth_pos (year : Int) (month : Nat) : 28 ≤ daysInMonth year month := by
  rw [daysInMonth.eq_def]
  split
  · split <;> decide
  all_goals decide

/-- The months of a year have all its days. -/
theorem daysBeforeMonth_thirteen (year : Int) : daysBeforeMonth year 13 = daysInYear year := by
  rw [daysInYear]
  simp only [daysBeforeMonth, List.range, List.range.loop, List.foldl_cons, List.foldl_nil,
    daysInMonth]
  split <;> rfl

/-! ### The order of days -/

/-- Year, month and day. -/
def fields (d : Date) : List Int :=
  [d.year, d.month, d.day]

theorem dayNumber_lt_of_month_lt {d e : Date} (hyear : d.year = e.year)
    (hmonth : d.month < e.month) : d.dayNumber < e.dayNumber := by
  obtain ⟨-, -, hfirst, -, -, hday⟩ := d.isDay
  obtain ⟨-, -, -, -, hday', -⟩ := e.isDay
  have hmono := daysBeforeMonth_mono d.year (show 1 ≤ d.month + 1 by omega) hmonth
  rw [daysBeforeMonth_succ hfirst] at hmono
  rw [dayNumber, dayNumber, ← hyear]
  omega

theorem dayNumber_lt_of_year_lt {d e : Date} (h : d.year < e.year) : d.dayNumber < e.dayNumber := by
  obtain ⟨-, -, hfirst, hlast, -, hday⟩ := d.isDay
  obtain ⟨-, -, -, -, hday', -⟩ := e.isDay
  have hyears := daysBeforeYear_mono (Int.add_one_le_of_lt h)
  rw [daysBeforeYear_succ] at hyears
  -- the day is within its year
  have hmonths := daysBeforeMonth_mono d.year (show 1 ≤ d.month + 1 by omega)
    (show d.month + 1 ≤ 13 by omega)
  rw [daysBeforeMonth_succ hfirst, daysBeforeMonth_thirteen] at hmonths
  rw [dayNumber, dayNumber]
  omega

theorem fields_lt_iff {d e : Date} : d.fields < e.fields ↔ d.year < e.year ∨ d.year = e.year ∧
    (d.month < e.month ∨ d.month = e.month ∧ d.day < e.day) := by
  simp [fields, List.cons_lt_cons_iff]

theorem dayNumber_lt_of_fields_lt {d e : Date} (h : d.fields < e.fields) :
    d.dayNumber < e.dayNumber := by
  rcases fields_lt_iff.mp h with hyear | ⟨hyear, hmonth | ⟨hmonth, hday⟩⟩
  · exact dayNumber_lt_of_year_lt hyear
  · exact dayNumber_lt_of_month_lt hyear hmonth
  · rw [dayNumber, dayNumber, hyear, hmonth]
    omega

theorem eq_of_fields_eq {d e : Date} (h : d.fields = e.fields) : d = e := by
  obtain ⟨year, month, day, hday⟩ := d
  obtain ⟨year', month', day', hday'⟩ := e
  simp only [fields, List.cons.injEq, Int.natCast_inj, and_true] at h
  obtain ⟨rfl, rfl, rfl⟩ := h
  rfl

/-- **Days are in the order of their numbers.** -/
theorem dayNumber_lt_iff {d e : Date} : d.dayNumber < e.dayNumber ↔ d.fields < e.fields := by
  refine ⟨fun h => ?_, dayNumber_lt_of_fields_lt⟩
  rcases lt_trichotomy d.fields e.fields with hlt | heq | hgt
  · exact hlt
  · rw [eq_of_fields_eq heq] at h
    exact absurd h (lt_irrefl _)
  · exact absurd h (dayNumber_lt_of_fields_lt hgt).not_gt

theorem dayNumber_injective {d e : Date} (h : d.dayNumber = e.dayNumber) : d = e := by
  rcases lt_trichotomy d.fields e.fields with hlt | heq | hgt
  · exact absurd h (dayNumber_lt_of_fields_lt hlt).ne
  · exact eq_of_fields_eq heq
  · exact absurd h (dayNumber_lt_of_fields_lt hgt).ne'

/-! ### The next day -/

/-- `e` is the day after `d`. -/
inductive IsNext (d e : Date) : Prop
  /-- The month goes on. -/
  | day (hyear : e.year = d.year) (hmonth : e.month = d.month) (hday : e.day = d.day + 1)
  /-- The month ends, and the year goes on. -/
  | month (hlast : d.day = daysInMonth d.year d.month) (hyear : e.year = d.year)
      (hmonth : e.month = d.month + 1) (hday : e.day = 1)
  /-- The year ends. -/
  | year (hlast : d.month = 12 ∧ d.day = 31) (hyear : e.year = d.year + 1) (hmonth : e.month = 1)
      (hday : e.day = 1)

/-- **The number of a day steps by one.** -/
theorem dayNumber_of_isNext {d e : Date} (h : IsNext d e) : e.dayNumber = d.dayNumber + 1 := by
  obtain ⟨-, -, hfirst, -, -, -⟩ := d.isDay
  rw [dayNumber, dayNumber]
  cases h with
  | day hyear hmonth hday =>
      rw [hyear, hmonth, hday]
      omega
  | month hlast hyear hmonth hday =>
      rw [hyear, hmonth, hday, daysBeforeMonth_succ hfirst]
      omega
  | year hlast hyear hmonth hday =>
      have hyears := daysBeforeMonth_thirteen d.year
      rw [daysBeforeMonth_succ (by decide)] at hyears
      rw [hyear, hmonth, hday, hlast.1, hlast.2, daysBeforeYear_succ, ← hyears]
      have hjanuary : daysBeforeMonth (d.year + 1) 1 = 0 := rfl
      have hdecember : daysInMonth d.year 12 = 31 := rfl
      omega

/-- There is a next day before the last year of the calendar. -/
theorem exists_isNext {d : Date} (h : d.year < 262142) : ∃ e, IsNext d e := by
  obtain ⟨hlow, hhigh, hfirst, hlast, hday, hmonth⟩ := d.isDay
  by_cases hgoes : d.day < daysInMonth d.year d.month
  · exact ⟨⟨d.year, d.month, d.day + 1, hlow, hhigh, hfirst, hlast, by omega, hgoes⟩,
      .day rfl rfl rfl⟩
  · by_cases hyear : d.month < 12
    · have hpos := daysInMonth_pos d.year (d.month + 1)
      exact ⟨⟨d.year, d.month + 1, 1, hlow, hhigh, by omega, by omega, le_rfl, by omega⟩,
        .month (by omega) rfl rfl rfl⟩
    · have hdecember : d.month = 12 := by omega
      rw [hdecember] at hgoes hmonth
      have hdays : daysInMonth d.year 12 = 31 := rfl
      have hpos := daysInMonth_pos (d.year + 1) 1
      exact ⟨⟨d.year + 1, 1, 1, by omega, by omega, le_rfl, by omega, le_rfl, by omega⟩,
        .year ⟨hdecember, by omega⟩ rfl rfl rfl⟩

/-- There is a day before each day that lies after the first year of the calendar. -/
theorem exists_isNext_of {e : Date} (h : -262143 < e.year) : ∃ d, IsNext d e := by
  obtain ⟨hlow, hhigh, hfirst, hlast, hday, hmonth⟩ := e.isDay
  by_cases hgoes : 1 < e.day
  · exact ⟨⟨e.year, e.month, e.day - 1, hlow, hhigh, hfirst, hlast, by omega, by omega⟩,
      .day rfl rfl (show e.day = e.day - 1 + 1 by omega)⟩
  · by_cases hyear : 1 < e.month
    · have hpos := daysInMonth_pos e.year (e.month - 1)
      exact ⟨⟨e.year, e.month - 1, daysInMonth e.year (e.month - 1), hlow, hhigh, by omega,
        by omega, by omega, le_rfl⟩, .month rfl rfl (show e.month = e.month - 1 + 1 by omega)
        (by omega)⟩
    · exact ⟨⟨e.year - 1, 12, 31, by omega, by omega, by omega, le_rfl, by omega, le_rfl⟩,
        .year ⟨rfl, rfl⟩ (show e.year = e.year - 1 + 1 by omega) (by omega) (by omega)⟩

end Date

/-! ### Clocks ahead of UTC -/

namespace TimeOfDay

/-- Hour, minute, second and nanoseconds. -/
def fields (t : TimeOfDay) : List Int :=
  [t.hour, t.minute, t.second, t.nano]

/-- The minutes since midnight. -/
def minutes (t : TimeOfDay) : Int :=
  t.hour * 60 + t.minute

/-- The time `n` minutes after midnight, in the same second of the minute as `t`. -/
def atMinute (t : TimeOfDay) (n : Nat) (h : n < 1440) : TimeOfDay :=
  ⟨n / 60, n % 60, t.second, t.nano, by omega, by omega, t.isTime.2.2⟩

theorem minutes_atMinute (t : TimeOfDay) {n : Nat} (h : n < 1440) :
    (t.atMinute n h).minutes = n := by
  simp only [minutes, atMinute]
  omega

end TimeOfDay

/-- When a clock that runs `ahead` minutes ahead of UTC shows `t` on `d`, it is `u` on `e` in UTC:
the minutes of the offset are taken away, and what is missing or left over for a day goes to the
day before or after. -/
structure CarriesTo (d : Date) (t : TimeOfDay) (ahead : Int) (e : Date) (u : TimeOfDay) : Prop where
  second : u.second = t.second
  nano : u.nano = t.nano
  minutes : e = d ∧ u.minutes = t.minutes - ahead ∨
    d.IsNext e ∧ u.minutes = t.minutes - ahead - 1440 ∨
    e.IsNext d ∧ u.minutes = t.minutes - ahead + 1440

/-- An offset of less than a day carries to some fields, in the years 0 to 9999. -/
theorem exists_carriesTo {d : Date} (hyear : 0 ≤ d.year ∧ d.year ≤ 9999) (t : TimeOfDay)
    {ahead : Int} (h : -1440 < ahead ∧ ahead < 1440) : ∃ e u, CarriesTo d t ahead e u := by
  obtain ⟨hhour, hminute, -⟩ := t.isTime
  have hminutes : 0 ≤ t.minutes ∧ t.minutes < 1440 := by
    simp only [TimeOfDay.minutes]
    omega
  by_cases hlow : t.minutes - ahead < 0
  · obtain ⟨e, he⟩ := d.exists_isNext_of (by omega)
    refine ⟨e, t.atMinute (t.minutes - ahead + 1440).toNat (by omega), rfl, rfl,
      .inr (.inr ⟨he, ?_⟩)⟩
    rw [TimeOfDay.minutes_atMinute]
    omega
  · by_cases hhigh : t.minutes - ahead < 1440
    · refine ⟨d, t.atMinute (t.minutes - ahead).toNat (by omega), rfl, rfl, .inl ⟨rfl, ?_⟩⟩
      rw [TimeOfDay.minutes_atMinute]
      omega
    · obtain ⟨e, he⟩ := d.exists_isNext (by omega)
      refine ⟨e, t.atMinute (t.minutes - ahead - 1440).toNat (by omega), rfl, rfl,
        .inr (.inl ⟨he, ?_⟩)⟩
      rw [TimeOfDay.minutes_atMinute]
      omega

namespace Instant

/-- **The fields in UTC tell the instant**, whatever the clock shows. -/
theorem ofLocal_of_carriesTo {d e : Date} {t u : TimeOfDay} {ahead : Int}
    (h : CarriesTo d t ahead e u) : ofLocal d t (60 * ahead) = ofUtc e u := by
  obtain ⟨hsecond, hnano, hminutes⟩ := h
  simp only [TimeOfDay.minutes] at hminutes
  simp only [ofUtc, ofLocal, hsecond, hnano, mk.injEq, and_true]
  rcases hminutes with ⟨rfl, hminutes⟩ | ⟨hnext, hminutes⟩ | ⟨hnext, hminutes⟩
  · omega
  · have hstep := Date.dayNumber_of_isNext hnext
    omega
  · have hstep := Date.dayNumber_of_isNext hnext
    omega

/-- The fields of the day decide, and those of the time where the days are the same. -/
theorem fields_append_lt_iff {d e : Date} {t u : TimeOfDay} :
    d.fields ++ t.fields < e.fields ++ u.fields ↔ d.fields < e.fields ∨ d.fields = e.fields ∧
      (t.minutes < u.minutes ∨ t.minutes = u.minutes ∧
        (t.second < u.second ∨ t.second = u.second ∧ t.nano < u.nano)) := by
  obtain ⟨-, hminute, -⟩ := t.isTime
  obtain ⟨-, hminute', -⟩ := u.isTime
  simp only [Date.fields, TimeOfDay.fields, TimeOfDay.minutes, List.cons_append, List.nil_append,
    List.cons_lt_cons_iff, List.cons.injEq, Int.ofNat_lt, Int.natCast_inj, List.lt_irrefl,
    and_false, or_false, and_true]
  omega

/-- **Instants are in the order of their fields in UTC**, leap seconds apart. -/
theorem before_iff {d e : Date} {t u : TimeOfDay} (ht : t.second ≤ 59) (hu : u.second ≤ 59) :
    (ofUtc d t).before (ofUtc e u) ↔ d.fields ++ t.fields < e.fields ++ u.fields := by
  obtain ⟨hhour, hminute, -⟩ := t.isTime
  obtain ⟨hhour', hminute', -⟩ := u.isTime
  have hleap : t.second ≠ 60 ∧ u.second ≠ 60 := by omega
  rw [fields_append_lt_iff, before]
  simp only [ofUtc, ofLocal, if_neg hleap.1, if_neg hleap.2, TimeOfDay.minutes, Bool.or_eq_true,
    Bool.and_eq_true, decide_eq_true_eq, beq_iff_eq]
  rcases lt_trichotomy d.dayNumber e.dayNumber with hlt | heq | hgt
  · have hfields := Date.dayNumber_lt_iff.mp hlt
    simp only [hfields, true_or, iff_true]
    omega
  · obtain rfl := Date.dayNumber_injective heq
    simp only [lt_irrefl, false_or, true_and]
    omega
  · have hfields := Date.dayNumber_lt_iff.mp hgt
    simp only [hfields.not_gt, hfields.ne', false_and, or_false, iff_false]
    omega

end Instant

end EntityFilter
