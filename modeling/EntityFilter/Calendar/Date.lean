import EntityFilter.Text.Numeral

/-!
# Calendar days

Days of the Gregorian calendar, extended backwards and forwards over the years the calendar
covers.  A `Date` is a day that exists: its month has that many days in its year.  Days are also
counted, from the first of January 1970; `Date.dayNumber` and `Date.ofDayNumber?` go between the
two.
-/

namespace EntityFilter

/-- The year has a 29th of February. -/
def isLeapYear (year : Int) : Bool :=
  year % 4 == 0 && (year % 100 != 0 || year % 400 == 0)

/-- How many days a month has. -/
def daysInMonth (year : Int) : Nat → Nat
  | 2              => if isLeapYear year then 29 else 28
  | 4 | 6 | 9 | 11 => 30
  | _              => 31

/-- The calendar has a day `day` of month `month` of year `year`. -/
def IsDay (year : Int) (month day : Nat) : Prop :=
  -262143 ≤ year ∧ year ≤ 262142 ∧ 1 ≤ month ∧ month ≤ 12 ∧ 1 ≤ day ∧ day ≤ daysInMonth year month

instance (year : Int) (month day : Nat) : Decidable (IsDay year month day) :=
  inferInstanceAs (Decidable (_ ∧ _))

/-- A day of the calendar. -/
structure Date where
  /-- The year, where year 0 precedes year 1. -/
  year : Int
  /-- The month, from 1. -/
  month : Nat
  /-- The day of the month, from 1. -/
  day : Nat
  /-- The day exists. -/
  isDay : IsDay year month day
deriving DecidableEq, Repr

namespace Date

/-- The day with these numbers, if there is one. -/
def of? (year : Int) (month day : Nat) : Option Date :=
  if h : IsDay year month day then some ⟨year, month, day, h⟩ else none

/-! ### Counting days -/

/-- The days between the first of January of year 0 and that of `year`. -/
def daysBeforeYear (year : Int) : Int :=
  365 * year + (year - 1) / 4 - (year - 1) / 100 + (year - 1) / 400 + 1

/-- The days of `year` before its month `month`. -/
def daysBeforeMonth (year : Int) (month : Nat) : Nat :=
  (List.range (month - 1)).foldl (fun days k => days + daysInMonth year (k + 1)) 0

/-- The days between the first of January of year 0 and that of 1970. -/
def epochDays : Int := 719528

/-- The days since the first of January 1970. -/
def dayNumber (d : Date) : Int :=
  daysBeforeYear d.year + daysBeforeMonth d.year d.month + d.day - 1 - epochDays

/-- The year in which a day lies that is `days` days after the first of January of year 0.  The
mean length of a year is 146097 / 400 days, so the quotient is off by one at most. -/
def yearOf? (days : Int) : Option Int :=
  let year := days * 400 / 146097
  [year - 1, year, year + 1].find? fun y => daysBeforeYear y ≤ days && days < daysBeforeYear (y + 1)

/-- The day that is `number` days after the first of January 1970, if the calendar covers it. -/
def ofDayNumber? (number : Int) : Option Date := do
  let days := number + epochDays
  let year ← yearOf? days
  let inYear := (days - daysBeforeYear year).toNat
  (List.range 12).findSome? fun k =>
    let before := daysBeforeMonth year (k + 1)
    if before ≤ inYear && inYear < before + daysInMonth year (k + 1) then
      of? year (k + 1) (inYear - before + 1)
    else none

/-! ### Text -/

/-- Four digits for the years 0 to 9999; a sign and at least four digits for all others. -/
def yearText (year : Int) : String :=
  if 0 ≤ year && year ≤ 9999 then Text.padded 4 year.toNat
  else (if year < 0 then "-" else "+") ++ Text.padded 4 year.natAbs

/-- `YYYY-MM-DD`. -/
def text (d : Date) : String :=
  yearText d.year ++ "-" ++ Text.padded 2 d.month ++ "-" ++ Text.padded 2 d.day

end Date

example : (Date.of? 2024 2 29).map Date.dayNumber = some 19782 := by decide
example : (Date.ofDayNumber? 19782).map Date.text = some "2024-02-29" := by decide
example : (Date.ofDayNumber? (-800000)).map Date.text = some "-0221-09-04" := by decide

end EntityFilter
