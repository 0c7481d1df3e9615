import EntityFilter.Text.Numeral

/-!
# Times of day

A time of day to the nanosecond.  Every minute may end in a leap second, written as second 60.
-/

namespace EntityFilter

/-- The clock shows these numbers at some time of some day. -/
def IsTime (hour minute second nano : Nat) : Prop :=
  hour ≤ 23 ∧ minute ≤ 59 ∧ second ≤ 60 ∧ nano < 1000000000

instance (hour minute second nano : Nat) : Decidable (IsTime hour minute second nano) :=
  inferInstanceAs (Decidable (_ ∧ _))

/-- A time of day. -/
structure TimeOfDay where
  hour : Nat
  minute : Nat
  /-- The second; 60 in a leap second. -/
  second : Nat
  /-- The nanoseconds since the second began. -/
  nano : Nat
  /-- The numbers are in their ranges. -/
  isTime : IsTime hour minute second nano
deriving DecidableEq, Repr

namespace TimeOfDay

/-- The time with these numbers, if they are in their ranges. -/
def of? (hour minute second nano : Nat) : Option TimeOfDay :=
  if h : IsTime hour minute second nano then some ⟨hour, minute, second, nano, h⟩ else none

/-- The start of the day. -/
def midnight : TimeOfDay := ⟨0, 0, 0, 0, by decide⟩

/-- The time `micros` microseconds after midnight, on a clock that starts again after a day. -/
def ofMicroseconds (micros : Int) : TimeOfDay :=
  let m := (micros % 86400000000).toNat
  ⟨m / 3600000000, m / 60000000 % 60, m / 1000000 % 60, m % 1000000 * 1000, by
    unfold IsTime; omega⟩

/-- The fewest groups of three digits that lose nothing, after a point; nothing for a whole
second. -/
def fractionText (nano : Nat) : String :=
  if nano == 0 then ""
  else if nano % 1000000 == 0 then "." ++ Text.padded 3 (nano / 1000000)
  else if nano % 1000 == 0 then "." ++ Text.padded 6 (nano / 1000)
  else "." ++ Text.padded 9 nano

/-- `HH:MM:SS` and the fraction. -/
def text (t : TimeOfDay) : String :=
  Text.padded 2 t.hour ++ ":" ++ Text.padded 2 t.minute ++ ":" ++ Text.padded 2 t.second ++
    fractionText t.nano

end TimeOfDay

example : (TimeOfDay.ofMicroseconds 45045500000).text = "12:30:45.500" := by decide
example : (TimeOfDay.ofMicroseconds 86401000000).text = "00:00:01" := by decide

end EntityFilter
