import EntityFilter.Calendar.Date
import EntityFilter.Calendar.TimeOfDay

/-!
# Instants

Points on the UTC time line.  A leap second shares the number of the second before it and runs
its nanoseconds on past one second, so that it comes after that second and before the next.
-/

namespace EntityFilter

/-- A point in time. -/
structure Instant where
  /-- Seconds since the first of January 1970. -/
  seconds : Int
  /-- Nanoseconds since that second began; from 1000000000 on in a leap second. -/
  nano : Nat
deriving DecidableEq, Repr

namespace Instant

/-- The instant a clock shows that runs `offset` seconds ahead of UTC. -/
def ofLocal (date : Date) (time : TimeOfDay) (offset : Int) : Instant where
  seconds := date.dayNumber * 86400 + (time.hour * 3600 + time.minute * 60 : Nat) +
    (min time.second 59 : Nat) - offset
  nano := if time.second = 60 then 1000000000 + time.nano else time.nano

/-- The instant at which it is `time` on `date` in UTC. -/
def ofUtc (date : Date) (time : TimeOfDay) : Instant :=
  ofLocal date time 0

/-- `a` is earlier than `b`. -/
def before (a b : Instant) : Bool :=
  a.seconds < b.seconds || (a.seconds == b.seconds && a.nano < b.nano)

/-- The first of January 2000, from which a database counts, in seconds since that of 1970. -/
def databaseEpoch : Int := 946684800

/-- Whole microseconds since the first of January 1970.  They are counted forwards and backwards
from the first of January 2000, so that a part of a microsecond is dropped towards that day. -/
def microseconds (a : Instant) : Int :=
  databaseEpoch * 1000000 +
    ((a.seconds - databaseEpoch) * 1000000000 + a.nano).tdiv 1000

end Instant

/-- The date and the time of day `micros` microseconds after the first of January 1970, joined by
`T`; none where the calendar ends. -/
def timestampText? (micros : Int) : Option String :=
  (Date.ofDayNumber? (micros / 86400000000)).map fun date =>
    date.text ++ "T" ++ (TimeOfDay.ofMicroseconds micros).text

example : Instant.microseconds ⟨946684799, 999999900⟩ = 946684800000000 := by decide
example : timestampText? 1704067200100000 = some "2024-01-01T00:00:00.100" := by decide
example : timestampText? (-62198755200000000) = some "-0001-01-01T00:00:00" := by decide

end EntityFilter
