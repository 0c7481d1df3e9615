import EntityFilter.Calendar.Instant
import EntityFilter.Text.Blank

/-!
# Reading dates and times

The spellings of days, times of day and instants.  There are two manners: the lenient one
(`date`, `clock`), where a number has one or two digits and blanks may stand before it, and the
strict one of RFC 3339 (`internetTime`), where every field has its full width and an offset from
UTC closes the text.

A `Reader` reads the front of a text and leaves the rest; `Reader.whole?` asks that nothing is
left.
-/

namespace EntityFilter

/-- A rule for the front of a text: what it denotes there, and what is left after it. -/
abbrev Reader := StateT (List Char) Option

namespace Reader

/-- What the whole text denotes. -/
def whole? {α : Type} (rule : Reader α) (text : List Char) : Option α :=
  match rule text with
  | some (value, []) => some value
  | _                => none

/-- The character `c`. -/
def char (c : Char) : Reader Unit
  | d :: rest => if d == c then some ((), rest) else none
  | []        => none

/-- Any blanks, also none. -/
def blanks : Reader Unit :=
  fun cs => some ((), Text.trimStart cs)

/-- A run of digits, at least `least` and at most `most` of those that follow. -/
def digits (least most : Nat) : Reader (List Char) := fun cs =>
  let run := (cs.take most).takeWhile Char.isDigit
  if least ≤ run.length then some (run, cs.drop run.length) else none

/-- Exactly `width` digits. -/
def field (width : Nat) : Reader Nat :=
  Text.digitsValue <$> digits width width

/-- One or two digits, after blanks. -/
def number : Reader Nat := do
  blanks
  Text.digitsValue <$> digits 1 2

/-- A year, after blanks: up to four digits, or a sign and any number of them. -/
def year : Reader Int := do
  blanks
  fun cs => match cs with
    | '-' :: rest => ((fun ds => -(Text.digitsValue ds : Int)) <$> digits 1 rest.length) rest
    | '+' :: rest => ((fun ds => (Text.digitsValue ds : Int)) <$> digits 1 rest.length) rest
    | _           => ((fun ds => (Text.digitsValue ds : Int)) <$> digits 1 4) cs

/-- The nanoseconds that the digits after a point denote: the first nine count. -/
def nanoseconds (run : List Char) : Nat :=
  Text.digitsValue ((run ++ List.replicate 9 '0').take 9)

/-- A point and at least one digit, or nothing. -/
def fraction : Reader Nat
  | '.' :: cs =>
    if (cs.takeWhile Char.isDigit).isEmpty then none
    else some (nanoseconds (cs.takeWhile Char.isDigit), cs.dropWhile Char.isDigit)
  | cs => some (0, cs)

/-! ### The lenient spellings -/

/-- `year-month-day`. -/
def date : Reader Date := do
  let y ← year
  char '-'
  let m ← number
  char '-'
  let d ← number
  Date.of? y m d

/-- `hour:minute:second` with an optional fraction. -/
def clock : Reader TimeOfDay := do
  let h ← number
  char ':'
  let m ← number
  char ':'
  let s ← number
  let nano ← fraction
  TimeOfDay.of? h m s nano

/-- `hour:minute`. -/
def hourMinute : Reader TimeOfDay := do
  let h ← number
  char ':'
  let m ← number
  TimeOfDay.of? h m 0 0

/-! ### RFC 3339 -/

/-- `T`, in either case, or a space. -/
def separator : Reader Unit
  | c :: rest => if c == 'T' || c == 't' || c == ' ' then some ((), rest) else none
  | []        => none

/-- The seconds that a clock runs ahead of UTC: `Z`, in either case, or a sign, hours and
minutes, less than a day in all.  The minus sign may also be U+2212. -/
def offset : Reader Int
  | 'Z' :: rest | 'z' :: rest => some (0, rest)
  | sign :: rest =>
    if sign == '+' then hoursMinutes rest
    else if sign == '-' || sign == '−' then ((fun n => -n) <$> hoursMinutes) rest
    else none
  | [] => none
where
  hoursMinutes : Reader Int := do
    let h ← field 2
    char ':'
    let m ← field 2
    if h ≤ 23 && m ≤ 59 then pure ((h * 3600 + m * 60 : Nat) : Int) else failure

/-- A date and a time with every field at its full width, and an offset from UTC. -/
def internetTime : Reader Instant := do
  let y ← field 4
  char '-'
  let mo ← field 2
  char '-'
  let d ← field 2
  separator
  let h ← field 2
  char ':'
  let mi ← field 2
  char ':'
  let s ← field 2
  let nano ← fraction
  let ahead ← offset
  let day ← Date.of? y mo d
  let time ← TimeOfDay.of? h mi s nano
  pure (Instant.ofLocal day time ahead)

/-- A date and a time of day joined by what `between` reads, in UTC. -/
def dateTime (between : Reader Unit) (time : Reader TimeOfDay) : Reader Instant := do
  let day ← date
  between
  let t ← time
  pure (Instant.ofUtc day t)

end Reader

/-- The day that a text denotes. -/
def Date.read? (text : List Char) : Option Date :=
  Reader.date.whole? text

/-- The time of day that a text denotes, with or without seconds. -/
def TimeOfDay.read? (text : List Char) : Option TimeOfDay :=
  Reader.clock.whole? text <|> Reader.hourMinute.whole? text

/-- A text denotes a date and a time of day, joined by `T`. -/
def isDateTime (text : List Char) : Bool :=
  (Reader.internetTime.whole? text).isSome ||
  ((Reader.dateTime (Reader.char 'T') Reader.clock).whole? text).isSome ||
  ((Reader.dateTime (Reader.char 'T') Reader.hourMinute).whole? text).isSome

/-- The instant that a text denotes.  Without an offset it is in UTC, and without a time it is
midnight. -/
def Instant.read? (text : List Char) : Option Instant :=
  Reader.internetTime.whole? text <|>
  (Reader.dateTime (Reader.char 'T') Reader.clock).whole? text <|>
  (Reader.dateTime Reader.blanks Reader.clock).whole? text <|>
  (Date.read? text).map fun day => Instant.ofUtc day TimeOfDay.midnight

example : (Date.read? "2020-2-9".toList).map Date.text = some "2020-02-09" := by decide
example : Date.read? "2021-02-29".toList = none := by decide
example : (TimeOfDay.read? "23:59:60.25".toList).map TimeOfDay.text = some "23:59:60.250" := by
  decide
example : isDateTime "2021-03-04T10:15".toList = true := by decide
example : (Instant.read? "2024-03-01T12:30:00-23:59".toList).map Instant.microseconds =
    some 1709382540000000 := by decide

end EntityFilter
