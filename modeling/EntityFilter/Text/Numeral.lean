/-!
# Decimal numerals

Reading and writing of numbers in decimal digits.  Only the ten ASCII digits count as digits, and
a numeral is a plain run of them: no separators, no blanks.
-/

namespace EntityFilter.Text

/-- The number that a run of digits denotes. -/
def digitsValue (digits : List Char) : Nat :=
  digits.foldl (fun n c => 10 * n + (c.toNat - '0'.toNat)) 0

/-- The smallest integer of 64 bits with a sign. -/
def int64Min : Int := -9223372036854775808

/-- The largest integer of 64 bits with a sign. -/
def int64Max : Int := 9223372036854775807

/-- `n` fits in 64 bits with a sign. -/
def isInt64 (n : Int) : Bool :=
  int64Min ≤ n && n ≤ int64Max

/-- The number of 64 bits with a sign that is nearest to `n`. -/
def nearestInt64 (n : Int) : Int :=
  if n < int64Min then int64Min else if int64Max < n then int64Max else n

/-- An unsigned numeral of at least one digit. -/
def natural? (text : List Char) : Option Nat :=
  if !text.isEmpty && text.all Char.isDigit then some (digitsValue text) else none

/-- A numeral with an optional sign. -/
def integer? : List Char → Option Int
  | '-' :: digits => (natural? digits).map fun n => -(n : Int)
  | '+' :: digits => (natural? digits).map Int.ofNat
  | digits        => (natural? digits).map Int.ofNat

/-- A numeral with an optional sign that fits in 64 bits. -/
def int64? (text : List Char) : Option Int :=
  (integer? text).filter isInt64

/-- The largest natural number of so many bits. -/
def maxUnsigned (bits : Nat) : Nat :=
  Nat.pow 2 bits - 1

/-- A numeral without a sign, or with a plus, that fits in so many bits. -/
def unsigned? (bits : Nat) (text : List Char) : Option Nat :=
  let digits := match text with
    | '+' :: digits => digits
    | digits        => digits
  (natural? digits).filter (· ≤ maxUnsigned bits)

/-- The decimal digits of `n`, with zeros in front up to `width` characters. -/
def padded (width n : Nat) : String :=
  let digits := Nat.toDigits 10 n
  String.ofList (List.replicate (width - digits.length) '0' ++ digits)

/-- The numeral of a natural number. -/
def natural (n : Nat) : String :=
  String.ofList (Nat.toDigits 10 n)

/-- The numeral of an integer, with a sign only below zero. -/
def integer : Int → String
  | .ofNat n   => natural n
  | .negSucc n => "-" ++ natural (n + 1)

example : integer? "-12".toList = some (-12) := by decide
example : int64? "+9223372036854775807".toList = some 9223372036854775807 := by decide
example : int64? "9223372036854775808".toList = none := by decide
example : unsigned? 16 "+65535".toList = some 65535 := by decide
example : unsigned? 16 "65536".toList = none := by decide
example : int64? "1_000".toList = none := by decide

end EntityFilter.Text
