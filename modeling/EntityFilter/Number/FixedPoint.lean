import EntityFilter.Number.Binary
import EntityFilter.Text.Numeral

/-!
# Decimals with a fixed number of places

A decimal `± digits / 10 ^ places` of at most 96 bits.  A number has at most 28 places that are
not zero.  One with more digits than fit is rounded, as long as its whole part fits, and zeros that
are written behind its last place are kept as long as they fit.
-/

namespace EntityFilter

/-- The number `± digits / 10 ^ places`. -/
structure FixedPoint where
  negative : Bool
  digits : Nat
  places : Nat
deriving DecidableEq, Repr

namespace FixedPoint

/-- One more than the largest number of digits. -/
def bound : Nat := twoTo 96

/-- The last place that may not be zero. -/
def maxPlaces : Nat := 28

/-- The number with as many places as its digits leave room for, rounded; none if there is no room
for its whole part. -/
def fit? (negative : Bool) (digits places : Nat) : Option FixedPoint :=
  (List.range (places + 1)).findSome? fun dropped =>
    let kept := BinaryFormat.roundDiv digits (tenTo dropped)
    if kept < bound then some ⟨negative, kept, places - dropped⟩ else none

/-- The number with up to so many more places, as long as its digits are within the bound. -/
def widen (a : FixedPoint) : Nat → FixedPoint
  | 0        => a
  | more + 1 =>
    let wider := { a with digits := 10 * a.digits, places := a.places + 1 }
    if wider.digits < bound then widen wider more else a

/-- The number that a text is: digits, a point and digits.  It gets all places that are written,
if they fit. -/
def read? (text : List Char) : Option FixedPoint := do
  let (negative, text) := match text with
    | '-' :: rest => (true, rest)
    | '+' :: rest => (false, rest)
    | _           => (false, text)
  let whole := text.takeWhile Char.isDigit
  let fraction := match text.drop whole.length with
    | '.' :: rest => rest
    | _           => []
  guard (!(whole ++ fraction).isEmpty && fraction.all Char.isDigit)
  guard (whole.length + fraction.length + (if text.contains '.' then 1 else 0) = text.length)
  let kept := fraction.take maxPlaces
  guard ((fraction.drop maxPlaces).all (· == '0'))
  let a ← fit? negative (Text.digitsValue (whole ++ kept)) kept.length
  return a.widen (fraction.length - a.places)

/-- The integer that the number is, if it is one of 64 bits. -/
def int64? (a : FixedPoint) : Option Int :=
  if a.digits % tenTo a.places = 0 then
    let n : Int := (a.digits / tenTo a.places : Nat)
    (some (if a.negative then -n else n)).filter Text.isInt64
  else none

/-- The power of ten that the digits are divided by, in 128 bits. -/
def unit (a : FixedPoint) : Nat :=
  tenTo a.places % twoTo 128

/-- The fraction of the number, rounded. -/
def fraction? (a : FixedPoint) : Option Binary := do
  let f := BinaryFormat.double
  f.div? (← f.ofNat? (a.digits % a.unit)) (← f.ofNat? a.unit)

/-- A binary number near the decimal.  The whole part and the fraction are rounded on their own and
added; then what the rounding did behind the last place is cleared. -/
def toBinary? (a : FixedPoint) : Option Binary := do
  let f := BinaryFormat.double
  let whole ← f.ofNat? (a.digits / a.unit)
  let fraction ← a.fraction?
  if fraction.isZero then return { whole with negative := a.negative }
  let scale ← f.power? (← f.ofNat? 10) a.places
  let scaled ← f.mul? (← f.addMagnitudes? whole fraction) scale
  let rounded ← f.div? (← f.ofNat? scaled.roundMagnitude) scale
  return { rounded with negative := a.negative }

end FixedPoint

end EntityFilter
