/-!
# Binary numbers of limited precision

Numbers `± mantissa · 2 ^ exponent` with a limited number of mantissa bits and a limited range of
exponents, as exact integers.  Every operation computes the exact result as a quotient of natural
numbers and rounds once, to the nearest number of the format, with ties to the even mantissa
(`BinaryFormat.round?`).  A result beyond the range is none.
-/

namespace EntityFilter

/-- The power of two with an exponent. -/
def twoTo (exponent : Nat) : Nat :=
  Nat.pow 2 exponent

/-- The power of ten with an exponent. -/
def tenTo (exponent : Nat) : Nat :=
  Nat.pow 10 exponent

/-- A format for binary numbers. -/
structure BinaryFormat where
  /-- The number of bits of a mantissa. -/
  precision : Nat
  /-- The exponent of the smallest unit. -/
  least : Int
  /-- The exponent of the largest unit. -/
  greatest : Int
deriving DecidableEq, Repr

/-- A finite number `± mantissa · 2 ^ exponent`. -/
structure Binary where
  negative : Bool
  mantissa : Nat
  exponent : Int
deriving DecidableEq, Repr

namespace BinaryFormat

/-- 64 bits, of which 53 for the mantissa. -/
def double : BinaryFormat := ⟨53, -1074, 971⟩

/-- 32 bits, of which 24 for the mantissa. -/
def single : BinaryFormat := ⟨24, -149, 104⟩

/-- The natural number nearest to `num / den`; the even one of two. -/
def roundDiv (num den : Nat) : Nat :=
  let rest := num % den
  if 2 * rest < den || (2 * rest == den && num / den % 2 == 0) then num / den else num / den + 1

/-- The largest `e` with `2 ^ e ≤ num / den`, for a positive quotient. -/
def log2Div (num den : Nat) : Int :=
  let e : Int := (num.log2 : Int) - den.log2
  if den * twoTo e.toNat ≤ num * twoTo (-e).toNat then e else e - 1

/-- The number of the format nearest to `num / den · 2 ^ exponent`. -/
def round? (f : BinaryFormat) (negative : Bool) (num den : Nat) (exponent : Int) : Option Binary :=
  if num = 0 then some ⟨negative, 0, f.least⟩
  else
    let unit := max f.least (log2Div num den + exponent - f.precision + 1)
    let shift := exponent - unit
    let mantissa := roundDiv (num * twoTo shift.toNat) (den * twoTo (-shift).toNat)
    let (mantissa, unit) :=
      if mantissa = twoTo f.precision then (twoTo (f.precision - 1), unit + 1) else (mantissa, unit)
    if f.greatest < unit then none else some ⟨negative, mantissa, unit⟩

/-- The number of the format nearest to a natural number. -/
def ofNat? (f : BinaryFormat) (n : Nat) : Option Binary :=
  f.round? false n 1 0

/-- The number of the format nearest to `digits · 10 ^ exponent`.  Far beyond the range the power
of ten is not worked out. -/
def ofDecimal? (f : BinaryFormat) (negative : Bool) (digits : Nat) (exponent : Int) :
    Option Binary :=
  let magnitude := (Nat.toDigits 10 digits).length + exponent
  if digits = 0 || magnitude < -400 then f.round? negative 0 1 0
  else if 400 < magnitude then none
  else f.round? negative (digits * tenTo exponent.toNat) (tenTo (-exponent).toNat) 0

/-- The number of the format nearest to another number. -/
def ofBinary? (f : BinaryFormat) (a : Binary) : Option Binary :=
  f.round? a.negative a.mantissa 1 a.exponent

/-- The rounded product. -/
def mul? (f : BinaryFormat) (a b : Binary) : Option Binary :=
  f.round? (a.negative != b.negative) (a.mantissa * b.mantissa) 1 (a.exponent + b.exponent)

/-- A power by repeated squaring, with every product rounded; `found` is multiplied by it. -/
def powerTimes? (f : BinaryFormat) (found a : Binary) (n : Nat) : Option Binary :=
  if n = 0 then some found
  else do
    let found ← if n % 2 = 1 then f.mul? found a else some found
    if n / 2 = 0 then some found else powerTimes? f found (← f.mul? a a) (n / 2)
termination_by n
decreasing_by omega

/-- A power by repeated squaring. -/
def power? (f : BinaryFormat) (a : Binary) (n : Nat) : Option Binary := do
  f.powerTimes? (← f.ofNat? 1) a n

/-- The rounded quotient by a number that is not zero. -/
def div? (f : BinaryFormat) (a b : Binary) : Option Binary :=
  f.round? (a.negative != b.negative) a.mantissa b.mantissa (a.exponent - b.exponent)

/-- The rounded sum of two numbers that are not negative. -/
def addMagnitudes? (f : BinaryFormat) (a b : Binary) : Option Binary :=
  let e := min a.exponent b.exponent
  f.round? false
    (a.mantissa * twoTo (a.exponent - e).toNat + b.mantissa * twoTo (b.exponent - e).toNat) 1 e

end BinaryFormat

namespace Binary

/-- The number is zero. -/
def isZero (a : Binary) : Bool :=
  a.mantissa == 0

/-- The number with the other sign. -/
def neg (a : Binary) : Binary :=
  { a with negative := !a.negative }

/-- The magnitude, cut to a natural number. -/
def floorMagnitude (a : Binary) : Nat :=
  a.mantissa * twoTo a.exponent.toNat / twoTo (-a.exponent).toNat

/-- The integer that is left when the digits after the point are dropped. -/
def truncate (a : Binary) : Int :=
  if a.negative then -(a.floorMagnitude : Int) else a.floorMagnitude

/-- The natural number nearest to the magnitude; the larger one of two. -/
def roundMagnitude (a : Binary) : Nat :=
  (2 * (a.mantissa * twoTo a.exponent.toNat) + twoTo (-a.exponent).toNat) /
    (2 * twoTo (-a.exponent).toNat)

/-- The number lies between zero and one. -/
def isRatio (a : Binary) : Bool :=
  a.isZero || (!a.negative && a.mantissa * twoTo a.exponent.toNat ≤ twoTo (-a.exponent).toNat)

end Binary

/-- A number of 64 bits: finite, infinite, or not a number. -/
inductive Double
  | finite (value : Binary)
  | infinite (negative : Bool)
  | nan
deriving DecidableEq, Repr

namespace Double

/-- A rounded result, where a magnitude beyond the range is infinite. -/
def ofRounded (negative : Bool) : Option Binary → Double
  | some value => .finite value
  | none       => .infinite negative

/-- The number of 64 bits nearest to an integer. -/
def ofInt (n : Int) : Double :=
  ofRounded (n < 0) (BinaryFormat.double.round? (n < 0) n.natAbs 1 0)

/-- The number after it was rounded to 32 bits. -/
def throughSingle : Double → Double
  | .finite a =>
    ofRounded a.negative ((BinaryFormat.single.ofBinary? a).bind BinaryFormat.double.ofBinary?)
  | d => d

end Double

end EntityFilter
