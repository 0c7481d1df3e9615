import EntityFilter.Number.Binary
import EntityFilter.Text.Numeral

/-!
# Shortest decimals

The decimal with the fewest digits among those that round to a given binary number, and of those
with as few digits the nearest.  Every decimal between the midpoints to the two neighbours of the
number rounds to it, the midpoints included if the mantissa is even; so for one digit, two digits
and so on the two decimals around the number are tried, until one lies in that interval.
-/

namespace EntityFilter

/-- The decimal `d.ddd · 10 ^ exponent` with these digits, the first one before the point. -/
structure Decimal where
  digits : List Char
  exponent : Int
deriving DecidableEq, Repr

namespace Binary

/-- `c · 10 ^ k ≤ n · 2 ^ e`. -/
def decimalLe (c : Nat) (k : Int) (n : Nat) (e : Int) : Bool :=
  c * tenTo k.toNat * twoTo (-e).toNat ≤ n * twoTo e.toNat * tenTo (-k).toNat

/-- `n · 2 ^ e ≤ c · 10 ^ k`. -/
def leDecimal (n : Nat) (e : Int) (c : Nat) (k : Int) : Bool :=
  n * twoTo e.toNat * tenTo (-k).toNat ≤ c * tenTo k.toNat * twoTo (-e).toNat

/-- The midpoints to the neighbours of a number of format `f`, in quarters of its unit.  Below a
power of two the numbers lie closer together. -/
def midpoints (f : BinaryFormat) (a : Binary) : Nat × Nat :=
  let below := if a.mantissa = twoTo (f.precision - 1) && f.least < a.exponent then 1 else 2
  (4 * a.mantissa - below, 4 * a.mantissa + 2)

/-- `c · 10 ^ k` rounds to the magnitude of `a`. -/
def rounds (f : BinaryFormat) (a : Binary) (c : Nat) (k : Int) : Bool :=
  let (low, high) := a.midpoints f
  let e := a.exponent - 2
  if a.mantissa % 2 = 0 then leDecimal low e c k && decimalLe c k high e
  else !decimalLe c k low e && !leDecimal high e c k

/-- The largest `k` with `10 ^ k` at most the magnitude of `a`.  The estimate from the binary
exponent is off by one at most. -/
def log10 (a : Binary) : Int :=
  let k := (a.mantissa.log2 + a.exponent) * 30103 / 100000
  if decimalLe 1 (k + 1) a.mantissa a.exponent then k + 1
  else if decimalLe 1 k a.mantissa a.exponent then k
  else k - 1

/-- A decimal `c · 10 ^ k` with at most `n` digits that rounds to the magnitude of `a`: the nearer
one of two, and the even one of two that are equally near. -/
def withDigits? (f : BinaryFormat) (a : Binary) (n : Nat) : Option (Nat × Int) :=
  let k := a.log10 - n + 1
  let num := a.mantissa * twoTo a.exponent.toNat * tenTo (-k).toNat
  let den := tenTo k.toNat * twoTo (-a.exponent).toNat
  let c := num / den
  match a.rounds f c k, a.rounds f (c + 1) k with
  | true, true   => some (BinaryFormat.roundDiv num den, k)
  | true, false  => some (c, k)
  | false, true  => some (c + 1, k)
  | false, false => none

/-- The shortest decimal that rounds to the magnitude of `a`, a number of format `f`. -/
def shortest (f : BinaryFormat) (a : Binary) : Decimal :=
  if a.isZero then ⟨['0'], 0⟩
  else
    let (c, k) := ((List.range f.precision).findSome? fun n => a.withDigits? f (n + 1)).getD (0, 0)
    let digits := Nat.toDigits 10 c
    ⟨(digits.reverse.dropWhile (· == '0')).reverse, k + digits.length - 1⟩

end Binary

namespace Decimal

/-- The digits before and behind the point when no exponent is written. -/
def split (d : Decimal) : List Char × List Char :=
  if d.exponent < 0 then (['0'], List.replicate (-d.exponent - 1).toNat '0' ++ d.digits)
  else
    let whole := d.exponent.toNat + 1
    (d.digits.take whole ++ List.replicate (whole - d.digits.length) '0', d.digits.drop whole)

/-- Without an exponent, and without a point if no digits follow it. -/
def plain (d : Decimal) : String :=
  match d.split with
  | (whole, [])       => String.ofList whole
  | (whole, fraction) => String.ofList (whole ++ '.' :: fraction)

/-- With an exponent, which has a sign, and with a point if digits follow it. -/
def scientific (d : Decimal) : String :=
  let mantissa := match d.digits with
    | first :: second :: rest => first :: '.' :: second :: rest
    | digits                  => digits
  String.ofList mantissa ++ "e" ++ (if d.exponent < 0 then "-" else "+") ++
    Text.natural d.exponent.natAbs

end Decimal

/-- The shortest decimal of 64 bits, without an exponent. -/
def Double.plain : Double → String
  | .finite a          => (if a.negative then "-" else "") ++ (a.shortest .double).plain
  | .infinite negative => if negative then "-inf" else "inf"
  | .nan               => "NaN"

example : ((BinaryFormat.double.ofDecimal? false 1 (-1)).map (Binary.shortest .double)) =
    some ⟨['1'], -1⟩ := by decide +kernel
example : (Binary.shortest .double ⟨false, 1, -1074⟩).scientific = "5e-324" := by decide +kernel
example : (Binary.shortest .double ⟨false, twoTo 53 - 1, 971⟩).scientific =
    "1.7976931348623157e+308" := by decide +kernel

end EntityFilter
