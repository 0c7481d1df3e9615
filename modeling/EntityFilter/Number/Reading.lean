import EntityFilter.Number.Binary
import EntityFilter.Text.Numeral

/-!
# Reading of decimals

A decimal has digits, of which a point may stand before, among or behind; a sign may stand in
front, and an exponent behind.  `inf`, `infinity` and `nan` in any letter case are read too.
-/

namespace EntityFilter.Double

/-- The number with these digits before and behind the point, times a power of ten. -/
def ofParts (negative : Bool) (whole fraction : List Char) (exponent : Int) : Double :=
  let digits := Text.digitsValue (whole ++ fraction)
  .ofRounded negative (BinaryFormat.double.ofDecimal? negative digits (exponent - fraction.length))

/-- The exponent that a text is: nothing, or `e` and an integer. -/
def exponent? : List Char → Option Int
  | []          => some 0
  | 'e' :: rest => Text.integer? rest
  | 'E' :: rest => Text.integer? rest
  | _           => none

/-- The number that a text without a sign is. -/
def unsigned? (negative : Bool) (text : List Char) : Option Double :=
  let word := text.map Char.toLower
  if word = "inf".toList || word = "infinity".toList then some (.infinite negative)
  else if word = "nan".toList then some .nan
  else
    let whole := text.takeWhile Char.isDigit
    let rest := text.drop whole.length
    let fraction := match rest with
      | '.' :: behind => behind.takeWhile Char.isDigit
      | _             => []
    let rest := match rest with
      | '.' :: behind => behind.drop fraction.length
      | _             => rest
    if whole.isEmpty && fraction.isEmpty then none
    else (exponent? rest).map (ofParts negative whole fraction)

/-- The number that a text is. -/
def read? : List Char → Option Double
  | '-' :: text => unsigned? true text
  | '+' :: text => unsigned? false text
  | text        => unsigned? false text

example : read? "-1.5e1".toList = some (.finite ⟨true, 15 * twoTo 49, -49⟩) := by decide +kernel
example : read? ".".toList = none := by decide +kernel
example : read? "5.".toList = read? "5".toList := by decide +kernel
example : read? "1e999".toList = some (.infinite false) := by decide +kernel

end EntityFilter.Double
