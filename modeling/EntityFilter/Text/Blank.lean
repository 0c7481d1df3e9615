import EntityFilter.Text.Ranges

/-!
# Blanks

The characters that separate words and that trimming removes: those with the `White_Space`
property of Unicode.  The zero width space, the byte order mark and the Mongolian vowel separator
are not among them.
-/

namespace EntityFilter.Text

/-- The code points with the `White_Space` property, as inclusive ranges in increasing order. -/
def blankRanges : List (Nat × Nat) :=
  [(0x0009, 0x000D), (0x0020, 0x0020), (0x0085, 0x0085), (0x00A0, 0x00A0), (0x1680, 0x1680),
   (0x2000, 0x200A), (0x2028, 0x2029), (0x202F, 0x202F), (0x205F, 0x205F), (0x3000, 0x3000)]

/-- `c` is a blank. -/
def isBlank (c : Char) : Bool :=
  inRanges blankRanges c

/-- Drops the blanks a text starts with. -/
def trimStart (cs : List Char) : List Char :=
  cs.dropWhile isBlank

/-- Drops the blanks a text ends with. -/
def trimEnd (cs : List Char) : List Char :=
  (cs.reverse.dropWhile isBlank).reverse

/-- Drops the blanks around a text. -/
def trim (text : String) : String :=
  String.ofList (trimEnd (trimStart text.toList))

example : (blankRanges.map fun range => range.2 + 1 - range.1).sum = 25 := by decide

end EntityFilter.Text
