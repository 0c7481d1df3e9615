import EntityFilter.Json.Value

/-!
# JSON texts

A text is read as far as it is JSON: a `Draft` is the value at its front, in which the place of
the first defect is kept.  Whoever takes values out of a draft goes through it from left to right,
and meets either the value that is looked for or the defect.

Two flaws are no defects of the text: a number beyond the range of 64 bits, and an escape that is
half of a pair.  They only matter to whoever needs the value (`Draft.toJson?`).
-/

namespace EntityFilter

/-- What a text holds, up to its first defect. -/
inductive Draft
  | null
  | bool (value : Bool)
  | int (value : Int)
  /-- A number with a fraction or an exponent, or beyond 64 bits; none if it is out of range. -/
  | float (value : Option Binary)
  /-- A string; none if an escape in it stands for no character. -/
  | str (text : Option String)
  /-- The items, and whether the closing bracket follows them. -/
  | arr (items : List Draft) (closed : Bool)
  /-- The members, and whether the closing brace follows them. -/
  | obj (members : List (Option String × Draft)) (closed : Bool)
  /-- There is no value here. -/
  | broken
deriving Repr

namespace Draft

/-! ### Blanks -/

/-- The four blanks of JSON. -/
def isSpace (c : Char) : Bool :=
  c == ' ' || c == '\n' || c == '\t' || c == '\r'

/-- Drops the blanks in front. -/
def skip (cs : List Char) : List Char :=
  cs.dropWhile isSpace

/-! ### Strings -/

/-- A piece of a string: a character, or the number behind `\u`. -/
inductive Unit
  | char (c : Char)
  | code (n : Nat)
deriving DecidableEq, Repr

/-- The value of a hexadecimal digit. -/
def hexValue? (c : Char) : Option Nat :=
  if c.isDigit then some (c.toNat - '0'.toNat)
  else if 'a' ≤ c && c ≤ 'f' then some (c.toNat - 'a'.toNat + 10)
  else if 'A' ≤ c && c ≤ 'F' then some (c.toNat - 'A'.toNat + 10)
  else none

/-- The number of four hexadecimal digits. -/
def hex4? (a b c d : Char) : Option Nat := do
  let a ← hexValue? a
  let b ← hexValue? b
  let c ← hexValue? c
  let d ← hexValue? d
  pure (((a * 16 + b) * 16 + c) * 16 + d)

/-- What a backslash and `c` stand for, `u` apart. -/
def escape? : Char → Option Char
  | '"'  => some '"'
  | '\\' => some '\\'
  | '/'  => some '/'
  | 'b'  => some '\x08'
  | 'f'  => some '\x0c'
  | 'n'  => some '\n'
  | 'r'  => some '\r'
  | 't'  => some '\t'
  | _    => none

/-- The pieces of a string behind its opening quote, and the text behind its closing one. -/
def units? : List Char → Option (List Unit × List Char)
  | [] => none
  | '"' :: rest => some ([], rest)
  | '\\' :: 'u' :: a :: b :: c :: d :: rest => do
    let n ← hex4? a b c d
    let (units, rest) ← units? rest
    pure (.code n :: units, rest)
  | '\\' :: c :: rest => do
    let c ← escape? c
    let (units, rest) ← units? rest
    pure (.char c :: units, rest)
  | c :: rest =>
    if c == '\\' || c.toNat < 0x20 then none
    else do
      let (units, rest) ← units? rest
      pure (.char c :: units, rest)

/-- `n` is the first half of a pair. -/
def isHigh (n : Nat) : Bool := 0xD800 ≤ n && n < 0xDC00

/-- `n` is the second half of a pair. -/
def isLow (n : Nat) : Bool := 0xDC00 ≤ n && n < 0xE000

/-- The characters that pieces stand for; a half of a pair alone stands for none. -/
def chars? : List Unit → Option (List Char)
  | [] => some []
  | .char c :: rest => (chars? rest).map (c :: ·)
  | .code n :: .code m :: rest =>
    if isHigh n then
      if isLow m then
        (chars? rest).map (Char.ofNat (0x10000 + (n - 0xD800) * 0x400 + (m - 0xDC00)) :: ·)
      else none
    else if isLow n then none
    else (chars? (.code m :: rest)).map (Char.ofNat n :: ·)
  | .code n :: rest =>
    if isHigh n || isLow n then none else (chars? rest).map (Char.ofNat n :: ·)

/-- The string behind an opening quote, and the text behind its closing one. -/
def string? (cs : List Char) : Option (Option String × List Char) :=
  (units? cs).map fun (units, rest) => ((chars? units).map String.ofList, rest)

/-! ### Numbers -/

/-- The largest number of 64 bits without a sign. -/
def uint64Max : Nat := 18446744073709551615

/-- Digits gathered into a number as long as it stays within 64 bits: the number, and how many
digits were left out. -/
def gather (start : Nat) (digits : List Char) : Nat × Nat :=
  match digits with
  | [] => (start, 0)
  | c :: rest =>
    let next := 10 * start + (c.toNat - '0'.toNat)
    if uint64Max < next then (start, digits.length) else gather next rest

/-- `± significand · 10 ^ exponent`, each step rounded to 64 bits: the significand, and its product
with or quotient by a power of ten.  Powers beyond `10 ^ 308` take several steps downwards, and
are out of range upwards. -/
def scale? (negative : Bool) (significand : Nat) (exponent : Int) : Option Binary := do
  let f := BinaryFormat.double
  let a ← f.round? negative significand 1 0
  if significand = 0 then pure a
  else if 308 < exponent then none
  else if 0 ≤ exponent then f.mul? a (← f.ofDecimal? false 1 exponent)
  else down f 4 a (-exponent).toNat
where
  down (f : BinaryFormat) : Nat → Binary → Nat → Option Binary
    | 0, a, _ => f.round? a.negative 0 1 0
    | steps + 1, a, n =>
      if a.isZero then some a
      else if n ≤ 308 then do f.div? a (← f.ofDecimal? false 1 n)
      else do down f steps (← f.div? a (← f.ofDecimal? false 1 308)) (n - 308)

/-- A number without a fraction or an exponent: an integer if it fits in 64 bits. -/
def whole (negative : Bool) (digits : List Char) : Draft :=
  match gather 0 digits with
  | (n, 0) =>
    if !negative then .int n
    else if n = 0 || 9223372036854775808 < n then .float (scale? true n 0)
    else .int (-(n : Int))
  | (n, left) => .float (scale? negative n left)

/-- A number with a fraction or an exponent.  Digits beyond 64 bits are left out, in front of the
point and behind it. -/
def scaled (negative : Bool) (digits fraction : List Char) (exponent : Int) : Draft :=
  let (n, left) := gather 0 digits
  let (m, dropped) := gather n fraction
  let behind : Int := fraction.length - dropped
  .float (scale? negative m (left - behind + exponent))

/-- The exponent of a number, and the text behind it; none if a digit is missing. -/
def exponent? (cs : List Char) : Option (Int × List Char) :=
  let (negative, digits) := match cs with
    | '-' :: rest => (true, rest)
    | '+' :: rest => (false, rest)
    | _           => (false, cs)
  let run := digits.takeWhile Char.isDigit
  if run.isEmpty then none
  else
    let n : Int := Text.digitsValue run
    some (if negative then -n else n, digits.drop run.length)

/-- The number at the front of a text, its sign apart, and the text behind it. -/
def number (negative : Bool) (cs : List Char) : Draft × Option (List Char) :=
  let digits := cs.takeWhile Char.isDigit
  if digits.isEmpty || (digits.head? == some '0' && digits.length != 1) then (.broken, none)
  else match cs.drop digits.length with
    | '.' :: rest =>
      let fraction := rest.takeWhile Char.isDigit
      if fraction.isEmpty then (.broken, none)
      else match rest.drop fraction.length with
        | 'e' :: rest | 'E' :: rest => withExponent digits fraction rest
        | rest => (scaled negative digits fraction 0, some rest)
    | 'e' :: rest | 'E' :: rest => withExponent digits [] rest
    | rest => (whole negative digits, some rest)
where
  withExponent (digits fraction rest : List Char) : Draft × Option (List Char) :=
    match exponent? rest with
    | some (e, rest) => (scaled negative digits fraction e, some rest)
    | none           => (.broken, none)

/-! ### Values -/

/-- The text behind the word `expected`, if it stands in front. -/
def behind? : List Char → List Char → Option (List Char)
  | [], cs => some cs
  | e :: expected, c :: cs => if e == c then behind? expected cs else none
  | _ :: _, [] => none

/-- The word `expected` in front of a text, which denotes `value`. -/
def constant (expected : String) (value : Draft) (cs : List Char) : Draft × Option (List Char) :=
  match behind? expected.toList cs with
  | some rest => (value, some rest)
  | none      => (.broken, none)

mutual

/-- The value at the front of a text, and the text behind it unless there is a defect.  The fuel
bounds the recursion; twice the length of the text is enough. -/
def value : Nat → List Char → Draft × Option (List Char)
  | 0, _ => (.broken, none)
  | fuel + 1, cs =>
    match skip cs with
    | [] => (.broken, none)
    | '"' :: rest =>
      match string? rest with
      | some (text, rest) => (.str text, some rest)
      | none              => (.broken, none)
    | '[' :: rest =>
      match skip rest with
      | ']' :: rest => (.arr [] true, some rest)
      | rest =>
        match items fuel rest with
        | (found, some rest) => (.arr found true, some rest)
        | (found, none)      => (.arr found false, none)
    | '\x7b' :: rest =>
      match skip rest with
      | '\x7d' :: rest => (.obj [] true, some rest)
      | rest =>
        match members fuel rest with
        | (found, some rest) => (.obj found true, some rest)
        | (found, none)      => (.obj found false, none)
    | '-' :: rest => number true rest
    | 't' :: rest => constant "rue" (.bool true) rest
    | 'f' :: rest => constant "alse" (.bool false) rest
    | 'n' :: rest => constant "ull" .null rest
    | rest        => number false rest

/-- The items of an array up to its closing bracket. -/
def items : Nat → List Char → List Draft × Option (List Char)
  | 0, _ => ([], none)
  | fuel + 1, cs =>
    match value fuel cs with
    | (item, none)      => ([item], none)
    | (item, some rest) =>
      match skip rest with
      | ']' :: rest => ([item], some rest)
      | ',' :: rest =>
        let (found, rest) := items fuel rest
        (item :: found, rest)
      | _ => ([item], none)

/-- The members of an object up to its closing brace. -/
def members : Nat → List Char → List (Option String × Draft) × Option (List Char)
  | 0, _ => ([], none)
  | fuel + 1, cs =>
    match skip cs with
    | '"' :: rest =>
      match string? rest with
      | none => ([], none)
      | some (name, rest) =>
        match skip rest with
        | ':' :: rest =>
          match value fuel rest with
          | (item, none)      => ([(name, item)], none)
          | (item, some rest) =>
            match skip rest with
            | '\x7d' :: rest => ([(name, item)], some rest)
            | ',' :: rest =>
              let (found, rest) := members fuel rest
              ((name, item) :: found, rest)
            | _ => ([(name, item)], none)
        | _ => ([(name, .broken)], none)
    | _ => ([], none)

end

/-- The value at the front of a text. -/
def ofText (text : String) : Draft :=
  (value (2 * text.toList.length + 2) text.toList).1

/-- The value that is the whole text, blanks around it apart. -/
def ofWholeText? (text : String) : Option Draft :=
  match value (2 * text.toList.length + 2) text.toList with
  | (d, some rest) => if (skip rest).isEmpty then some d else none
  | _              => none

/-! ### Taking values out -/

mutual

/-- The value of a draft without defects and flaws that nests less than `levels` levels. -/
def toJson? : Nat → Draft → Option Json
  | _, null             => some .null
  | _, bool b           => some (.bool b)
  | _, int n            => some (.int n)
  | _, float (some a)   => some (.float a)
  | _, str (some text)  => some (.str text)
  | levels, arr found true =>
    if levels ≤ 1 then none else (itemsToJson? (levels - 1) found).map .arr
  | levels, obj found true =>
    if levels ≤ 1 then none else (membersToJson? (levels - 1) found).map .ofMembers
  | _, _ => none

/-- The values of drafts. -/
def itemsToJson? : Nat → List Draft → Option (List Json)
  | _, [] => some []
  | levels, item :: rest => do
    let item ← toJson? levels item
    let rest ← itemsToJson? levels rest
    pure (item :: rest)

/-- The members of a draft. -/
def membersToJson? : Nat → List (Option String × Draft) → Option (List (String × Json))
  | _, [] => some []
  | levels, (some name, item) :: rest => do
    let item ← toJson? levels item
    let rest ← membersToJson? levels rest
    pure ((name, item) :: rest)
  | _, (none, _) :: _ => none

end

/-- How deep the values of a text may nest. -/
def maxLevels : Nat := 128

end Draft

/-- The value that a text is. -/
def Json.read? (text : String) : Option Json := do
  let d ← Draft.ofWholeText? text
  d.toJson? Draft.maxLevels

end EntityFilter
