import EntityFilter.Settings.Basic
import EntityFilter.Text.Numeral

/-!
# Numeric addresses

An address is four numbers between points, or eight groups of hexadecimal digits between colons
and in brackets.  Of the latter one run of zero groups may be left out, the last two groups may be
written as four numbers, and a zone may follow.  `Address.text` writes an address in one way:
groups without zeros in front, and the longest run of at least two zero groups left out.
-/

namespace EntityFilter

/-- A numeric address. -/
inductive Address
  | four (numbers : List Nat)
  /-- Groups, and the number of a zone, or zero. -/
  | eight (groups : List Nat) (zone : Nat)
deriving DecidableEq, Repr

/-- Why a host is no numeric address. -/
inductive HostFault
  /-- It is a name, which has to be looked up. -/
  | name
  /-- It starts with a bracket, but has no address behind it. -/
  | malformed
deriving DecidableEq, Repr

namespace Address

/-- A decimal number below 256 without zeros in front, and the text behind it. -/
def octet? (text : List Char) : Option (Nat × List Char) :=
  let digits := text.takeWhile Char.isDigit
  let n := Text.digitsValue digits
  if digits.isEmpty || 3 < digits.length || 255 < n then none
  else if digits.head? = some '0' && digits.length != 1 then none
  else some (n, text.drop digits.length)

/-- The text behind a character, if it stands in front. -/
def behind? (c : Char) : List Char → Option (List Char)
  | first :: rest => if first = c then some rest else none
  | []            => none

/-- Four numbers between points. -/
def numbers? (text : List Char) : Option (List Nat × List Char) := do
  let (a, text) ← octet? text
  let (b, text) ← octet? (← behind? '.' text)
  let (c, text) ← octet? (← behind? '.' text)
  let (d, text) ← octet? (← behind? '.' text)
  pure ([a, b, c, d], text)

/-- The value of a hexadecimal digit. -/
def hexValue (c : Char) : Nat :=
  if c.isDigit then c.toNat - '0'.toNat else c.toLower.toNat - 'a'.toNat + 10

/-- A hexadecimal digit. -/
def isHex (c : Char) : Bool :=
  c.isDigit || ('a' ≤ c.toLower && c.toLower ≤ 'f')

/-- A group of one to four hexadecimal digits. -/
def group? (text : List Char) : Option (Nat × List Char) :=
  let digits := text.takeWhile isHex
  if digits.isEmpty || 4 < digits.length then none
  else some (digits.foldl (fun n c => 16 * n + hexValue c) 0, text.drop digits.length)

/-- The groups in front of a text, at most `room` of them, and the text behind them.  `first` says
that no colon is needed in front of the next one, and the mark in the result that they end in four
decimal numbers. -/
def groups : (room : Nat) → (first : Bool) → List Char → List Nat × Bool × List Char
  | 0, _, text => ([], false, text)
  | room + 1, first, text =>
    let start := if first then some text else behind? ':' text
    let decimal := if room = 0 then none else start.bind numbers?
    match decimal with
    | some ([a, b, c, d], rest) => ([256 * a + b, 256 * c + d], true, rest)
    | _ =>
      match start.bind group? with
      | some (g, rest) =>
        let (found, decimal, rest) := groups room false rest
        (g :: found, decimal, rest)
      | none => ([], false, text)

/-- Eight groups, of which a run of zeros may be left out between two colons. -/
def eightGroups? (text : List Char) : Option (List Nat × List Char) :=
  match groups 8 true text with
  | (front, decimal, rest) =>
    if front.length = 8 then some (front, rest)
    else if decimal then none
    else do
      let rest ← behind? ':' (← behind? ':' rest)
      let (back, _, rest) := groups (7 - front.length) true rest
      pure (front ++ List.replicate (8 - front.length - back.length) 0 ++ back, rest)

/-- The zone of an address: nothing, or a percent sign and a number of 32 bits. -/
def zone? : List Char → Option Nat
  | []             => some 0
  | '%' :: digits  => (Text.natural? digits).filter (· ≤ Text.maxUnsigned 32)
  | _              => none

/-- The address between brackets, of which the first is left out. -/
def bracketed? (text : List Char) : Option Address := do
  guard (text.getLast? = some ']')
  let (found, rest) ← eightGroups? text.dropLast
  return .eight found (← zone? rest)

/-- The address that a host is written as. -/
def read (host : String) : Except HostFault Address :=
  match host.toList with
  | '[' :: text =>
    match bracketed? text with
    | some found => .ok found
    | none       => .error .malformed
  | text =>
    match numbers? text with
    | some (found, []) => .ok (.four found)
    | _                => .error .name

/-! ### Text -/

/-- The digits of a group. -/
def groupText (n : Nat) : String :=
  String.ofList (Nat.toDigits 16 n)

/-- Groups between colons. -/
def joined (found : List Nat) : String :=
  ":".intercalate (found.map groupText)

/-- The longest run of zeros, as its start and its length; of equally long ones the first. -/
def zeroRun (found : List Nat) : Nat × Nat :=
  (List.range found.length).foldl
    (fun best i =>
      let length := ((found.drop i).takeWhile (· == 0)).length
      if best.2 < length then (i, length) else best)
    (0, 0)

/-- Eight groups.  Addresses that stand for four numbers show them. -/
def groupsText (found : List Nat) : String :=
  match found with
  | [0, 0, 0, 0, 0, 0xffff, a, b] =>
    "::ffff:" ++ ".".intercalate ([a / 256, a % 256, b / 256, b % 256].map Text.natural)
  | _ =>
    let (start, length) := zeroRun found
    if 2 ≤ length then joined (found.take start) ++ "::" ++ joined (found.drop (start + length))
    else joined found

/-- The text of an address. -/
def text : Address → String
  | four numbers => ".".intercalate (numbers.map Text.natural)
  | eight found zone =>
    "[" ++ groupsText found ++ (if zone = 0 then "" else "%" ++ Text.natural zone) ++ "]"

example : ((read "[1:0:0:2::10.0.0.1]").toOption.map text) = some "[1::2:0:0:a00:1]" := by
  decide +kernel
example : ((read "127.0.0.1").toOption.map text) = some "127.0.0.1" := by decide +kernel
example : (read "127.0.0.01").toOption = none := by decide +kernel

end Address

/-- Where requests are received. -/
def ServerSettings.listenAddress (s : ServerSettings) : Except HostFault String :=
  (Address.read s.host).map fun a => a.text ++ ":" ++ Text.natural s.port

end EntityFilter
