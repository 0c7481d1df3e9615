import EntityFilter.Launch.Log
import EntityFilter.Text.Alphanumeric
import EntityFilter.Text.Blank
import EntityFilter.Text.Numeral

/-!
# Log directives

Which events are written is said by directives between commas.  A directive is a level, a target,
or both, as in `tagql=info`.  Behind the target the name of a span and a field may stand, as in
`tagql[request{id=7}]=info`.

A directive speaks of the events whose target starts with its own and that have its field.  Of
those that speak of an event the most specific one decides: the one with the longest target, and
then one with a field.  Directives that ask for a span, or for the value of a field, are about spans
and never decide on an event.
-/

namespace EntityFilter

/-- A field that a directive asks for. -/
structure FieldPattern where
  name : String
  /-- A value is asked for too. -/
  hasValue : Bool
deriving DecidableEq, Repr

/-- Which events are written: those that a directive speaks of and that have at most this rank. -/
structure LogDirective where
  /-- The start of a target; none for all targets. -/
  target : Option String := none
  /-- The name of a span. -/
  span : Option String := none
  field : Option FieldPattern := none
  rank : Nat := LogLevel.trace.rank
deriving DecidableEq, Repr

/-- Why a text is no directive. -/
inductive DirectiveFault
  | form
  | level
deriving DecidableEq, Repr

/-- The wording. -/
def DirectiveFault.message : DirectiveFault → String
  | form  => "invalid filter directive"
  | level =>
    "error parsing level filter: expected one of \"off\", \"error\", \"warn\", \"info\", " ++
    "\"debug\", \"trace\", or a number 0-5"

namespace LogDirective

/-! ### Reading -/

/-- The rank that a word stands for: the name of a level in any letter case, or a number. -/
def rank? (word : String) : Option Nat :=
  match Text.unsigned? 64 word.toList with
  | some n => if n ≤ LogLevel.trace.rank then some n else none
  | none =>
    let upper := String.ofList (word.toList.map Char.toUpper)
    if upper = "OFF" then some 0
    else (LogLevel.all.find? fun l => l.name == upper).map LogLevel.rank

/-- The field that a text asks for: a name, perhaps with a value behind an equals sign. -/
def fieldPattern (text : List Char) : FieldPattern :=
  let name := text.takeWhile (· != '=')
  ⟨String.ofList name, name.length != text.length⟩

/-- A character that a directive may start with, brackets apart. -/
def isFirst (c : Char) : Bool :=
  Text.isAlphanumeric c || c == '-' || c == ':' || c == '_'

/-- What is being read; the numbers are where it starts. -/
inductive State
  | start
  | levelOrTarget
  | span (first : Nat)
  | field (first : Nat)
  | afterField
  | afterSpan
  | level (first : Nat)
deriving DecidableEq, Repr

/-- A directive that is read in part. -/
structure Reading where
  state : State := .start
  found : LogDirective := {}

/-- The part of a text between two places. -/
def part (text : List Char) (first last : Nat) : List Char :=
  (text.drop first).take (last - first)

/-- Reads the character at a place.  The parts are cut out of `text` at the places where they
start and end. -/
def Reading.next (text : List Char) (r : Reading) (place : Nat) (c : Char) :
    Except DirectiveFault Reading :=
  match r.state, c with
  | .start, '[' => .ok { r with state := .span (place + 1) }
  | .start, _   => if isFirst c then .ok { r with state := .levelOrTarget } else .error .form
  | .levelOrTarget, '=' =>
    .ok ⟨.level (place + 1), { r.found with target := some (String.ofList (part text 0 place)) }⟩
  | .levelOrTarget, '[' =>
    .ok ⟨.span (place + 1), { r.found with target := some (String.ofList (part text 0 place)) }⟩
  | .levelOrTarget, _ => .ok r
  | .span first, ']' =>
    .ok ⟨.afterSpan, { r.found with span := some (String.ofList (part text first place)) }⟩
  | .span first, '\x7b' =>
    let name := part text first place
    let span := if name.isEmpty then none else some (String.ofList name)
    .ok ⟨.field (place + 1), { r.found with span }⟩
  | .span _, _ => .ok r
  | .field first, '\x7d' =>
    let name := part text first place
    if name.isEmpty then .error .form
    else .ok ⟨.afterField, { r.found with field := some (fieldPattern name) }⟩
  | .field _, _      => .ok r
  | .afterField, ']' => .ok { r with state := .afterSpan }
  | .afterSpan, '='  => .ok { r with state := .level (place + 1) }
  | .level _, _      => .ok r
  | _, _             => .error .form

/-- Reads characters, the first of which stands at a place. -/
def Reading.nextAll (text : List Char) (r : Reading) (place : Nat) :
    List Char → Except DirectiveFault Reading
  | []        => .ok r
  | c :: rest => do (← r.next text place c).nextAll text (place + 1) rest

/-- The directive that was read.  A level that is left out stands for all levels. -/
def Reading.finish (text : List Char) (r : Reading) : Except DirectiveFault LogDirective :=
  match r.state with
  | .levelOrTarget =>
    let word := String.ofList text
    match rank? word with
    | some rank => .ok { rank }
    | none      => .ok { target := some word }
  | .afterSpan => .ok r.found
  | .level first =>
    let word := String.ofList (text.drop first)
    if word.isEmpty then .ok r.found
    else match rank? word with
      | some rank => .ok { r.found with rank }
      | none      => .error .level
  | _ => .error .form

/-- The directive that a text is.  Blanks around it are not read, and places are counted from the
first character that is; but parts are cut out of the whole text, so that each blank in front
shifts them by one. -/
def read (text : String) : Except DirectiveFault LogDirective := do
  let chars := text.toList
  let r ← ({} : Reading).nextAll chars 0 (Text.trim text).toList
  r.finish chars

/-- The texts between commas, empty ones apart. -/
def words (text : String) : List String :=
  (text.splitOn ",").filter fun word => !word.isEmpty

/-- The directives that a text is, all of which have to be understood. -/
def readAll (text : String) : Except DirectiveFault (List LogDirective) :=
  (words text).mapM read

/-! ### Decisions -/

/-- The directive can decide on events. -/
def isStatic (d : LogDirective) : Bool :=
  d.span.isNone && !d.field.any FieldPattern.hasValue

/-- The directive speaks of an event. -/
def covers (d : LogDirective) (e : LogEvent) : Bool :=
  d.isStatic && d.target.all (fun start => start.toList.isPrefixOf e.target.toList) &&
  d.field.all fun f => e.names.contains f.name

/-- How much of a target the directive names. -/
def weight (d : LogDirective) : Nat :=
  match d.target with
  | some start => start.length + 1
  | none       => 0

/-- The text is in front of another one in a dictionary. -/
def isBefore : List Char → List Char → Bool
  | _, []            => false
  | [], _ :: _       => true
  | a :: as, b :: bs => a.toNat < b.toNat || (a == b && isBefore as bs)

/-- The first directive yields to the second: that is as specific, or more.  Of two that ask for
fields the one with the later name counts as more specific. -/
def yields (a b : LogDirective) : Bool :=
  if a.weight = b.weight then
    match a.field, b.field with
    | none, _        => true
    | some _, none   => false
    | some f, some g => !isBefore g.name.toList f.name.toList
  else a.weight < b.weight

/-- The directive that decides on an event; of two that are as specific the later one. -/
def deciding? (directives : List LogDirective) (e : LogEvent) : Option LogDirective :=
  (directives.filter fun d => d.covers e).foldl
    (fun best d => match best with
      | some b => if b.yields d then some d else some b
      | none   => some d)
    none

/-- The event is written.  Without directives, errors are. -/
def allows (directives : List LogDirective) (e : LogEvent) : Bool :=
  let directives := if directives.isEmpty then [{ rank := LogLevel.error.rank }] else directives
  (deciding? directives e).any fun d => e.level.rank ≤ d.rank

example : (read "tagql=info").toOption = some { target := some "tagql", rank := 3 } := by
  decide +kernel
example : (read "DEBUG").toOption = some { rank := 4 } := by decide +kernel
example : (read "[\x7bversion\x7d]=03").toOption =
    some { field := some ⟨"version", false⟩, rank := 3 } := by decide +kernel

end LogDirective

end EntityFilter
