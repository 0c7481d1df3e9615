import EntityFilter.Json.Draft

/-!
# Bodies of requests

A body is read from left to right, and the first problem decides: either the text is no JSON
there, or its value is not what is expected.  Two kinds of records are read.  A plain record
(`Body.record`) is an object, or an array of its fields in order; fields that are not known only
have to be JSON.  An open record (`Body.openRecord`) is an object that is read for two readers at
once: its own fields are read where they stand, and all others are gathered and read at the end.
-/

namespace EntityFilter

/-- What is wrong with a body. -/
inductive BodyFault
  /-- The text is no JSON. -/
  | malformed
  /-- The value is not of the expected shape. -/
  | misshapen
deriving DecidableEq, Repr

namespace Body

mutual

/-- A draft without defects. -/
def isSound : Draft → Bool
  | .arr items closed   => areSound items && closed
  | .obj members closed => haveSound members && closed
  | .broken             => false
  | _                   => true

/-- Drafts without defects. -/
def areSound : List Draft → Bool
  | []           => true
  | item :: rest => isSound item && areSound rest

/-- Members without defects. -/
def haveSound : List (Option String × Draft) → Bool
  | []                => true
  | (_, item) :: rest => isSound item && haveSound rest

end

/-- The fault of a value that is not of the expected type.  A single value is read to its end
first. -/
def unexpected : Draft → BodyFault
  | .broken | .float none | .str none => .malformed
  | _                                 => .misshapen

/-- A text. -/
def text : Draft → Except BodyFault String
  | .str (some s) => .ok s
  | d             => .error (unexpected d)

/-- An integer between two bounds. -/
def integer (least greatest : Int) : Draft → Except BodyFault Int
  | .int n => if least ≤ n && n ≤ greatest then .ok n else .error .misshapen
  | d      => .error (unexpected d)

/-- A value that may be null. -/
def optional (read : Draft → Except BodyFault α) : Draft → Except BodyFault (Option α)
  | .null => .ok none
  | d     => (read d).map some

/-- A list of values. -/
def list (read : Draft → Except BodyFault α) : Draft → Except BodyFault (List α)
  | .arr items closed => do
    let found ← items.mapM read
    if closed then pure found else throw .malformed
  | d => .error (unexpected d)

/-- A value of which only matters that it is JSON. -/
def skip (d : Draft) : Except BodyFault Unit :=
  if isSound d then .ok () else .error .malformed

/-- A field that is read for the first time. -/
def once (known : Option α) (read : Draft → Except BodyFault α) (d : Draft) :
    Except BodyFault (Option α) :=
  if known.isSome then .error .misshapen else (read d).map some

/-- A field that has to be there. -/
def required (field : Option α) : Except BodyFault α :=
  match field with
  | some a => .ok a
  | none   => .error .misshapen

/-- The members of an object, read one after the other. -/
def members (set : σ → String → Draft → Except BodyFault σ) :
    σ → List (Option String × Draft) → Except BodyFault σ
  | s, []                       => .ok s
  | _, (none, _) :: _           => .error .malformed
  | s, (some name, item) :: rest => do members set (← set s name item) rest

/-- A plain record with these fields. -/
def record (fields : List String) (set : σ → String → Draft → Except BodyFault σ) (start : σ) :
    Draft → Except BodyFault σ
  | .obj found closed => do
    let s ← members set start found
    if closed then pure s else throw .malformed
  | .arr items closed => do
    let s ← members set start ((fields.map some).zip items)
    if closed && items.length ≤ fields.length then pure s else throw .malformed
  | d => .error (unexpected d)

/-- An open record.  `own` reads a field of its own, and gives none for any other; the others are
returned. -/
def openRecord (own : σ → String → Draft → Option (Except BodyFault σ)) (start : σ) :
    Draft → Except BodyFault (σ × List (Option String × Draft))
  | .obj found closed => do
    let s ← members gather (start, []) found
    if closed then pure s else throw .malformed
  | d => .error (unexpected d)
where
  gather (s : σ × List (Option String × Draft)) (name : String) (d : Draft) :
      Except BodyFault (σ × List (Option String × Draft)) :=
    match own s.1 name d with
    | some result => result.map fun t => (t, s.2)
    | none =>
      if (d.toJson? (Draft.maxLevels - 1)).isSome then .ok (s.1, s.2 ++ [(some name, d)])
      else .error .malformed

end Body

end EntityFilter
