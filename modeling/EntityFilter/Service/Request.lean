import EntityFilter.Calendar.Reading
import EntityFilter.Query.Values
import EntityFilter.Service.Body
import EntityFilter.Service.Failure

/-!
# Requests

What clients ask for, as it stands in the bodies of their requests, and the checks that a request
has to pass before it is answered.
-/

namespace EntityFilter

/-- A request for entities. -/
structure FilterRequest where
  filter : String
  orgId : Int
  /-- The tags that are asked for. -/
  tags : Option (List String)
deriving DecidableEq, Repr

/-- How values are to be aggregated. -/
structure AggregationRequest where
  aggregation : Option String := none
  /-- The width of an interval in words, which is not used. -/
  time : Option String := none
  seconds : Option Nat := none
deriving DecidableEq, Repr

/-- A request for time series. -/
structure ValuesRequest where
  filter : FilterRequest
  dateFrom : String
  dateTo : String
  /-- The tag whose value makes the name of an entity. -/
  labelTag : Option String
  operation : Option AggregationRequest
deriving DecidableEq, Repr

/-- A request for the current values of a tag. -/
structure VariableValuesRequest where
  filter : FilterRequest
  tag : String
deriving DecidableEq, Repr

/-! ### Reading -/

namespace FilterRequest

/-- The fields that are read so far. -/
structure Fields where
  filter : Option String := none
  orgId : Option Int := none
  tags : Option (Option (List String)) := none

/-- Reads a field. -/
def Fields.set (s : Fields) (name : String) (d : Draft) : Except BodyFault Fields := do
  match name with
  | "filter" => return { s with filter := ← Body.once s.filter Body.text d }
  | "org_id" =>
    return { s with orgId := ← Body.once s.orgId (Body.integer Text.int64Min Text.int64Max) d }
  | "tags"   =>
    return { s with tags := ← Body.once s.tags (Body.optional (Body.list Body.text)) d }
  | _        => do
    Body.skip d
    return s

/-- The request with these fields. -/
def Fields.finish (s : Fields) : Except BodyFault FilterRequest := do
  return ⟨← Body.required s.filter, ← Body.required s.orgId, s.tags.getD none⟩

/-- Reads the body of a request. -/
def read (d : Draft) : Except BodyFault FilterRequest := do
  (← Body.record ["filter", "org_id", "tags"] Fields.set {} d).finish

/-- Reads the members of another record. -/
def ofMembers (members : List (Option String × Draft)) : Except BodyFault FilterRequest := do
  (← Body.members Fields.set {} members).finish

end FilterRequest

namespace AggregationRequest

/-- The fields that are read so far. -/
structure Fields where
  aggregation : Option (Option String) := none
  time : Option (Option String) := none
  seconds : Option (Option Int) := none

/-- Reads a field. -/
def Fields.set (s : Fields) (name : String) (d : Draft) : Except BodyFault Fields := do
  match name with
  | "aggregation"   =>
    return { s with aggregation := ← Body.once s.aggregation (Body.optional Body.text) d }
  | "time"          => return { s with time := ← Body.once s.time (Body.optional Body.text) d }
  | "timeInSeconds" =>
    let seconds := Body.optional (Body.integer 0 4294967295)
    return { s with seconds := ← Body.once s.seconds seconds d }
  | _               => do
    Body.skip d
    return s

/-- Reads a value. -/
def read (d : Draft) : Except BodyFault AggregationRequest := do
  let s ← Body.record ["aggregation", "time", "timeInSeconds"] Fields.set {} d
  return ⟨s.aggregation.getD none, s.time.getD none, (s.seconds.getD none).map Int.toNat⟩

end AggregationRequest

namespace ValuesRequest

/-- The fields that are read so far. -/
structure Fields where
  dateFrom : Option String := none
  dateTo : Option String := none
  labelTag : Option (Option String) := none
  operation : Option (Option AggregationRequest) := none

/-- Reads a field. -/
def Fields.set (s : Fields) (name : String) (d : Draft) : Option (Except BodyFault Fields) :=
  match name with
  | "date_from" =>
    some ((Body.once s.dateFrom Body.text d).map fun v => { s with dateFrom := v })
  | "date_to"   => some ((Body.once s.dateTo Body.text d).map fun v => { s with dateTo := v })
  | "val_tag"   =>
    some ((Body.once s.labelTag (Body.optional Body.text) d).map fun v =>
      { s with labelTag := v })
  | "operation" =>
    some ((Body.once s.operation (Body.optional AggregationRequest.read) d).map fun v =>
      { s with operation := v })
  | _           => none

/-- Reads the body of a request. -/
def read (d : Draft) : Except BodyFault ValuesRequest := do
  let (s, rest) ← Body.openRecord Fields.set {} d
  return ⟨← FilterRequest.ofMembers rest, ← Body.required s.dateFrom, ← Body.required s.dateTo,
    s.labelTag.getD none, s.operation.getD none⟩

end ValuesRequest

namespace VariableValuesRequest

/-- Reads the field of its own. -/
def set (s : Option String) (name : String) (d : Draft) :
    Option (Except BodyFault (Option String)) :=
  if name = "tag" then some (Body.once s Body.text d) else none

/-- Reads the body of a request. -/
def read (d : Draft) : Except BodyFault VariableValuesRequest := do
  let (tag, rest) ← Body.openRecord set none d
  return ⟨← FilterRequest.ofMembers rest, ← Body.required tag⟩

end VariableValuesRequest

/-! ### Checks -/

/-- The request is valid unless there are complaints. -/
def complain (complaints : List String) : Except Failure Unit :=
  if complaints.isEmpty then .ok () else .error (.invalid ("\n".intercalate complaints))

/-- A complaint about a field, unless its length is between two bounds. -/
def lengthComplaint (field : String) (least greatest length : Nat) (complaint : String) :
    List String :=
  if least ≤ length && length ≤ greatest then [] else [field ++ ": " ++ complaint]

/-- What is wrong with a request for entities, of which the fields are named with `path`. -/
def FilterRequest.complaints (path : String) (r : FilterRequest) : List String :=
  lengthComplaint (path ++ "filter") 1 4096 r.filter.length "filter must be 1 to 4096 characters" ++
  lengthComplaint (path ++ "tags") 0 256 (r.tags.getD []).length
    "at most 256 tags may be requested"

/-- The request is valid. -/
def FilterRequest.check (r : FilterRequest) : Except Failure Unit :=
  complain (r.complaints "")

/-- The request is valid. -/
def VariableValuesRequest.check (r : VariableValuesRequest) : Except Failure Unit :=
  complain (r.filter.complaints "filter." ++
    lengthComplaint "tag" 1 255 r.tag.length "tag must be 1 to 255 characters")

namespace ValuesRequest

/-- The request is valid. -/
def check (r : ValuesRequest) : Except Failure Unit :=
  complain (r.filter.complaints "filter.")

/-- The instant that a field names. -/
def instant (field value : String) : Except Failure Instant :=
  let value := Text.trim value
  match Instant.read? value.toList with
  | some i => .ok i
  | none   => .error (.invalid (field ++ " '" ++ value ++ "' is not a timestamp"))

/-- The bounds of the time series, the first of which is earlier. -/
def range (r : ValuesRequest) : Except Failure (Instant × Instant) := do
  let first ← instant "date_from" r.dateFrom
  let last ← instant "date_to" r.dateTo
  if first.before last then pure (first, last)
  else throw (.invalid "date_from must be before date_to")

/-- How values are aggregated: not at all, unless both a function and a width are given. -/
def bucketing (r : ValuesRequest) : Except Failure (Option Bucketing) :=
  match r.operation with
  | none => .ok none
  | some operation =>
    let name := operation.aggregation.getD ""
    if (Text.trim name).isEmpty then .ok none
    else match Aggregation.ofName? name, operation.seconds with
      | none, _               => .error (.invalid ("unknown aggregation '" ++ name ++ "'"))
      | some _, none          => .ok none
      | some _, some 0        => .error (.invalid "timeInSeconds must be positive")
      | some f, some (n + 1)  => .ok (some ⟨f, n + 1⟩)

/-- The tags that make the name of an entity: those that are asked for, or else the one for
labels. -/
def labelTags (r : ValuesRequest) : List String :=
  match r.filter.tags.getD [], Text.trim (r.labelTag.getD "") with
  | [], ""    => []
  | [], label => [label]
  | tags, _   => tags

end ValuesRequest

end EntityFilter
