import EntityFilter.Number.Reading
import EntityFilter.Number.Shortest
import EntityFilter.Settings.Decode
import EntityFilter.Settings.Key

/-!
# Layers of settings

Settings come from a file and from variables of the environment, and a variable wins over the
file.  Both are tables of loosely typed values (`Setting`), which are set one after the other at
their keys, over the defaults (`Setting.layer`), before they are understood.

The letter case of names does not matter.  The variable `TAGQL__SECTION__KEY` sets a key.  Its
text counts as a truth value or a number if it looks like one; two keys are lists, written between
commas.  A number may stand for a text and the other way round (`Understanding.lenient`), so that a
text that looks like a number keeps its value, but not its spelling.
-/

namespace EntityFilter

/-- A value of a source of settings. -/
inductive Setting
  | null
  | bool (value : Bool)
  | int (value : Int)
  | number (value : Double)
  | text (text : String)
  | list (items : List Setting)
  | table (members : List (String × Setting))
deriving Repr

namespace Setting

/-! ### Layers -/

/-- The members of a table; anything else counts as an empty one. -/
def members : Setting → List (String × Setting)
  | table found => found
  | _           => []

/-- The items of a list; anything else counts as an empty one. -/
def items : Setting → List Setting
  | list found => found
  | _          => []

/-- The members with a name set to a value. -/
def put (found : List (String × Setting)) (name : String) (value : Setting) :
    List (String × Setting) :=
  if found.any fun m => m.1 == name then
    found.map fun m => if m.1 == name then (name, value) else m
  else found ++ [(name, value)]

mutual

/-- A value laid over what is below it, if there is anything.  The members of a table are laid over
those of a table below, one by one, so that an empty table changes nothing; any other value hides
what is below it. -/
def laidOver : Setting → Option Setting → Setting
  | table [], below            => below.getD (table [])
  | table (first :: rest), below =>
    table (membersOver (first :: rest) ((below.map members).getD []))
  | value, _                   => value

/-- Members laid over those of a table, with their names in lower case. -/
def membersOver : List (String × Setting) → List (String × Setting) → List (String × Setting)
  | [], below => below
  | (name, value) :: rest, below =>
    let name := KeyStep.lower name
    membersOver rest (put below name (value.laidOver (below.lookup name)))

end

/-- Items with the one at a place changed.  A list that is too short gets null values, and a place
in front of the list changes nothing. -/
def changeAt (found : List Setting) (place : Int) (change : Setting → Setting) : List Setting :=
  match if place < 0 then found.length + place else place with
  | .ofNat n =>
    let padded := found ++ List.replicate (n + 1 - found.length) null
    padded.mapIdx fun i item => if i = n then change item else item
  | .negSucc _ => found

/-- Sets a value at the end of some steps.  What is in the way gives way to tables and lists. -/
def setAt (value : Setting) : List KeyStep → Setting → Setting
  | [], _ => value
  | [.name name], below =>
    let name := KeyStep.lower name
    table (put below.members name (value.laidOver (below.members.lookup name)))
  | .name name :: rest, below =>
    let name := KeyStep.lower name
    table (put below.members name (value.setAt rest ((below.members.lookup name).getD null)))
  | .index place :: rest, below => list (changeAt below.items place (value.setAt rest))

/-- Values set one after the other, each at its key. -/
def layer (found : List (String × Setting)) (below : Setting) : Setting :=
  found.foldl (fun below m => m.2.setAt (KeyStep.ofKey m.1) below) below

/-! ### Sources -/

mutual

/-- The value that a JSON value is.  Integers beyond 64 bits with a sign are rounded. -/
def ofJson : Json → Setting
  | .null   => null
  | .bool b => bool b
  | .int n  =>
    if Text.isInt64 n then int n
    else number (.ofInt n)
  | .float a       => number (.finite a)
  | .str s         => text s
  | .arr items     => list (ofItems items)
  | .obj found     => table (ofMembers found)

/-- The values of items. -/
def ofItems : List Json → List Setting
  | []           => []
  | item :: rest => ofJson item :: ofItems rest

/-- The values of members. -/
def ofMembers : List (String × Json) → List (String × Setting)
  | []                    => []
  | (name, value) :: rest => (name, ofJson value) :: ofMembers rest

end

/-- The keys whose values are lists. -/
def listKeys : List String :=
  ["server.cors_origins", "filter.value_columns"]

/-- The value that a variable gives to a key. -/
def ofVariable (key value : String) : Setting :=
  if KeyStep.lower value = "true" then bool true
  else if KeyStep.lower value = "false" then bool false
  else match Text.int64? value.toList, Double.read? value.toList with
    | some n, _    => int n
    | none, some d => number d
    | none, none   =>
      if listKeys.contains key then list ((value.splitOn ",").map text) else text value

/-- The key that a variable sets, if it does. -/
def variableKey? (name : String) : Option String :=
  match KeyStep.lower name |>.splitOn "__" with
  | "tagql" :: first :: rest => some (".".intercalate (first :: rest))
  | _                        => none

/-- The keys that variables set, with their values. -/
def ofVariables (environment : List (String × String)) : List (String × Setting) :=
  environment.filterMap fun v => (variableKey? v.1).map fun key => (key, ofVariable key v.2)

/-- The value is a list without items. -/
def isEmptyList : Setting → Bool
  | list [] => true
  | _       => false

/-- What lies below all layers: the sections of the defaults.  A list without items is not there. -/
def defaults : Setting :=
  table ((ofJson ({} : Settings).toJson).members.map fun m =>
    (m.1, table (m.2.members.filter fun m => !m.2.isEmptyList)))

/-! ### Understanding -/

/-- The truth value that a word stands for. -/
def wordFlag? (s : String) : Option Bool :=
  if ["true", "on", "yes"].contains (KeyStep.lower s) then some true
  else if ["false", "off", "no"].contains (KeyStep.lower s) then some false
  else none

/-- The text of a value. -/
def asText? : Setting → Option String
  | text s   => some s
  | bool b   => some (if b then "true" else "false")
  | int n    => some (Text.integer n)
  | number d => some d.plain
  | _        => none

/-- A number rounded to a natural number of 64 bits, or the nearest of them. -/
def nearest64 : Double → Nat
  | .finite a          => if a.negative then 0 else min a.roundMagnitude (Text.maxUnsigned 64)
  | .infinite negative => if negative then 0 else Text.maxUnsigned 64
  | .nan               => 0

/-- The natural number of a value. -/
def asNatural? : Setting → Option Nat
  | int (.ofNat n) => some n
  | bool b         => some (if b then 1 else 0)
  | number d       => some (nearest64 d)
  | text s         =>
    match wordFlag? s with
    | some b => some (if b then 1 else 0)
    | none   => Text.unsigned? 64 s.toList
  | _              => none

/-- The truth value of a value. -/
def asFlag? : Setting → Option Bool
  | bool b            => some b
  | int n             => some (n != 0)
  | number (.finite a) => some (!a.isZero)
  | number _          => some true
  | text s            => if s = "1" then some true else if s = "0" then some false else wordFlag? s
  | _                 => none

/-- The number of a value. -/
def asNumber? : Setting → Option Double
  | number d => some d
  | int n    => some (Double.ofInt n)
  | bool b   => some (Double.ofInt (if b then 1 else 0))
  | text s   =>
    match wordFlag? s with
    | some b => some (Double.ofInt (if b then 1 else 0))
    | none   => Double.read? s.toList
  | _        => none

end Setting

/-- Values are taken for what is needed if there is a way to. -/
def Understanding.lenient : Understanding Setting where
  text? := Setting.asText?
  optionalText?
    | .null => some none
    | value => value.asText?.map some
  flag? := Setting.asFlag?
  natural? bound value := value.asNatural?.filter (· ≤ bound)
  number? := Setting.asNumber?
  texts?
    | .list items => items.mapM Setting.asText?
    | _           => none
  kindSource?
    | .text name         => KindSource.ofName? (KeyStep.lower name)
    | .table [(name, _)] => KindSource.ofName? (KeyStep.lower name)
    | _                  => none
  table? names
    | .table found => some found
    | .list items  => some (names.zip items)
    | _            => none

/-! ### Loading -/

/-- Where settings come from. -/
structure SettingsSources where
  environment : List (String × String)
  /-- The content of the file with a name, whose extension may be left out. -/
  file? : String → Option Json

/-- The file that the variables name. -/
def SettingsSources.named? (s : SettingsSources) : Option String :=
  (s.environment.lookup "TAGQL_CONFIG").filter fun name => !(Text.trim name).isEmpty

/-- The content of the file: of the one that is named, which must exist, or else of `config`, if
it exists.  It has to be an object. -/
def SettingsSources.fileLayer? (s : SettingsSources) : Option (List (String × Setting)) :=
  let content := match s.named? with
    | some name => s.file? name
    | none      => some ((s.file? "config").getD (.obj []))
  match content with
  | some (.obj members) => some (Setting.ofMembers members)
  | _                   => none

/-- The settings from some sources. -/
def Settings.load? (s : SettingsSources) : Option Settings := do
  let file ← s.fileLayer?
  let set := Setting.ofVariables s.environment
  Understanding.lenient.settings? (Setting.layer set (Setting.layer file Setting.defaults))

end EntityFilter
