import EntityFilter.Json.Value
import EntityFilter.Query.Columns

/-!
# Entities

The rows of a filter are gathered by entity.  The first cell of a row tells the entity, and two
cells tell the same entity if they have the same text.  Entities keep the order of their first
rows, and the position of each is kept by its text (`Entity.Gathering`); if tags are asked for,
every row is one of the tags of its entity.
-/

namespace EntityFilter

/-- An entity that matches a filter. -/
structure Entity where
  id : Json
  /-- The tags, if they are asked for. -/
  tags : Option (List Json)
deriving Repr

namespace Entity

/-- The text that an entity is known by. -/
def key (e : Entity) : String :=
  e.id.render

/-- The tag that a row is: the cells by the names of the columns. -/
def tagOfRow (columns : List String) (row : List Json) : Json :=
  .ofMembers (columns.zip row)

/-- The entity with one more tag, if it has tags at all. -/
def addTag (e : Entity) (tag : Json) : Entity :=
  { e with tags := e.tags.map (· ++ [tag]) }

/-- The entity of a row, with no tags yet. -/
def ofId (selection : TagSelection) (id : Json) : Entity :=
  ⟨id, if selection.includesTags then some [] else none⟩

/-- The entities of the rows that were gathered, and the position of each by its text. -/
structure Gathering where
  entities : List Entity := []
  positions : List (String × Nat) := []
deriving Repr

namespace Gathering

/-- The position of the entity with this number.  A new entity is put behind all others. -/
def place (selection : TagSelection) (g : Gathering) (id : Json) : Nat × Gathering :=
  match g.positions.lookup id.render with
  | some position => (position, g)
  | none          =>
    let position := g.entities.length
    (position, ⟨g.entities ++ [ofId selection id], (id.render, position) :: g.positions⟩)

/-- Gathers one more row; one without cells is passed over. -/
def addRow (selection : TagSelection) (columns : List String) (g : Gathering) :
    List Json → Gathering
  | [] => g
  | row@(id :: _) =>
    let (position, placed) := g.place selection id
    { placed with
      entities := placed.entities.modify position (·.addTag (tagOfRow columns row)) }

end Gathering

/-- The entities of some rows. -/
def ofRows (selection : TagSelection) (columns : List String) (rows : List (List Json)) :
    List Entity :=
  (rows.foldl (Gathering.addRow selection columns) {}).entities

/-- The number of an entity, if it is an integer of 64 bits. -/
def number? (e : Entity) : Option Int :=
  match e.id with
  | .int n => if Text.isInt64 n then some n else none
  | _      => none

/-- The entity as a JSON value. -/
def toJson (e : Entity) : Json :=
  .obj (("entity_id", e.id) :: match e.tags with
    | some tags => [("tags", .arr tags)]
    | none      => [])

end Entity

end EntityFilter
