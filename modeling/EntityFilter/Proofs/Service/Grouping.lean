import Mathlib.Data.List.Induction
import Mathlib.Data.List.Nodup
import EntityFilter.Service.Entities

/-!
# Rows are grouped by entity

A row belongs to the entity that the text of its first cell tells (`Entity.rowKey?`), and the rows
of one entity are found by that text (`Entity.rowsWith`).  `Entity.Grouped` says how the entities of
some rows follow from the rows alone, without the order in which they were gathered.  Where an
entity stands is kept by its text, and a row finds its entity there as it would by going through all
of them (`Entity.Gathering.foldl_addRow`).

**Entities are a stable grouping of the rows** (`Entity.ofRows_groups_stably`).  Entities come in
the order of their first rows and no two of them have one text, every row that has cells belongs to
one of them, and the tags of an entity are its rows in their order.  A row is an object of its
cells, which `Entity.tagOfRow_members` tells for rows of any length and for names that occur twice.
-/

namespace EntityFilter

/-! ### First occurrences -/

theorem eraseDups_concat {α : Type} [DecidableEq α] (xs : List α) (x : α) :
    (xs ++ [x]).eraseDups = if x ∈ xs then xs.eraseDups else xs.eraseDups ++ [x] := by
  rw [List.eraseDups_append]
  by_cases h : x ∈ xs <;> simp [List.removeAll, List.eraseDups_cons, h]

theorem nodup_eraseDups {α : Type} [DecidableEq α] (xs : List α) : xs.eraseDups.Nodup := by
  induction xs using List.reverseRecOn with
  | nil => exact List.nodup_nil
  | append_singleton xs x ih =>
      rw [eraseDups_concat]
      split
      case isTrue => exact ih
      case isFalse h =>
        rw [← List.concat_eq_append]
        exact ih.concat (mt List.mem_eraseDups.mp h)

theorem lookup_cons_eq_ite {β : Type} (text other : String) (b : β) (entries : List (String × β)) :
    ((text, b) :: entries).lookup other =
      if other = text then some b else entries.lookup other := by
  rw [List.lookup_cons]
  by_cases h : other = text
  · rw [if_pos h, beq_iff_eq.mpr h]
  · rw [if_neg h, beq_eq_false_iff_ne.mpr h]

/-! ### Members of an object -/

namespace Json

theorem insert_of_notMem {members : List (String × Json)} {name : String}
    (h : name ∉ members.map Prod.fst) (value : Json) :
    insert members name value = members ++ [(name, value)] := by
  have hnew : ¬ members.any fun m => m.1 == name := by
    simpa using h
  rw [insert, if_neg hnew]

theorem insert_of_mem {members : List (String × Json)} {name : String}
    (h : name ∈ members.map Prod.fst) (value : Json) :
    insert members name value = members.map fun m => if m.1 == name then (name, value) else m := by
  have hknown : members.any fun m => m.1 == name := by
    simpa using h
  rw [insert, if_pos hknown]

/-- A name that is set again keeps its place. -/
theorem map_fst_insert (members : List (String × Json)) (name : String) (value : Json) :
    (insert members name value).map Prod.fst = if name ∈ members.map Prod.fst then
      members.map Prod.fst else members.map Prod.fst ++ [name] := by
  by_cases h : name ∈ members.map Prod.fst
  · rw [insert_of_mem h, if_pos h, List.map_map]
    refine List.map_congr_left fun m _ => ?_
    by_cases hm : m.1 = name
    · simp [hm]
    · simp [hm]
  · rw [insert_of_notMem h, if_neg h, List.map_append]
    rfl

/-- The value that was set is found, and the others are left as they are. -/
theorem get?_insert (members : List (String × Json)) (name other : String) (value : Json) :
    (obj (insert members name value)).get? other =
      if other = name then some value else (obj members).get? other := by
  have hget : ∀ set, (obj set).get? other = (set.find? fun m => m.1 == other).map Prod.snd :=
    fun _ => rfl
  rw [hget, hget]
  by_cases h : name ∈ members.map Prod.fst
  · -- the names are left as they are, so the same member is found
    have hsame : ((fun m : String × Json => m.1 == other) ∘ fun m =>
        if m.1 == name then (name, value) else m) = fun m => m.1 == other := by
      funext m
      by_cases hm : m.1 = name
      · simp [hm]
      · simp [hm]
    rw [insert_of_mem h, List.find?_map, hsame]
    cases hfind : members.find? fun m => m.1 == other with
    | none =>
        have hother : other ≠ name := by
          rintro rfl
          simp only [List.find?_eq_none, beq_iff_eq] at hfind
          obtain ⟨m, hm, rfl⟩ := List.mem_map.mp h
          exact hfind m hm rfl
        rw [if_neg hother]
        rfl
    | some m =>
        have hm : m.1 = other := by simpa using List.find?_some hfind
        by_cases hother : other = name
        · simp [hm, hother]
        · simp [hm, hother]
  · rw [insert_of_notMem h, List.find?_append]
    by_cases hother : other = name
    · have hnone : (members.find? fun m => m.1 == name) = none := by
        rw [List.find?_eq_none]
        intro m hm heq
        exact h (beq_iff_eq.mp heq ▸ List.mem_map_of_mem hm)
      simp [hother, hnone]
    · simp [hother, Ne.symm hother]

/-- An object has one member for each name, in the order of first occurrences. -/
theorem exists_ofMembers (members : List (String × Json)) : ∃ set, ofMembers members = .obj set ∧
    set.map Prod.fst = (members.map Prod.fst).eraseDups := by
  refine ⟨_, rfl, ?_⟩
  induction members using List.reverseRecOn with
  | nil => rfl
  | append_singleton members m ih =>
      rw [List.foldl_concat, map_fst_insert, ih, List.map_append, List.map_singleton,
        eraseDups_concat]
      simp only [List.mem_eraseDups]

/-- Of members with one name the last one counts. -/
theorem get?_ofMembers (members : List (String × Json)) (name : String) :
    (ofMembers members).get? name = members.reverse.lookup name := by
  induction members using List.reverseRecOn with
  | nil => rfl
  | append_singleton members m ih =>
      rw [ofMembers, List.foldl_concat, get?_insert, List.reverse_concat, lookup_cons_eq_ite, ← ih,
        ofMembers]

end Json

namespace Entity

/-! ### Rows of an entity -/

/-- The text that the entity of a row is known by.  A row without cells has no entity. -/
def rowKey? (row : List Json) : Option String :=
  row.head?.map Json.render

/-- The rows of the entity that is known by `key`, in their order. -/
def rowsWith (key : String) (rows : List (List Json)) : List (List Json) :=
  rows.filter fun row => rowKey? row == some key

theorem rowsWith_append (key : String) (rows more : List (List Json)) :
    rowsWith key (rows ++ more) = rowsWith key rows ++ rowsWith key more :=
  List.filter_append ..

theorem rowsWith_nil_row (key : String) : rowsWith key [[]] = [] :=
  rfl

theorem rowsWith_cons_row (key : String) (id : Json) (cells : List Json) :
    rowsWith key [id :: cells] = if id.render = key then [id :: cells] else [] := by
  simp [rowsWith, rowKey?, List.filter_cons]

@[simp]
theorem key_addTag (e : Entity) (tag : Json) : (e.addTag tag).key = e.key :=
  rfl

variable {selection : TagSelection} {columns : List String} {rows : List (List Json)}
  {entities : List Entity}

/-! ### Positions -/

/-- The entities with one more row, whose entity is looked for by its text. -/
def addRow (selection : TagSelection) (columns : List String) (entities : List Entity) :
    List Json → List Entity
  | [] => entities
  | row@(id :: _) =>
    let tag := tagOfRow columns row
    if entities.any fun e => e.key == id.render then
      entities.map fun e => if e.key == id.render then e.addTag tag else e
    else entities ++ [(ofId selection id).addTag tag]

theorem any_key_iff {text : String} :
    (entities.any fun e => e.key == text) ↔ text ∈ entities.map key := by
  simp only [List.any_eq_true, beq_iff_eq, List.mem_map]

theorem map_of_notMem_keys {text : String} (h : text ∉ entities.map key) (f : Entity → Entity) :
    (entities.map fun e => if e.key == text then f e else e) = entities := by
  refine (List.map_congr_left fun e he => ?_).trans (List.map_id entities)
  have hother : e.key ≠ text := fun heq => h (heq ▸ List.mem_map_of_mem he)
  exact if_neg (by simpa using hother)

namespace Gathering

variable {g : Gathering}

/-- The positions are those of the entities: each text has the position of the entity that is known
by it, and no two entities have one text. -/
def Indexed (g : Gathering) : Prop :=
  ∀ text i, g.positions.lookup text = some i ↔ (g.entities.map key)[i]? = some text

theorem indexed_nil : Indexed {} := by
  intro text i
  simp

namespace Indexed

theorem lookup_eq_none_iff (h : g.Indexed) {text : String} :
    g.positions.lookup text = none ↔ text ∉ g.entities.map key := by
  rw [Option.eq_none_iff_forall_ne_some, List.mem_iff_getElem?, not_exists]
  exact forall_congr' fun i => not_congr (h text i)

/-- What is done at the position of a text is done to the entity that is known by it. -/
theorem modify_eq_map (h : g.Indexed) {text : String} {i : Nat}
    (hi : g.positions.lookup text = some i) (f : Entity → Entity) :
    g.entities.modify i f = g.entities.map fun e => if e.key == text then f e else e := by
  refine List.ext_getElem? fun j => ?_
  rw [List.getElem?_modify, List.getElem?_map]
  cases hj : g.entities[j]? with
  | none => rfl
  | some e =>
      have hat : (g.entities.map key)[j]? = some e.key := by
        rw [List.getElem?_map, hj]
        rfl
      have hkey : i = j ↔ e.key = text := by
        constructor
        · rintro rfl
          exact Option.some.inj (hat.symm.trans ((h text i).mp hi))
        · intro heq
          exact Option.some.inj (hi.symm.trans ((h text j).mpr (heq ▸ hat)))
      simp [hkey]

/-- A tag more leaves the positions right. -/
theorem addTag (h : g.Indexed) (i : Nat) (tag : Json) :
    Indexed { g with entities := g.entities.modify i (·.addTag tag) } := by
  have hkeys : (g.entities.modify i (·.addTag tag)).map key = g.entities.map key := by
    refine List.ext_getElem? fun j => ?_
    rw [List.getElem?_map, List.getElem?_map, List.getElem?_modify]
    cases g.entities[j]? with
    | none => rfl
    | some e => exact congrArg some (by dsimp only; split <;> rfl)
  intro text j
  rw [hkeys]
  exact h text j

/-- A new entity stands behind all others. -/
theorem concat (h : g.Indexed) {e : Entity} (hnew : g.positions.lookup e.key = none) :
    Indexed ⟨g.entities ++ [e], (e.key, g.entities.length) :: g.positions⟩ := by
  intro text i
  have hlength : (g.entities.map key).length = g.entities.length := List.length_map key
  have hold : g.entities.length ≤ i → g.positions.lookup text ≠ some i := by
    intro hle
    rw [ne_eq, h, List.getElem?_eq_none (hlength.symm ▸ hle)]
    exact nofun
  rw [lookup_cons_eq_ite, List.map_append, List.map_singleton, List.getElem?_append, hlength]
  rcases Nat.lt_trichotomy i g.entities.length with hlt | rfl | hgt
  · -- at an old position there is an old text
    rw [if_pos hlt, ← h]
    by_cases htext : text = e.key
    · simp [htext, hnew, Nat.ne_of_gt hlt]
    · rw [if_neg htext]
  · rw [if_neg (Nat.lt_irrefl _), Nat.sub_self]
    by_cases htext : text = e.key
    · simp [htext]
    · simp [htext, hold (Nat.le_refl _), Ne.symm htext]
  · rw [if_neg (Nat.not_lt_of_gt hgt), List.getElem?_eq_none (by simp; omega)]
    by_cases htext : text = e.key
    · simp [htext, Nat.ne_of_lt hgt]
    · simp [htext, hold (Nat.le_of_lt hgt)]

/-- **A row is gathered at the position of its entity**, where the entity is found by its text. -/
theorem addRow (selection : TagSelection) (columns : List String) (h : g.Indexed)
    (row : List Json) :
    (g.addRow selection columns row).Indexed ∧
      (g.addRow selection columns row).entities =
        Entity.addRow selection columns g.entities row := by
  cases row with
  | nil => exact ⟨h, rfl⟩
  | cons id cells =>
      simp only [Gathering.addRow, place, Entity.addRow]
      cases hi : g.positions.lookup id.render with
      | some i =>
          have hmem : id.render ∈ g.entities.map key :=
            List.mem_of_getElem? ((h id.render i).mp hi)
          rw [if_pos (any_key_iff.mpr hmem)]
          exact ⟨h.addTag i _, h.modify_eq_map hi _⟩
      | none =>
          have hnew : id.render ∉ g.entities.map key := h.lookup_eq_none_iff.mp hi
          have hplaced := h.concat (e := ofId selection id) hi
          have hposition := lookup_cons_eq_ite id.render id.render g.entities.length g.positions
          rw [if_pos rfl] at hposition
          rw [if_neg (mt any_key_iff.mp hnew)]
          refine ⟨hplaced.addTag _ _, (hplaced.modify_eq_map hposition _).trans ?_⟩
          -- of all entities only the new one has the text
          have hkey : (ofId selection id).key == id.render := beq_self_eq_true id.render
          rw [List.map_append, map_of_notMem_keys hnew, List.map_singleton, if_pos hkey]

end Indexed

/-- **Gathering rows by position is gathering them by text.** -/
theorem foldl_addRow (selection : TagSelection) (columns : List String) (h : g.Indexed)
    (rows : List (List Json)) :
    (rows.foldl (Gathering.addRow selection columns) g).entities =
      rows.foldl (Entity.addRow selection columns) g.entities := by
  induction rows generalizing g with
  | nil => rfl
  | cons row rows ih =>
      obtain ⟨hindexed, hentities⟩ := h.addRow selection columns row
      rw [List.foldl_cons, List.foldl_cons, ih hindexed, hentities]

end Gathering

theorem ofRows_eq_foldl (selection : TagSelection) (columns : List String)
    (rows : List (List Json)) :
    ofRows selection columns rows = rows.foldl (addRow selection columns) [] :=
  Gathering.foldl_addRow selection columns Gathering.indexed_nil rows

/-! ### Grouping -/

/-- The tags of an entity with these rows, if tags are asked for. -/
def tagsOfRows (selection : TagSelection) (columns : List String) (rows : List (List Json)) :
    Option (List Json) :=
  if selection.includesTags then some (rows.map (tagOfRow columns)) else none

theorem tagsOfRows_append (rows : List (List Json)) (row : List Json) :
    tagsOfRows selection columns (rows ++ [row]) =
      (tagsOfRows selection columns rows).map (· ++ [tagOfRow columns row]) := by
  unfold tagsOfRows
  split <;> simp

/-- The entity is the one that these rows make: its number is in the first of them, and all of them
are its tags. -/
structure OfOwnRows (selection : TagSelection) (columns : List String) (rows : List (List Json))
    (e : Entity) : Prop where
  id : ∃ cells later, rows = (e.id :: cells) :: later
  tags : e.tags = tagsOfRows selection columns rows

/-- One more row of an entity is one more tag. -/
theorem OfOwnRows.addTag {e : Entity} (h : OfOwnRows selection columns rows e) (row : List Json) :
    OfOwnRows selection columns (rows ++ [row]) (e.addTag (tagOfRow columns row)) where
  id := by
    obtain ⟨cells, later, hrows⟩ := h.id
    exact ⟨cells, later ++ [row], by rw [hrows]; rfl⟩
  tags := by rw [tagsOfRows_append, ← h.tags]; rfl

/-- The first row of an entity. -/
theorem ofOwnRows_first (id : Json) (cells : List Json) :
    OfOwnRows selection columns [id :: cells]
      ((ofId selection id).addTag (tagOfRow columns (id :: cells))) where
  id := ⟨cells, [], rfl⟩
  tags := by
    unfold ofId addTag tagsOfRows
    split <;> rfl

/-- The entities are the groups of the rows: they are known by the texts of the rows, in the order
of first occurrences, and each is made by its own rows. -/
structure Grouped (selection : TagSelection) (columns : List String) (rows : List (List Json))
    (entities : List Entity) : Prop where
  keys : entities.map key = (rows.filterMap rowKey?).eraseDups
  own : ∀ e ∈ entities, OfOwnRows selection columns (rowsWith e.key rows) e

namespace Grouped

theorem nil : Grouped selection columns [] [] where
  keys := rfl
  own := nofun

theorem mem_keys (h : Grouped selection columns rows entities) {text : String} :
    text ∈ entities.map key ↔ text ∈ rows.filterMap rowKey? := by
  rw [h.keys, List.mem_eraseDups]

/-- A row without cells is in no group. -/
theorem skip (h : Grouped selection columns rows entities) :
    Grouped selection columns (rows ++ [[]]) entities where
  keys := by
    have hrow : [([] : List Json)].filterMap rowKey? = [] := rfl
    rw [h.keys, List.filterMap_append, hrow, List.append_nil]
  own e he := by
    rw [rowsWith_append, rowsWith_nil_row, List.append_nil]
    exact h.own e he

/-- A row of an entity that is known already. -/
theorem extend (h : Grouped selection columns rows entities) {id : Json} (cells : List Json)
    (hknown : id.render ∈ rows.filterMap rowKey?) :
    Grouped selection columns (rows ++ [id :: cells]) (entities.map fun e =>
      if e.key == id.render then e.addTag (tagOfRow columns (id :: cells)) else e) where
  keys := by
    have hsame : ∀ e : Entity, (if e.key == id.render then
        e.addTag (tagOfRow columns (id :: cells)) else e).key = e.key := fun e => by
      split <;> rfl
    have hrow : [id :: cells].filterMap rowKey? = [id.render] := rfl
    rw [List.map_map, List.filterMap_append, hrow, eraseDups_concat, if_pos hknown, ← h.keys]
    exact List.map_congr_left fun e _ => hsame e
  own := by
    rintro e' he'
    obtain ⟨e, he, rfl⟩ := List.mem_map.mp he'
    by_cases hkey : e.key = id.render
    · rw [if_pos (beq_iff_eq.mpr hkey), key_addTag, rowsWith_append, rowsWith_cons_row,
        if_pos hkey.symm]
      exact (h.own e he).addTag _
    · rw [if_neg (by simpa using hkey), rowsWith_append, rowsWith_cons_row,
        if_neg (Ne.symm hkey), List.append_nil]
      exact h.own e he

/-- The first row of an entity. -/
theorem concat (h : Grouped selection columns rows entities) {id : Json} (cells : List Json)
    (hnew : id.render ∉ rows.filterMap rowKey?) :
    Grouped selection columns (rows ++ [id :: cells])
      (entities ++ [(ofId selection id).addTag (tagOfRow columns (id :: cells))]) where
  keys := by
    have hrow : [id :: cells].filterMap rowKey? = [id.render] := rfl
    rw [List.map_append, List.filterMap_append, hrow, eraseDups_concat, if_neg hnew, ← h.keys]
    rfl
  own := by
    intro e he
    rw [rowsWith_append, rowsWith_cons_row]
    rcases List.mem_append.mp he with hold | hlast
    · have hother : id.render ≠ e.key := fun heq =>
        hnew (h.mem_keys.mp (heq ▸ List.mem_map_of_mem hold))
      rw [if_neg hother, List.append_nil]
      exact h.own e hold
    · rw [List.mem_singleton.mp hlast]
      have hnone : rowsWith id.render rows = [] := by
        refine List.filter_eq_nil_iff.mpr fun row hrow heq => hnew ?_
        exact List.mem_filterMap.mpr ⟨row, hrow, beq_iff_eq.mp heq⟩
      have hkey : ((ofId selection id).addTag (tagOfRow columns (id :: cells))).key = id.render :=
        rfl
      rw [hkey, hnone, if_pos rfl]
      exact ofOwnRows_first id cells

/-- One more row keeps the entities grouped. -/
theorem addRow (h : Grouped selection columns rows entities) (row : List Json) :
    Grouped selection columns (rows ++ [row]) (addRow selection columns entities row) := by
  cases row with
  | nil => exact h.skip
  | cons id cells =>
      have hknown : (entities.any fun e => e.key == id.render) ↔
          id.render ∈ rows.filterMap rowKey? := any_key_iff.trans h.mem_keys
      simp only [Entity.addRow]
      split
      case isTrue hany => exact h.extend cells (hknown.mp hany)
      case isFalse hany => exact h.concat cells (mt hknown.mpr hany)

theorem nodup_keys (h : Grouped selection columns rows entities) : (entities.map key).Nodup := by
  rw [h.keys]
  exact nodup_eraseDups _

/-- Every row that has cells belongs to one entity. -/
theorem existsUnique (h : Grouped selection columns rows entities) {row : List Json}
    (hrow : row ∈ rows) (hcells : row ≠ []) :
    ∃! e, e ∈ entities ∧ rowKey? row = some e.key := by
  obtain ⟨id, cells, rfl⟩ := List.exists_cons_of_ne_nil hcells
  obtain ⟨e, he, hkey⟩ :=
    List.mem_map.mp (h.mem_keys.mpr (List.mem_filterMap.mpr ⟨_, hrow, rfl⟩))
  refine ⟨e, ⟨he, congrArg some hkey.symm⟩, ?_⟩
  rintro e' ⟨he', hkey'⟩
  exact List.inj_on_of_nodup_map h.nodup_keys he' he
    ((Option.some.inj hkey').symm.trans hkey.symm)

/-- Every entity is that of a row. -/
theorem exists_row (h : Grouped selection columns rows entities) {e : Entity} (he : e ∈ entities) :
    ∃ row ∈ rows, row.head? = some e.id := by
  obtain ⟨cells, later, hrows⟩ := (h.own e he).id
  have hrow : e.id :: cells ∈ rowsWith e.key rows := hrows ▸ List.mem_cons_self
  exact ⟨_, (List.mem_filter.mp hrow).1, rfl⟩

end Grouped

/-- The entities of rows are the groups of the rows. -/
theorem grouped_ofRows (selection : TagSelection) (columns : List String)
    (rows : List (List Json)) :
    Grouped selection columns rows (ofRows selection columns rows) := by
  induction rows using List.reverseRecOn with
  | nil => exact .nil
  | append_singleton rows row ih =>
      rw [ofRows_eq_foldl] at ih ⊢
      rw [List.foldl_concat]
      exact ih.addRow row

/-- The entities of rows are in the order of the first rows with their texts, and no text occurs
twice.  Every row that has cells belongs to exactly one entity.  An entity is told by the first
cell of its first row, and it has its rows as tags, all of them and in their order, or no tags if
none are asked for. -/
theorem ofRows_groups_stably (selection : TagSelection) (columns : List String)
    (rows : List (List Json)) :
    (ofRows selection columns rows).map key = (rows.filterMap rowKey?).eraseDups ∧
    ((ofRows selection columns rows).map key).Nodup ∧
    (∀ row ∈ rows, row ≠ [] →
      ∃! e, e ∈ ofRows selection columns rows ∧ rowKey? row = some e.key) ∧
    ∀ e ∈ ofRows selection columns rows,
      (∃ cells later, rowsWith e.key rows = (e.id :: cells) :: later) ∧
      e.tags = if selection.includesTags then some ((rowsWith e.key rows).map (tagOfRow columns))
        else none := by
  have h := grouped_ofRows selection columns rows
  exact ⟨h.keys, h.nodup_keys, fun _ hrow hcells => h.existsUnique hrow hcells,
    fun e he => ⟨(h.own e he).id, (h.own e he).tags⟩⟩

/-- The tag of a row has a member for each of the columns that the row has a cell for, in the order
in which their names come first.  Of cells with one name the last one counts; cells behind the last
column are left out, and so are columns behind the last cell. -/
theorem tagOfRow_members (columns : List String) (row : List Json) :
    ∃ members, tagOfRow columns row = .obj members ∧
      members.map Prod.fst = (columns.take row.length).eraseDups ∧
      ∀ name, (tagOfRow columns row).get? name = (columns.zip row).reverse.lookup name := by
  obtain ⟨members, hmembers, hnames⟩ := Json.exists_ofMembers (columns.zip row)
  refine ⟨members, hmembers, ?_, Json.get?_ofMembers _⟩
  rw [hnames, List.zip_eq_zip_take_min, List.map_fst_zip (by simp), Nat.min_comm,
    ← List.take_eq_take_min]

example : tagOfRow ["id", "name", "id"] [.int 1, .null, .int 2, .int 3] =
    .obj [("id", .int 2), ("name", .null)] := rfl

end Entity

end EntityFilter
