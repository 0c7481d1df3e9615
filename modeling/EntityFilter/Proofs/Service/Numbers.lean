import Mathlib
import EntityFilter.Proofs.Query.Outline
import EntityFilter.Proofs.Service.Access
import EntityFilter.Proofs.Service.Grouping
import EntityFilter.Proofs.Text.Characters

/-!
# The numbers of the entities that match

Entities are told apart by the texts of their first cells, but what is asked for them next is asked
by number.  The two agree because a text is the text of at most one integer and of nothing else
(`Json.render_eq_integer_iff`): a text tells the number (`Entity.numberOf?`), and two texts never
tell the same one.

**The numbers are the first occurrences in the rows** (`Service.matchingIds_first_occurrences`).
Each integer of 64 bits that is the first cell of a row is a number, no number occurs twice, and the
answer to a request without tags has the same numbers in the same order.
-/

namespace EntityFilter

open Session (Runs)

/-! ### Texts of integers -/

/-- A numeral denotes the integer that it was written for. -/
theorem Text.integer?_integer (n : Int) : integer? (integer n).toList = some n := by
  have hdigits : ∀ m : Nat, ∀ c ∈ Nat.toDigits 10 m, c.isDigit := fun m c => isDigit_of_mem_toDigits
  have hnatural : ∀ m : Nat, natural? (Nat.toDigits 10 m) = some m := fun m => by
    rw [natural?_of_digits Nat.toDigits_ne_nil (hdigits m), digitsValue_toDigits]
  cases n with
  | ofNat m =>
      rw [integer, natural, String.toList_ofList, integer?_of_digits (hdigits m), hnatural]
      rfl
  | negSucc m =>
      have htext : (integer (.negSucc m)).toList = '-' :: Nat.toDigits 10 (m + 1) := by
        simp [integer, natural]
      rw [htext, integer?, hnatural]
      rfl

theorem Text.integer_injective {m n : Int} (h : integer m = integer n) : m = n := by
  have hm := integer?_integer m
  rw [h, integer?_integer] at hm
  exact (Option.some.inj hm).symm

theorem Decimal.point_mem_plain {d : Decimal} (h : d.split.2.isEmpty = false) :
    '.' ∈ d.plain.toList := by
  obtain ⟨whole, fraction, hsplit⟩ : ∃ whole fraction, d.split = (whole, fraction) := ⟨_, _, rfl⟩
  rw [hsplit] at h
  cases fraction with
  | nil => cases h
  | cons c rest => simp [plain, hsplit]

theorem Decimal.exponent_mem_scientific (d : Decimal) : 'e' ∈ d.scientific.toList := by
  simp [scientific]

namespace Json

/-- A number that is not an integer is written with a point or an exponent. -/
theorem exists_mark_floatText (a : Binary) : ∃ c ∈ (floatText a).toList, c = '.' ∨ c = 'e' := by
  -- the sign adds to the text, so the mark is sought behind it
  have hsign : ∀ magnitude : String, (∃ c ∈ magnitude.toList, c = '.' ∨ c = 'e') →
      ∃ c ∈ (if a.negative then "-" ++ magnitude else magnitude).toList, c = '.' ∨ c = 'e' := by
    rintro magnitude ⟨c, hc, hmark⟩
    refine ⟨c, ?_, hmark⟩
    split
    case isTrue => exact String.toList_append ▸ List.mem_append_right _ hc
    case isFalse => exact hc
  apply hsign
  split
  · exact ⟨'.', by decide, .inl rfl⟩
  · split
    · split
      · exact ⟨'.', by simp, .inl rfl⟩
      · exact ⟨'.', Decimal.point_mem_plain (by simp_all), .inl rfl⟩
    · exact ⟨'e', Decimal.exponent_mem_scientific _, .inr rfl⟩

/-- A text of digits and signs is the text of an integer only. -/
theorem exists_int_of_render {v : Json} (h : ∀ c ∈ v.render.toList, c.isDigit || c == '-') :
    ∃ n, v = .int n := by
  cases v with
  | int n => exact ⟨n, rfl⟩
  | null => simp [render] at h
  | bool b => cases b <;> simp [render] at h
  | float a =>
      obtain ⟨c, hc, rfl | rfl⟩ := exists_mark_floatText a
      · exact absurd (h _ hc) (by decide)
      · exact absurd (h _ hc) (by decide)
  | str text => simp [render, quote] at h
  | arr items => simp [render] at h
  | obj members => simp [render] at h

theorem render_eq_integer_iff {v : Json} {n : Int} : v.render = Text.integer n ↔ v = .int n := by
  constructor
  · intro h
    obtain ⟨m, rfl⟩ := exists_int_of_render (v := v) (h ▸ Sql.char_integer n)
    rw [render] at h
    rw [Text.integer_injective h]
  · rintro rfl
    rw [render]

/-- The integer of 64 bits that a value is. -/
def int64? : Json → Option Int
  | int n => if Text.isInt64 n then some n else none
  | _     => none

end Json

/-! ### First occurrences -/

/-- First occurrences are kept by a partial map that takes no two elements to the same. -/
theorem filterMap_eraseDups {α β : Type} [DecidableEq α] [DecidableEq β] {f : α → Option β}
    (hf : ∀ a b c, f a = some c → f b = some c → a = b) (xs : List α) :
    xs.eraseDups.filterMap f = (xs.filterMap f).eraseDups := by
  induction xs using List.reverseRecOn with
  | nil => rfl
  | append_singleton xs x ih =>
      rw [eraseDups_concat, List.filterMap_append]
      cases hx : f x with
      | none => split <;> simp [hx, ih]
      | some y =>
          have hmem : y ∈ xs.filterMap f ↔ x ∈ xs := by
            rw [List.mem_filterMap]
            constructor
            · rintro ⟨x', hx', hy⟩
              exact hf x' x y hy hx ▸ hx'
            · exact fun h => ⟨x, h, hx⟩
          have hlast : [x].filterMap f = [y] := by simp [hx]
          rw [hlast, eraseDups_concat, if_congr hmem rfl rfl, ← ih]
          split <;> simp [hx]

/-! ### Numbers told by texts -/

theorem Entity.number?_eq (e : Entity) : e.number? = e.id.int64? := by
  obtain ⟨id, tags⟩ := e
  cases id <;> rfl

theorem Json.int64?_eq_some_iff {v : Json} {n : Int} :
    v.int64? = some n ↔ v = .int n ∧ Text.isInt64 n := by
  rw [← Entity.number?_eq ⟨v, none⟩, Entity.number?_eq_some_iff]

namespace Entity

/-- The number of the entity that is known by `key`. -/
def numberOf? (key : String) : Option Int :=
  (Text.int64? key.toList).filter fun n => Text.integer n == key

theorem numberOf?_eq_some_iff {key : String} {n : Int} :
    numberOf? key = some n ↔ key = Text.integer n ∧ Text.isInt64 n := by
  rw [numberOf?, Option.filter_eq_some_iff, Text.int64?, Option.filter_eq_some_iff]
  constructor
  · rintro ⟨⟨-, hrange⟩, hkey⟩
    exact ⟨(beq_iff_eq.mp hkey).symm, hrange⟩
  · rintro ⟨rfl, hrange⟩
    exact ⟨⟨Text.integer?_integer n, hrange⟩, beq_self_eq_true _⟩

/-- The text of an entity tells its number. -/
theorem numberOf?_key (e : Entity) : numberOf? e.key = e.number? := by
  ext n
  rw [numberOf?_eq_some_iff, number?_eq_some_iff, key, Json.render_eq_integer_iff]

/-- The number in the first cell of a row. -/
def rowNumber? (row : List Json) : Option Int :=
  row.head?.bind Json.int64?

theorem rowNumber?_eq_some_iff {row : List Json} {n : Int} :
    rowNumber? row = some n ↔ row.head? = some (.int n) ∧ Text.isInt64 n := by
  cases row with
  | nil => simp [rowNumber?]
  | cons id cells => simp [rowNumber?, Json.int64?_eq_some_iff]

theorem bind_rowKey? (row : List Json) : (rowKey? row).bind numberOf? = rowNumber? row := by
  cases row with
  | nil => rfl
  | cons id cells => exact (numberOf?_key ⟨id, none⟩).trans (number?_eq ⟨id, none⟩)

/-- The numbers of the entities are the first occurrences of numbers in the rows. -/
theorem filterMap_number?_ofRows (selection : TagSelection) (columns : List String)
    (rows : List (List Json)) :
    (ofRows selection columns rows).filterMap number? = (rows.filterMap rowNumber?).eraseDups := by
  have hinj : ∀ key key' n, numberOf? key = some n → numberOf? key' = some n → key = key' :=
    fun key key' n h h' =>
      (numberOf?_eq_some_iff.mp h).1.trans (numberOf?_eq_some_iff.mp h').1.symm
  calc (ofRows selection columns rows).filterMap number?
    _ = ((ofRows selection columns rows).map key).filterMap numberOf? := by
        rw [List.filterMap_map]
        exact List.filterMap_congr fun e _ => (numberOf?_key e).symm
    _ = (rows.filterMap rowKey?).eraseDups.filterMap numberOf? := by
        rw [(grouped_ofRows selection columns rows).keys]
    _ = ((rows.filterMap rowKey?).filterMap numberOf?).eraseDups := filterMap_eraseDups hinj _
    _ = (rows.filterMap rowNumber?).eraseDups := by
        rw [List.filterMap_filterMap, List.filterMap_congr fun row _ => bind_rowKey? row]

/-- The number of an entity, read off its answer. -/
def answerNumber? (answer : Json) : Option Int :=
  (answer.get? "entity_id").bind Json.int64?

theorem answerNumber?_toJson (e : Entity) : answerNumber? e.toJson = e.number? := by
  simp [answerNumber?, toJson, Json.get?, number?_eq]

end Entity

/-! ### Numbers that a service finds -/

/-- Whatever tags a request asks for, the numbers of the entities that match come from the rows of
the filter's statement.  They are the integers of 64 bits that are first cells, without duplicates
and in the order of their first rows; a cell that is missing, is something else or is a larger
integer is left out.  The answer to the request without tags lists the same numbers. -/
theorem Service.matchingIds_first_occurrences (s : Service) (userId : Int) (r : FilterRequest)
    (d : Database) {c : CompiledQuery} {t : Table} {rows : List (List Json)}
    (hcheck : r.untagged.check = .ok ())
    (hcompile : (s.query userId r.untagged).compile s.compiler = .ok c)
    (htells : d.Tells true) (hanswer : d.answerAt 1 = .ok t) (hrows : t.toJson? = some rows) :
    ∃ ids found ss os os',
      Runs (s.matchingIds userId r) d (.ok ids) ss os ∧
      Runs (s.filter userId r.untagged) d (.ok found) ss os' ∧
      ids = (rows.filterMap Entity.rowNumber?).eraseDups ∧
      ids.Nodup ∧
      (∀ n, n ∈ ids ↔ Text.isInt64 n ∧ ∃ row ∈ rows, row.head? = some (.int n)) ∧
      (found.map Entity.toJson).filterMap Entity.answerNumber? = ids := by
  have hfound : s.Matches userId r.orgId c d _ _ _ :=
    .found (Database.tells_iff.mp htells) hanswer hrows
  have hids := Entity.filterMap_number?_ofRows c.selection c.columns rows
  have hfilter := Service.Matches.runs_filter (r := r.untagged) hfound hcheck hcompile
  refine ⟨_, _, _, _, _, hfound.runs_ids hcheck hcompile, hfilter, hids, hids ▸ nodup_eraseDups _,
    fun n => ?_, ?_⟩
  · rw [hids, List.mem_eraseDups, List.mem_filterMap]
    simp only [Entity.rowNumber?_eq_some_iff]
    constructor
    · rintro ⟨row, hrow, hhead, hrange⟩
      exact ⟨hrange, row, hrow, hhead⟩
    · rintro ⟨hrange, row, hrow, hhead⟩
      exact ⟨row, hrow, hhead, hrange⟩
  · rw [List.filterMap_map]
    exact List.filterMap_congr fun e _ => Entity.answerNumber?_toJson e

set_option maxRecDepth 8000 in
/-- The decimal `5.0` repeats a number, and neither the text `5` nor an integer that is too large
is one. -/
theorem Service.matchingIds_of_mixed_cells :
    let s : Service := ⟨.standard, "public", by decide⟩
    let r : FilterRequest := ⟨"a", 1, some ["t"]⟩
    let d : Database := .replies [.table ⟨["exists"], [[.bool true]]⟩,
      .table ⟨["entity_id"], [[.int 8 5], [.text "5"], [.null], [.int 4 (-3)], [.numeric "5.0"],
        [.json "9223372036854775808"]]⟩]
    ∃ found ss os os', Runs (s.matchingIds 7 r) d (.ok [5, -3]) ss os ∧
      Runs (s.filter 7 r.untagged) d (.ok found) ss os' ∧
      (found.map Entity.toJson).filterMap Entity.answerNumber? = [5, -3] := by
  intro s r d
  have hparse : parse "a" = .ok (.has ⟨["a"]⟩) := by cbv
  obtain ⟨c, hcompile⟩ : ∃ c, (s.query 7 r.untagged).compile s.compiler = .ok c :=
    ⟨_, Query.compile_eq_ok_iff.mpr ⟨by decide, _, _, hparse, rfl, rfl⟩⟩
  have hcheck : r.untagged.check = .ok () := by cbv
  have hlarge : Json.read? "9223372036854775808" = some (.int 9223372036854775808) := by cbv
  have hrows : Table.toJson? ⟨["entity_id"], [[.int 8 5], [.text "5"], [.null], [.int 4 (-3)],
      [.numeric "5.0"], [.json "9223372036854775808"]]⟩ = some [[.int 5], [.str "5"], [.null],
        [.int (-3)], [.int 5], [.int 9223372036854775808]] := by
    simp only [Table.toJson?, List.mapM_cons, List.mapM_nil, Cell.toJson?, hlarge]
    rfl
  obtain ⟨ids, found, ss, os, os', hruns, hfilter, hids, -, -, hsame⟩ :=
    s.matchingIds_first_occurrences 7 r d hcheck hcompile ⟨_, _, _, rfl, rfl⟩ rfl hrows
  have hlist : ids = [5, -3] := hids.trans (by decide)
  exact ⟨found, ss, os, os', hlist ▸ hruns, hfilter, hlist ▸ hsame⟩

end EntityFilter
