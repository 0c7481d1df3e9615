import EntityFilter.Proofs.Query.Projection
import EntityFilter.Proofs.Service.Grouping

/-!
# The columns of a query

The columns of a query occur in several places: in the list that is accepted, at each level of the
statement, in what a compiled query tells of its result, and in the tags that are made of its rows.
**They agree** (`Query.columns_agree`).  A name that was listed twice, or one list in another order
than the next, would lose cells or give them to other columns, since a member of an object that is
set twice has the last value.
-/

namespace EntityFilter

namespace Json

/-- Members with different names are all members of the object, in their order. -/
theorem ofMembers_of_nodup {members : List (String × Json)} (h : (members.map Prod.fst).Nodup) :
    ofMembers members = .obj members := by
  have hset : members.foldl (fun set m => insert set m.1 m.2) [] = members := by
    induction members using List.reverseRecOn with
    | nil => rfl
    | append_singleton members m ih =>
        rw [List.map_append, List.nodup_append] at h
        rw [List.foldl_concat, ih h.1]
        exact insert_of_notMem (fun hmem => h.2.2 _ hmem _ (by simp) rfl) m.2
  rw [ofMembers, hset]

end Json

/-- A tag has the cells of its row by the names of the columns, one each. -/
theorem Entity.tagOfRow_eq {columns : List String} (hcolumns : columns.Nodup) {row : List Json}
    (hwidth : row.length = columns.length) :
    ∃ members, tagOfRow columns row = .obj members ∧ members.map Prod.fst = columns ∧
      members.map Prod.snd = row := by
  have hnames : (columns.zip row).map Prod.fst = columns := List.map_fst_zip (by omega)
  have hcells : (columns.zip row).map Prod.snd = row := List.map_snd_zip (by omega)
  exact ⟨_, Json.ofMembers_of_nodup (by rwa [hnames]), hnames, hcells⟩

namespace Query

open Sql (Select SelectedColumn)

section Compiled

variable {compiler : QueryCompiler} {q : Query} {c : CompiledQuery}

theorem selection_of_compile (h : compile compiler q = .ok c) :
    c.selection = .ofRequested q.tags := by
  obtain ⟨-, e, f, -, -, rfl⟩ := compile_eq_ok_iff.mp h
  rfl

theorem columns_of_compile (h : compile compiler q = .ok c) :
    c.columns = "entity_id" :: if q.tags = [] then [] else compiler.columns.names := by
  obtain ⟨-, e, f, -, -, rfl⟩ := compile_eq_ok_iff.mp h
  exact congrArg _ (TagSelection.ite_includesTags q.tags _ _)

theorem nodup_columns_of_compile (h : compile compiler q = .ok c) : c.columns.Nodup := by
  obtain ⟨-, e, f, -, -, rfl⟩ := compile_eq_ok_iff.mp h
  exact nodup_shown compiler.columns _ (.inr rfl)

/-- **Columns that are declared, selected and made into tags agree.**  The columns of a compiled
query are pairwise different: the number of the entity, and the columns of tags if tags are asked
for.  They are the columns of the statement, in their order.  The statement has three levels, and
each reads columns of the next one; the innermost one always has the number of the tag.

Of rows that have a cell for each column, every row belongs to one entity.  If tags are asked for,
it is a tag of it, and has its cells by the names of the columns, in their order. -/
theorem columns_agree (h : compile compiler q = .ok c) :
    let shown := if q.tags = [] then [] else compiler.columns.names
    c.columns = "entity_id" :: shown ∧ c.columns.Nodup ∧
    (∃ outer middle inner : Select, Select.ofText? c.sql = some outer ∧ outer.names = c.columns ∧
      outer.columns = ⟨"root", "id", "entity_id"⟩ :: shown.map (.of "root") ∧
      middle.columns = .of "a" "id" :: shown.map (.of "a") ∧
      inner.columns = ⟨"et", "entity_id", "id"⟩ :: compiler.columns.names.map (.of "et") ∧
      outer.ReadsFrom middle ∧ middle.ReadsFrom inner ∧
      "tag_id" ∈ middle.reads ∧ "tag_id" ∈ inner.names) ∧
    ∀ rows : List (List Json), (∀ row ∈ rows, row.length = c.columns.length) →
      let entities := Entity.ofRows c.selection c.columns rows
      (∀ row ∈ rows, ∃! e, e ∈ entities ∧ Entity.rowKey? row = some e.key) ∧
      (∀ e ∈ entities, e.tags = if q.tags = [] then none else
        some ((Entity.rowsWith e.key rows).map (Entity.tagOfRow c.columns))) ∧
      ∀ row ∈ rows, ∃ members, Entity.tagOfRow c.columns row = .obj members ∧
        members.map Prod.fst = c.columns ∧ members.map Prod.snd = row := by
  intro shown
  obtain ⟨outer, middle, inner, hsql, houter, hmiddle, hinner, hfrom, -, hfrom', hreads⟩ :=
    exists_levels h
  have htag : "tag_id" ∈ middle.reads := hreads (by simp)
  have hcolumns : c.columns = "entity_id" :: shown := columns_of_compile h
  have hnodup : c.columns.Nodup := nodup_columns_of_compile h
  have hnames : outer.names = c.columns := by
    rw [hcolumns]
    exact Select.names_of_columns houter
  refine ⟨hcolumns, hnodup, ⟨outer, middle, inner, hsql, hnames, houter, hmiddle, hinner, hfrom,
    hfrom', htag, hfrom'.reads htag⟩, fun rows hrows => ?_⟩
  have hgrouped := Entity.grouped_ofRows c.selection c.columns rows
  refine ⟨fun row hrow => hgrouped.existsUnique hrow ?_, fun e he => ?_, fun row hrow =>
    Entity.tagOfRow_eq hnodup (hrows row hrow)⟩
  · have hwidth := hrows row hrow
    rw [hcolumns] at hwidth
    exact List.ne_nil_of_length_eq_add_one hwidth
  · have htags := (hgrouped.own e he).tags
    rwa [Entity.tagsOfRows, selection_of_compile h, TagSelection.ite_includesTags] at htags

end Compiled

set_option maxRecDepth 8000 in
/-- Two tags of an entity, with the number of the tag behind its value. -/
theorem columns_agree_for_two_tags :
    let compiler : QueryCompiler := ⟨{}, ⟨["value_s", "tag_id"], rfl⟩, rfl⟩
    let q : Query := { filter := "siteRef->dis == \"a\"", tags := ["*"] }
    let rows : List (List Json) := [[.int 7, .str "a", .int 1], [.int 7, .null, .int 2]]
    ∃ c, compile compiler q = .ok c ∧ c.columns = ["entity_id", "value_s", "tag_id"] ∧
      (∃ outer middle inner : Select, Select.ofText? c.sql = some outer ∧
        outer.names = ["entity_id", "value_s", "tag_id"] ∧
        outer.ReadsFrom middle ∧ middle.ReadsFrom inner) ∧
      (∀ row ∈ rows, row.length = c.columns.length) ∧
      ∀ row ∈ rows, (∃! e, e ∈ Entity.ofRows c.selection c.columns rows ∧
          Entity.rowKey? row = some e.key) ∧
        ∃ members, Entity.tagOfRow c.columns row = .obj members ∧
          members.map Prod.fst = ["entity_id", "value_s", "tag_id"] ∧
          members.map Prod.snd = row := by
  intro compiler q rows
  have hparse : parse q.filter = .ok (.compare ⟨["siteRef", "dis"]⟩ .eq (.str "a")) := by cbv
  obtain ⟨c, hc⟩ : ∃ c, compile compiler q = .ok c :=
    ⟨_, compile_eq_ok_iff.mpr ⟨by decide, _, _, hparse, rfl, rfl⟩⟩
  obtain ⟨hcolumns, -, ⟨outer, middle, inner, hsql, hnames, -, -, -, hfrom, hfrom', -, -⟩, hrows⟩ :=
    columns_agree hc
  have hthree : c.columns = ["entity_id", "value_s", "tag_id"] := hcolumns
  have hwidth : ∀ row ∈ rows, row.length = c.columns.length := by simp [rows, hthree]
  obtain ⟨hentities, -, htags⟩ := hrows rows hwidth
  rw [← hthree]
  exact ⟨c, hc, rfl, ⟨outer, middle, inner, hsql, hnames, hfrom, hfrom'⟩, hwidth,
    fun row hrow => ⟨hentities row hrow, htags row hrow⟩⟩

end Query

end EntityFilter
