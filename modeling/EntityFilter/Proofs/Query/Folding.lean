import EntityFilter.Proofs.Query.Projection

/-!
# Names of columns in any case

The names of columns stand in a statement without quotes, and a database folds the letters of such
a name to lower case.  A list of columns is accepted if no name is listed twice as it is written,
so two of its names may still be the same for the database, or be the name `id` of the entity.

The statement selects from two tables of its own making, `root` and `a`.  **The columns of both
have different names for the database exactly if the listed names stay different when folded, and
none of them becomes `id`** (`Query.apart_iff_of_compile`).  Then all that the statement reads of
the two tables stands for one column of them.  `Query.ambiguous_in_other_case` is a list that is
accepted and does not have this.
-/

namespace EntityFilter

open Sql (Select)

namespace Sql

/-- The name that an identifier without quotes stands for. -/
def folded (name : String) : String :=
  String.ofList (name.toList.map Char.toLower)

/-- The names are different for the database. -/
def Apart (names : List String) : Prop :=
  (names.map folded).Nodup

instance (names : List String) : Decidable (Apart names) :=
  inferInstanceAs (Decidable (List.Nodup _))

/-- `name` stands for exactly one of the columns `names`. -/
def DenotesOne (names : List String) (name : String) : Prop :=
  ∃! i : Fin names.length, folded (names.get i) = folded name

theorem Apart.denotesOne {names : List String} (h : Apart names) {name : String}
    (hname : name ∈ names) : DenotesOne names name := by
  obtain ⟨i, rfl⟩ := List.mem_iff_get.mp hname
  refine ⟨i, rfl, fun j hj => ?_⟩
  have hget : ∀ k : Fin names.length, folded (names.get k) =
      (names.map folded).get (k.cast (List.length_map folded).symm) := fun k => by
    simp
  rw [hget, hget] at hj
  exact Fin.cast_injective _ (List.nodup_iff_injective_get.mp h hj)

theorem apart_cons {name : String} {names : List String} :
    Apart (name :: names) ↔ names.Pairwise (fun m n => folded m ≠ folded n) ∧
      ∀ n ∈ names, folded n ≠ folded name := by
  rw [Apart, List.map_cons, List.nodup_cons, List.Nodup, List.pairwise_map, List.mem_map]
  refine and_comm.trans (and_congr_right fun _ => ?_)
  simp only [not_exists, not_and, ne_eq]

/-- Fewer names stay different. -/
theorem Apart.sublist {names fewer : List String} (h : Apart names) (hfewer : fewer.Sublist names) :
    Apart fewer :=
  (hfewer.map folded).nodup h

end Sql

namespace Query

open Sql (Apart DenotesOne folded)

section Compiled

variable {compiler : QueryCompiler} {q : Query} {c : CompiledQuery}

/-- **The columns of the tables `root` and `a` have different names for the database exactly if the
listed names stay different when folded, and none of them becomes `id`.**  Then whatever the
statement reads of `root` and of `a` stands for one column there; it reads the number of the entity
and all columns that are shown of both, and of `a` also the number of the tag. -/
theorem apart_iff_of_compile (h : compile compiler q = .ok c) :
    let names := compiler.columns.names
    let shown := if q.tags = [] then [] else names
    ∃ outer root a : Select, Select.ofText? c.sql = some outer ∧
      outer.ReadsFrom root ∧ root.names = "id" :: shown ∧ "id" :: shown ⊆ outer.reads ∧
      root.ReadsFrom a ∧ a.names = "id" :: names ∧ "id" :: "tag_id" :: shown ⊆ root.reads ∧
      (Apart a.names ∧ Apart root.names ↔
        names.Pairwise (fun m n => folded m ≠ folded n) ∧ ∀ n ∈ names, folded n ≠ "id") ∧
      (Apart a.names → (∀ n ∈ root.reads, DenotesOne a.names n) ∧
        ∀ n ∈ outer.reads, DenotesOne root.names n) := by
  intro names shown
  obtain ⟨outer, root, a, hsql, -, hrootColumns, haColumns, hroot, houter, ha, hreads⟩ :=
    exists_levels h
  have hrootNames : root.names = "id" :: shown := Select.names_of_columns hrootColumns
  have haNames : a.names = "id" :: names := Select.names_of_columns haColumns
  have hsublist : root.names.Sublist a.names := by
    have hshown := shown_sublist names (.ofRequested q.tags)
    rw [Query.shown, TagSelection.ite_includesTags] at hshown
    rw [hrootNames, haNames]
    exact hshown.cons_cons "id"
  have hid : Apart a.names ↔ _ := haNames ▸ Sql.apart_cons
  refine ⟨outer, root, a, hsql, hroot, hrootNames, houter, ha, haNames, hreads, ?_,
    fun hapart => ?_⟩
  · rw [and_iff_left_of_imp fun hapart => hapart.sublist hsublist]
    exact hid
  · exact ⟨fun n hn => hapart.denotesOne (ha.reads hn), fun n hn =>
      (hapart.sublist hsublist).denotesOne (hroot.reads hn)⟩

end Compiled

set_option maxRecDepth 8000 in
/-- The names of the columns stay different, although one of them has capital letters. -/
theorem apart_in_own_case :
    let compiler : QueryCompiler := ⟨{}, ⟨["Value_S", "tag_id"], rfl⟩, rfl⟩
    ∃ c, compile compiler { filter := "site", tags := ["dis"] } = .ok c ∧
      ∃ outer root a : Select, Select.ofText? c.sql = some outer ∧
        outer.ReadsFrom root ∧ root.ReadsFrom a ∧
        Apart a.names ∧ Apart root.names ∧ a.names = ["id", "Value_S", "tag_id"] ∧
        (∀ n ∈ ["id", "tag_id", "Value_S"], n ∈ root.reads ∧ DenotesOne a.names n) ∧
        ∀ n ∈ ["id", "Value_S"], n ∈ outer.reads ∧ DenotesOne root.names n := by
  intro compiler
  have hparse : parse "site" = .ok (.has ⟨["site"]⟩) := by cbv
  obtain ⟨c, hc⟩ : ∃ c, compile compiler { filter := "site", tags := ["dis"] } = .ok c :=
    ⟨_, compile_eq_ok_iff.mpr ⟨by decide, _, _, hparse, rfl, rfl⟩⟩
  obtain ⟨outer, root, a, hsql, hroot, -, houter, ha, hnames, hreads, hapart, hone⟩ :=
    apart_iff_of_compile hc
  obtain ⟨haApart, hrootApart⟩ := hapart.mpr (by decide)
  obtain ⟨hrootOne, houterOne⟩ := hone haApart
  have hrootReads : ["id", "tag_id", "Value_S"] ⊆ root.reads :=
    List.Subset.trans (by decide) hreads
  have houterReads : ["id", "Value_S"] ⊆ outer.reads := List.Subset.trans (by decide) houter
  exact ⟨c, hc, outer, root, a, hsql, hroot, ha, haApart, hrootApart, hnames,
    fun n hn => ⟨hrootReads hn, hrootOne n (hrootReads hn)⟩,
    fun n hn => ⟨houterReads hn, houterOne n (houterReads hn)⟩⟩

set_option maxRecDepth 8000 in
/-- A list is accepted that has the number of the tag in lower case and in capitals.  The table `a`
then has two columns of that name for the database, and the statement reads `a.tag_id`. -/
theorem ambiguous_in_other_case :
    ∃ columns compiler c, ValueColumns.ofNames ["tag_id", "TAG_ID"] = .ok columns ∧
      QueryCompiler.of {} columns = .ok compiler ∧ compile compiler { filter := "site" } = .ok c ∧
      ∃ outer root a : Select, Select.ofText? c.sql = some outer ∧
        outer.ReadsFrom root ∧ root.ReadsFrom a ∧ ¬ Apart a.names ∧
        "tag_id" ∈ root.reads ∧ ¬ DenotesOne a.names "tag_id" := by
  have hparse : parse "site" = .ok (.has ⟨["site"]⟩) := by cbv
  let columns : ValueColumns := ⟨["tag_id", "TAG_ID"], rfl⟩
  let compiler : QueryCompiler := ⟨{}, columns, rfl⟩
  obtain ⟨c, hc⟩ : ∃ c, compile compiler { filter := "site" } = .ok c :=
    ⟨_, compile_eq_ok_iff.mpr ⟨by decide, _, _, hparse, rfl, rfl⟩⟩
  obtain ⟨outer, root, a, hsql, -, -, hcolumns, hroot, -, ha, hreads⟩ := exists_levels hc
  have hnames : a.names = ["id", "tag_id", "TAG_ID"] := Select.names_of_columns hcolumns
  refine ⟨columns, compiler, c, rfl, rfl, hc, outer, root, a, hsql, hroot, ha, ?_,
    hreads (by simp), ?_⟩
  · rw [hnames]
    decide
  · rw [hnames]
    rintro ⟨i, -, honly⟩
    have hlower := honly (1 : Fin 3) (by decide)
    have hcapital := honly (2 : Fin 3) (by decide)
    rw [← hcapital] at hlower
    exact absurd hlower (by decide)

end Query

end EntityFilter
