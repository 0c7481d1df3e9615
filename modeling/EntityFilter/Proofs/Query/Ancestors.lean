import EntityFilter.Proofs.Query.Meaning

/-!
# Ancestors between commas

The ancestors of a tag stand in one text, between commas, and whether a name is among them is asked
with a pattern.  Names have no commas, so **the text is like `%,name,%` exactly if the name is one
of the ancestors** (`Sql.like_listed_iff`), and the kinds that a tag is found to have are those that
its ancestors mark (`ValueKind.eval_eq_yes_iff`).
-/

namespace EntityFilter

/-! ### Truth -/

namespace Truth

@[simp]
theorem ofProp_eq_yes {p : Prop} [Decidable p] : ofProp p = yes ↔ p := by
  simp [ofProp]

theorem ofProp_ne_unknown {p : Prop} [Decidable p] : ofProp p ≠ unknown := by
  rw [ofProp]
  split <;> simp

@[simp]
theorem and_eq_yes {s t : Truth} : s.and t = yes ↔ s = yes ∧ t = yes := by
  cases s <;> cases t <;> simp [and]

@[simp]
theorem or_eq_yes {s t : Truth} : s.or t = yes ↔ s = yes ∨ t = yes := by
  cases s <;> cases t <;> simp [or]

theorem all_cons (t : Truth) (ts : List Truth) : all (t :: ts) = t.and (all ts) := rfl

theorem any_cons (t : Truth) (ts : List Truth) : any (t :: ts) = t.or (any ts) := rfl

@[simp]
theorem any_eq_yes {ts : List Truth} : any ts = yes ↔ yes ∈ ts := by
  induction ts with
  | nil => simp [any]
  | cons t ts ih => rw [any_cons, or_eq_yes, ih, List.mem_cons, eq_comm]

theorem any_ne_unknown {ts : List Truth} (h : unknown ∉ ts) : any ts ≠ unknown := by
  induction ts with
  | nil => simp [any]
  | cons t ts ih =>
      obtain ⟨ht, hts⟩ := List.ne_and_not_mem_of_not_mem_cons h
      have := ih hts
      rw [any_cons]
      cases t <;> cases hany : any ts <;> simp_all [or]

/-- What is not unknown is refuted by not holding. -/
theorem not_eq_yes {t : Truth} (h : t ≠ unknown) : t.not = yes ↔ t ≠ yes := by
  cases t <;> simp_all [not]

theorem isIn_eq_yes {value : Option Int} {others : List Int} :
    isIn value others = yes ↔ ∃ n ∈ others, value = some n := by
  cases value with
  | none => simp [isIn]
  | some n => simp [isIn]

theorem isIn_some_ne_unknown (n : Int) (others : List Int) : isIn (some n) others ≠ unknown :=
  any_ne_unknown fun h => by
    obtain ⟨other, -, hother⟩ := List.mem_map.mp h
    exact ofProp_ne_unknown hother

end Truth

/-! ### Patterns -/

namespace Sql

/-- A character that stands for itself in a pattern. -/
def IsPlain (c : Char) : Prop :=
  c ≠ '%' ∧ c ≠ '_' ∧ c ≠ '\\'

instance (c : Char) : Decidable (IsPlain c) :=
  inferInstanceAs (Decidable (_ ∧ _))

theorem like_percent (pattern text : List Char) :
    like ('%' :: pattern) text ↔ ∃ rest, rest <:+ text ∧ like pattern rest := by
  have hplain : ∀ (c : Char) (p : List Char), '%' = '\\' → pattern = c :: p → False :=
    fun _ _ h => absurd h (by decide)
  cases text with
  | nil =>
      rw [like]
      · simp
      · exact hplain
  | cons d rest =>
      rw [like]
      · simp only [if_true, List.any_eq_true, List.mem_tails]
      · exact hplain

theorem like_plain_cons {c : Char} (hc : IsPlain c) (pattern text : List Char) :
    like (c :: pattern) text ↔ ∃ rest, text = c :: rest ∧ like pattern rest := by
  obtain ⟨hpercent, hunderscore, hescape⟩ := hc
  cases text with
  | nil =>
      rw [like]
      · simp [hpercent]
      · exact fun _ _ h => absurd h hescape
  | cons d rest =>
      rw [like]
      · simp [hpercent, hunderscore]
      · exact fun _ _ h => absurd h hescape

theorem like_plain_append {word : List Char} (h : ∀ c ∈ word, IsPlain c)
    (pattern text : List Char) :
    like (word ++ pattern) text ↔ ∃ rest, text = word ++ rest ∧ like pattern rest := by
  induction word generalizing text with
  | nil => simp
  | cons c word ih =>
      obtain ⟨hc, hword⟩ := List.forall_mem_cons.mp h
      rw [List.cons_append, like_plain_cons hc]
      constructor
      · rintro ⟨rest, rfl, hrest⟩
        obtain ⟨last, rfl, hlast⟩ := (ih hword rest).mp hrest
        exact ⟨last, rfl, hlast⟩
      · rintro ⟨last, rfl, hlast⟩
        exact ⟨word ++ last, rfl, (ih hword _).mpr ⟨last, rfl, hlast⟩⟩

/-- A word between percent signs may stand anywhere. -/
theorem like_anywhere_iff {word : List Char} (h : ∀ c ∈ word, IsPlain c) (text : List Char) :
    like ('%' :: (word ++ ['%'])) text ↔ word <:+: text := by
  have hend : ∀ rest, like ['%'] rest := fun rest =>
    (like_percent _ _).mpr ⟨[], List.nil_suffix, rfl⟩
  simp only [like_percent, like_plain_append h, hend, and_true, List.infix_iff_prefix_suffix]
  constructor
  · rintro ⟨rest, hrest, last, rfl⟩
    exact ⟨_, List.prefix_append word last, hrest⟩
  · rintro ⟨rest, ⟨last, hlast⟩, hrest⟩
    exact ⟨rest, hrest, last, hlast.symm⟩

/-! ### Names between commas -/

/-- Names with a comma in front of the first and behind each. -/
def listed (names : List (List Char)) : List Char :=
  ',' :: names.flatMap (· ++ [','])

theorem prefix_name_iff {word name rest : List Char} (hword : ',' ∉ word) (hname : ',' ∉ name) :
    word ++ [','] <+: name ++ ',' :: rest ↔ word = name := by
  induction word generalizing name with
  | nil =>
      cases name with
      | nil => simp
      | cons d name => simp [eq_comm, (List.ne_of_not_mem_cons hname).symm]
  | cons c word ih =>
      obtain ⟨hc, hword⟩ := List.ne_and_not_mem_of_not_mem_cons hword
      cases name with
      | nil => simp [hc.symm]
      | cons d name =>
          obtain ⟨-, hname⟩ := List.ne_and_not_mem_of_not_mem_cons hname
          simp [ih hword hname]

theorem infix_append_iff {c : Char} {word name rest : List Char} (h : c ∉ name) :
    c :: word <:+: name ++ rest ↔ c :: word <:+: rest := by
  induction name with
  | nil => rfl
  | cons d name ih =>
      obtain ⟨hd, hname⟩ := List.ne_and_not_mem_of_not_mem_cons h
      rw [List.cons_append, List.infix_cons_iff, ih hname]
      simp [hd]

/-- A name stands between commas exactly if it is listed. -/
theorem infix_listed_iff {word : List Char} {names : List (List Char)} (hword : ',' ∉ word)
    (hnames : ∀ name ∈ names, ',' ∉ name) :
    ',' :: (word ++ [',']) <:+: listed names ↔ word ∈ names := by
  induction names with
  | nil =>
      refine iff_of_false (fun h => ?_) List.not_mem_nil
      simpa [listed] using h.length_le
  | cons name names ih =>
      obtain ⟨hname, hnames⟩ := List.forall_mem_cons.mp hnames
      have hlisted : listed (name :: names) = ',' :: (name ++ listed names) := by simp [listed]
      rw [hlisted, List.infix_cons_iff, infix_append_iff hname, ih hnames, List.cons_prefix_cons,
        List.mem_cons, listed, prefix_name_iff hword hname]
      simp

/-- **The list is like `%,name,%` exactly if the name is listed.** -/
theorem like_listed_iff {name : String} {names : List String}
    (hplain : ∀ c ∈ name.toList, IsPlain c) (hname : ',' ∉ name.toList)
    (hnames : ∀ n ∈ names, ',' ∉ n.toList) :
    like s!"%,{name},%".toList (listed (names.map String.toList)) ↔ name ∈ names := by
  have hword : ∀ c ∈ ',' :: (name.toList ++ [',']), IsPlain c := by
    have hcomma : IsPlain ',' := by decide
    simp only [List.mem_cons, List.mem_append, List.not_mem_nil, or_false]
    rintro c (rfl | hc | rfl)
    · exact hcomma
    · exact hplain c hc
    · exact hcomma
  have hpattern : s!"%,{name},%".toList = '%' :: (',' :: (name.toList ++ [',']) ++ ['%']) := by
    simp [toString]
  rw [hpattern, like_anywhere_iff hword, infix_listed_iff hname (by simpa using hnames),
    List.mem_map_of_injective fun _ _ => String.toList_injective]

theorem listed_eq_intercalate {names : List (List Char)} (h : names ≠ []) :
    listed names = ',' :: ([','].intercalate names ++ [',']) := by
  rw [listed]
  induction names with
  | nil => exact absurd rfl h
  | cons name names ih =>
      cases names with
      | nil => simp
      | cons next names => simpa [List.intercalate] using ih (by simp)

end Sql

variable {D : Dialect}

namespace TagStore

theorem parentId_eq (db : TagStore D) (tag : String) :
    db.parentId tag = if db.ancestors tag = [] then none
      else some (String.ofList (Sql.listed ((db.ancestors tag).map String.toList))) := by
  rw [parentId]
  split
  · rename_i h
    rw [if_pos h]
  · rename_i h
    rw [if_neg h, Sql.listed_eq_intercalate (by simpa using h)]
    congr 1
    apply String.toList_injective
    simp [String.toList_intercalate]

end TagStore

namespace ValueKind

theorem isPlain_markers (kind : ValueKind) :
    ∀ marker ∈ kind.markers, (∀ c ∈ marker.toList, Sql.IsPlain c) ∧ ',' ∉ marker.toList := by
  cases kind <;> simp [markers, Sql.IsPlain]

/-- A kind has a marker among the names. -/
def Marked (names : List String) (kind : ValueKind) : Prop :=
  ∃ marker ∈ kind.markers, marker ∈ names

instance (names : List String) (kind : ValueKind) : Decidable (kind.Marked names) :=
  inferInstanceAs (Decidable (∃ marker ∈ kind.markers, marker ∈ names))

/-- **The kinds that apply are those that the ancestors mark.** -/
theorem eval_eq_yes_iff (db : TagStore D) (tag : String) (kind : ValueKind) :
    kind.eval (db.parentId tag) = .yes ↔ kind.Marked (db.ancestors tag) := by
  rw [eval, Truth.any_eq_yes, List.mem_map, Marked]
  refine exists_congr fun marker => and_congr_right fun hmarker => ?_
  obtain ⟨hplain, hcomma⟩ := kind.isPlain_markers marker hmarker
  rw [db.parentId_eq]
  by_cases h : db.ancestors tag = []
  · simp [h]
  · simp only [if_neg h, Truth.ofProp_eq_yes, String.toList_ofList]
    exact Sql.like_listed_iff hplain hcomma (db.noComma tag)

end ValueKind

end EntityFilter
