import EntityFilter.Proofs.Service.Access

/-!
# What the body of a request says

A record is read from the members of an object one after the other, with the fields that were read
so far (`Body.members`).  The fields of a record are a list (`Body.RecordField`), and a reader of
members treats each in the same way (`Body.Sets`): a field is read where its name stands and may
stand only once, and all other members only have to be sound.

**Members are read exactly if each field occurs as it may** (`Body.Sets.of_members`,
`Body.Sets.exists_members`): what one member does to a field is a step of `Body.Extends`.  Hence
`FilterRequest.read_eq_ok_iff`, `ValuesRequest.read_eq_ok_iff` and
`VariableValuesRequest.read_eq_ok_iff` say what a body has to be for a request to be read from it,
and **the organisation and the filter of a plan are those that the body names**
(`App.Admits.of_body`).
-/

namespace EntityFilter

namespace Body

variable {α σ : Type} {read : Draft → Except BodyFault α} {known field : Option α}
  {ms : List (Option String × Draft)}

theorem required_eq_ok_iff {a : α} : required field = .ok a ↔ field = some a := by
  cases field <;> simp [required]

theorem bind_eq_ok_iff {β : Type} {x : Except BodyFault α} {f : α → Except BodyFault β} {b : β} :
    (x >>= f) = .ok b ↔ ∃ a, x = .ok a ∧ f a = .ok b := by
  cases x <;> simp [bind, Except.bind]

/-! ### Members -/

/-- The values of the members with this name, in their order. -/
def valuesOf (name : String) (ms : List (Option String × Draft)) : List Draft :=
  (ms.filter fun m => m.1 == some name).map Prod.snd

/-- The members with other names than these. -/
def others (names : List String) (ms : List (Option String × Draft)) :
    List (Option String × Draft) :=
  ms.filter fun m => names.all fun name => m.1 != some name

theorem valuesOf_cons (name : String) (m : Option String × Draft)
    (ms : List (Option String × Draft)) :
    valuesOf name (m :: ms) = valuesOf name [m] ++ valuesOf name ms := by
  rw [valuesOf, ← List.singleton_append, List.filter_append, List.map_append]
  rfl

theorem valuesOf_singleton (name other : String) (d : Draft) :
    valuesOf name [(some other, d)] = if name = other then [d] else [] := by
  by_cases h : name = other
  · simp [valuesOf, h]
  · simp [valuesOf, h, Ne.symm h]

theorem valuesOf_others {name : String} {names : List String} (h : name ∉ names) :
    valuesOf name (others names ms) = valuesOf name ms := by
  rw [valuesOf, others, List.filter_filter, valuesOf]
  congr 1
  refine List.filter_congr fun m _ => ?_
  by_cases hm : m.1 = some name
  · have hother : ∀ n ∈ names, name ≠ n := fun n hn heq => h (heq ▸ hn)
    simpa [hm] using hother
  · simp [hm]

theorem others_cons (names : List String) (name : String) (d : Draft)
    (ms : List (Option String × Draft)) : others names ((some name, d) :: ms) =
      if name ∈ names then others names ms else (some name, d) :: others names ms := by
  have hname : (names.all fun n => some name != some n) = true ↔ name ∉ names := by
    simp only [List.all_eq_true, bne_iff_ne, ne_eq, Option.some.injEq]
    exact ⟨fun h hmem => h name hmem rfl, fun h n hn heq => h (heq ▸ hn)⟩
  rw [others, List.filter_cons]
  by_cases h : name ∈ names
  · rw [if_neg (mt hname.mp (not_not_intro h)), if_pos h]
    rfl
  · rw [if_pos (hname.mpr h), if_neg h]
    rfl

theorem mem_others_cons {names : List String} {name : String} {d : Draft}
    {m : Option String × Draft} : m ∈ others names ((some name, d) :: ms) ↔
      name ∉ names ∧ m = (some name, d) ∨ m ∈ others names ms := by
  rw [others_cons]
  split <;> simp [*]

/-- There is exactly one member with the name, and its value is read as `a`. -/
def Has (read : Draft → Except BodyFault α) (name : String) (ms : List (Option String × Draft))
    (a : α) : Prop :=
  ∃ d, valuesOf name ms = [d] ∧ read d = .ok a

/-- There is no member with the name and no value, or exactly one member, whose value may be
null. -/
def MayHave (read : Draft → Except BodyFault α) (name : String)
    (ms : List (Option String × Draft)) (a : Option α) : Prop :=
  valuesOf name ms = [] ∧ a = none ∨ Has (optional read) name ms a

/-! ### Fields that are read once -/

/-- If the field is `known` so far, reading it from `values` makes it `field`.  Of all values there
is at most one. -/
def Extends (read : Draft → Except BodyFault α) (known : Option α) (values : List Draft)
    (field : Option α) : Prop :=
  known.toList.map Except.ok ++ values.map read = field.toList.map Except.ok

theorem extends_nil : Extends read known [] known :=
  List.append_nil _

theorem once_eq_ok_iff {d : Draft} :
    once known read d = .ok field ↔ Extends read known [d] field := by
  cases known with
  | some a => cases field <;> simp [once, Extends]
  | none =>
      cases hread : read d with
      | error e => cases field <;> simp [once, Extends, hread, Except.map]
      | ok a => cases field <;> simp [once, Extends, hread, Except.map]

theorem once_bind (put : Option α → σ) (d : Draft) :
    (once known read d >>= fun a => pure (put a)) = (once known read d).map put := by
  cases once known read d <;> rfl

/-- Reading on is reading from what is known now. -/
theorem Extends.append_iff {values more : List Draft} {result : Option α}
    (h : Extends read known values field) :
    Extends read known (values ++ more) result ↔ Extends read field more result := by
  rw [Extends, List.map_append, ← List.append_assoc, h, Extends]

theorem exists_extends_of_append {values more : List Draft}
    (h : Extends read known (values ++ more) field) :
    ∃ middle, Extends read known values middle := by
  rw [Extends, List.map_append, ← List.append_assoc] at h
  cases field with
  | none => exact ⟨none, (List.append_eq_nil_iff.mp h).1⟩
  | some a =>
      rcases List.append_eq_singleton_iff.mp h with ⟨hnil, -⟩ | ⟨hone, -⟩
      · exact ⟨none, hnil⟩
      · exact ⟨some a, hone⟩

theorem Extends.unique {values : List Draft} {other : Option α}
    (h : Extends read known values field) (h' : Extends read known values other) :
    field = other := by
  have hlists := h.symm.trans h'
  cases field <;> cases other <;> simp_all

theorem has_iff {name : String} {a : α} :
    Has read name ms a ↔ Extends read none (valuesOf name ms) (some a) := by
  simp [Has, Extends, List.map_eq_singleton_iff]

theorem mayHave_iff {name : String} {a : Option α} :
    MayHave read name ms a ↔ ∃ field,
      Extends (optional read) none (valuesOf name ms) field ∧ field.getD none = a := by
  rw [MayHave, has_iff]
  constructor
  · rintro (⟨hnone, rfl⟩ | hone)
    · exact ⟨none, by simp [Extends, hnone], rfl⟩
    · exact ⟨some a, hone, rfl⟩
  · rintro ⟨field, hfield, rfl⟩
    cases field with
    | none => exact .inl ⟨by simpa [Extends] using hfield, rfl⟩
    | some a => exact .inr hfield

/-! ### Records -/

/-- A field of a record: its name, how its value is read, and its place among what was read so
far. -/
structure RecordField (σ : Type) where
  name : String
  {α : Type}
  read : Draft → Except BodyFault α
  get : σ → Option α
  put : σ → Option α → σ

variable {fields : List (RecordField σ)} {sound : Draft → Bool} {pass : σ → String → Draft → σ}
  {set : σ → String → Draft → Except BodyFault σ} {s t : σ}

/-- The fields have places of their own. -/
structure Lawful (fields : List (RecordField σ)) : Prop where
  get_put : ∀ f ∈ fields, ∀ s a, f.get (f.put s a) = a
  get_put_of_ne : ∀ f ∈ fields, ∀ g ∈ fields, g.name ≠ f.name → ∀ s a, g.get (f.put s a) = g.get s

/-- There is nothing but the fields. -/
def Determines (fields : List (RecordField σ)) : Prop :=
  ∀ s t, (∀ f ∈ fields, f.get s = f.get t) → s = t

/-- Each field is read once, and what has another name has to be sound and is passed over. -/
structure Sets (fields : List (RecordField σ)) (sound : Draft → Bool)
    (pass : σ → String → Draft → σ) (set : σ → String → Draft → Except BodyFault σ) : Prop where
  lawful : Lawful fields
  own : ∀ f ∈ fields, ∀ s d, set s f.name d = (once (f.get s) f.read d).map (f.put s)
  other : ∀ name, (∀ f ∈ fields, f.name ≠ name) → ∀ s d,
    set s name d = if sound d then .ok (pass s name d) else .error .malformed
  get_pass : ∀ f ∈ fields, ∀ s name d, f.get (pass s name d) = f.get s

theorem members_cons_eq_ok_iff {name : String} {d : Draft} :
    members set s ((some name, d) :: ms) = .ok t ↔
      ∃ u, set s name d = .ok u ∧ members set u ms = .ok t := by
  rw [members, bind_eq_ok_iff]

namespace Sets

theorem of_own (h : Sets fields sound pass set) {f : RecordField σ} (hf : f ∈ fields) {d : Draft}
    (hset : set s f.name d = .ok t) :
    ∃ field, Extends f.read (f.get s) [d] field ∧ t = f.put s field := by
  rw [h.own f hf] at hset
  cases honce : once (f.get s) f.read d with
  | error e =>
      rw [honce] at hset
      cases hset
  | ok field =>
      rw [honce] at hset
      exact ⟨field, once_eq_ok_iff.mp honce, (Except.ok.inj hset).symm⟩

/-- What a member does: it is the next value of the field with its name, or it is sound. -/
theorem of_set (h : Sets fields sound pass set) {name : String} {d : Draft}
    (hset : set s name d = .ok t) :
    (∀ f ∈ fields, Extends f.read (f.get s) (valuesOf f.name [(some name, d)]) (f.get t)) ∧
      (name ∉ fields.map RecordField.name → sound d) := by
  by_cases hname : ∃ g ∈ fields, g.name = name
  · obtain ⟨g, hg, rfl⟩ := hname
    refine ⟨fun f hf => ?_, fun hnot => absurd (List.mem_map_of_mem hg) hnot⟩
    by_cases hfg : f.name = g.name
    · obtain ⟨field, hfield, rfl⟩ := h.of_own hf (hfg ▸ hset)
      rw [valuesOf_singleton, if_pos hfg, h.lawful.get_put f hf]
      exact hfield
    · obtain ⟨field, -, rfl⟩ := h.of_own hg hset
      rw [valuesOf_singleton, if_neg hfg, h.lawful.get_put_of_ne g hg f hf hfg]
      exact extends_nil
  · have hother : ∀ f ∈ fields, f.name ≠ name := fun f hf heq => hname ⟨f, hf, heq⟩
    rw [h.other name hother] at hset
    split at hset
    · rename_i hsound
      obtain rfl := Except.ok.inj hset
      refine ⟨fun f hf => ?_, fun _ => hsound⟩
      rw [valuesOf_singleton, if_neg (hother f hf), h.get_pass f hf]
      exact extends_nil
    · cases hset

/-- A member can be read if its field can, or else if it is sound. -/
theorem exists_set (h : Sets fields sound pass set) {name : String} {d : Draft}
    (hfields : ∀ f ∈ fields,
      ∃ field, Extends f.read (f.get s) (valuesOf f.name [(some name, d)]) field)
    (hother : name ∉ fields.map RecordField.name → sound d) : ∃ t, set s name d = .ok t := by
  by_cases hname : ∃ g ∈ fields, g.name = name
  · obtain ⟨g, hg, rfl⟩ := hname
    obtain ⟨field, hfield⟩ := hfields g hg
    rw [valuesOf_singleton, if_pos rfl, ← once_eq_ok_iff] at hfield
    exact ⟨g.put s field, by rw [h.own g hg, hfield]; rfl⟩
  · have hnone : ∀ f ∈ fields, f.name ≠ name := fun f hf heq => hname ⟨f, hf, heq⟩
    have hsound : sound d := hother fun hmem => hname (List.mem_map.mp hmem)
    exact ⟨pass s name d, by rw [h.other name hnone, if_pos hsound]⟩

/-- **Members that are read have names, give each field at most one value, and are sound where they
are no fields.** -/
theorem of_members (h : Sets fields sound pass set) (hmembers : members set s ms = .ok t) :
    (∀ m ∈ ms, m.1.isSome) ∧
      (∀ f ∈ fields, Extends f.read (f.get s) (valuesOf f.name ms) (f.get t)) ∧
      ∀ m ∈ others (fields.map RecordField.name) ms, sound m.2 := by
  induction ms generalizing s with
  | nil =>
      obtain rfl := Except.ok.inj hmembers
      exact ⟨List.forall_mem_nil _, fun f _ => extends_nil, List.forall_mem_nil _⟩
  | cons m ms ih =>
      obtain ⟨name, d⟩ := m
      cases name with
      | none => cases hmembers
      | some name =>
          obtain ⟨u, hset, hrest⟩ := members_cons_eq_ok_iff.mp hmembers
          obtain ⟨hfirst, hsound⟩ := h.of_set hset
          obtain ⟨hnames, hfields, hothers⟩ := ih hrest
          refine ⟨List.forall_mem_cons.mpr ⟨rfl, hnames⟩, fun f hf => ?_, fun m hm => ?_⟩
          · rw [valuesOf_cons, (hfirst f hf).append_iff]
            exact hfields f hf
          · rcases mem_others_cons.mp hm with ⟨hname, rfl⟩ | hm
            · exact hsound hname
            · exact hothers m hm

/-- **Members with names can be read** if each field has at most one value, which can be read, and
the others are sound. -/
theorem exists_members (h : Sets fields sound pass set) (hnames : ∀ m ∈ ms, m.1.isSome)
    (hfields : ∀ f ∈ fields, ∃ field, Extends f.read (f.get s) (valuesOf f.name ms) field)
    (hothers : ∀ m ∈ others (fields.map RecordField.name) ms, sound m.2) :
    ∃ t, members set s ms = .ok t := by
  induction ms generalizing s with
  | nil => exact ⟨s, rfl⟩
  | cons m ms ih =>
      obtain ⟨name, d⟩ := m
      obtain ⟨hname, hrest⟩ := List.forall_mem_cons.mp hnames
      obtain ⟨name, rfl⟩ := Option.isSome_iff_exists.mp hname
      have hfirst : ∀ f ∈ fields,
          ∃ field, Extends f.read (f.get s) (valuesOf f.name [(some name, d)]) field := by
        intro f hf
        obtain ⟨field, hfield⟩ := hfields f hf
        rw [valuesOf_cons] at hfield
        exact exists_extends_of_append hfield
      obtain ⟨u, hset⟩ := h.exists_set hfirst
        fun hnot => hothers _ (mem_others_cons.mpr (.inl ⟨hnot, rfl⟩))
      have hlater : ∀ f ∈ fields, ∃ field, Extends f.read (f.get u) (valuesOf f.name ms) field := by
        intro f hf
        obtain ⟨field, hfield⟩ := hfields f hf
        rw [valuesOf_cons, ((h.of_set hset).1 f hf).append_iff] at hfield
        exact ⟨field, hfield⟩
      obtain ⟨t, ht⟩ := ih hrest hlater fun m hm => hothers m (mem_others_cons.mpr (.inr hm))
      exact ⟨t, members_cons_eq_ok_iff.mpr ⟨u, hset, ht⟩⟩

/-- What is read from members of which some make up the fields. -/
theorem members_eq_ok_iff (h : Sets fields sound pass set) (hfields : Determines fields) :
    members set s ms = .ok t ↔ (∀ m ∈ ms, m.1.isSome) ∧
      (∀ f ∈ fields, Extends f.read (f.get s) (valuesOf f.name ms) (f.get t)) ∧
      ∀ m ∈ others (fields.map RecordField.name) ms, sound m.2 := by
  constructor
  · exact h.of_members
  · rintro ⟨hnames, hread, hothers⟩
    obtain ⟨u, hu⟩ := h.exists_members hnames (fun f hf => ⟨_, hread f hf⟩) hothers
    obtain ⟨-, hread', -⟩ := h.of_members hu
    rw [hu, hfields u t fun f hf => (hread' f hf).unique (hread f hf)]

end Sets

/-- What is read is returned only if the record ends as it should. -/
theorem ended_eq_ok_iff {r : Except BodyFault σ} {p : Prop} [Decidable p] :
    (r >>= fun u => if p then pure u else throw .malformed) = .ok t ↔ p ∧ r = .ok t := by
  cases r with
  | error e => simp [bind, Except.bind]
  | ok u =>
      simp only [bind, Except.bind, pure, Except.pure]
      split <;> simp [*, throw, throwThe, MonadExceptOf.throw]

/-- The members of a plain record: those of an object, or the items of an array under the names of
the fields. -/
def HasMembers (names : List String) (d : Draft) (ms : List (Option String × Draft)) : Prop :=
  d = .obj ms true ∨
    ∃ items, d = .arr items true ∧ items.length ≤ names.length ∧ ms = (names.map some).zip items

theorem record_eq_ok_iff {names : List String} {d : Draft} :
    record names set s d = .ok t ↔ ∃ ms, HasMembers names d ms ∧ members set s ms = .ok t := by
  cases d with
  | obj ms closed => simp [record, ended_eq_ok_iff, HasMembers]
  | arr items closed =>
      rw [record, ended_eq_ok_iff]
      simp [HasMembers, and_assoc]
  | _ => simp [record, HasMembers]

/-! ### Open records -/

/-- The same field where something else is gathered as well. -/
def RecordField.first (ρ : Type) (f : RecordField σ) : RecordField (σ × ρ) :=
  ⟨f.name, f.read, fun s => f.get s.1, fun s a => (f.put s.1 a, s.2)⟩

theorem map_name_first (ρ : Type) (fields : List (RecordField σ)) :
    (fields.map (RecordField.first ρ)).map RecordField.name = fields.map RecordField.name := by
  rw [List.map_map]
  rfl

variable {take : σ → String → Draft → Option (Except BodyFault σ)}

/-- Each field of its own is read once, and nothing else. -/
structure Owns (fields : List (RecordField σ))
    (take : σ → String → Draft → Option (Except BodyFault σ)) : Prop where
  lawful : Lawful fields
  own : ∀ f ∈ fields, ∀ s d, take s f.name d = some ((once (f.get s) f.read d).map (f.put s))
  other : ∀ name, (∀ f ∈ fields, f.name ≠ name) → ∀ s d, take s name d = none

/-- A value can be gathered for another reader. -/
def isGathered (d : Draft) : Bool :=
  (d.toJson? (Draft.maxLevels - 1)).isSome

theorem openRecord_eq_ok_iff_members {d : Draft} {p : σ × List (Option String × Draft)} :
    openRecord take s d = .ok p ↔
      ∃ ms, d = .obj ms true ∧ members (openRecord.gather take) (s, []) ms = .ok p := by
  cases d with
  | obj ms closed => simp [openRecord, ended_eq_ok_iff]
  | _ => simp [openRecord]

namespace Owns

theorem sets (h : Owns fields take) : Sets (fields.map (RecordField.first _)) isGathered
    (fun s name d => (s.1, s.2 ++ [(some name, d)])) (openRecord.gather take) where
  lawful :=
    { get_put := by
        simp only [List.forall_mem_map]
        exact fun f hf s a => h.lawful.get_put f hf s.1 a
      get_put_of_ne := by
        simp only [List.forall_mem_map]
        exact fun f hf g hg hne s a => h.lawful.get_put_of_ne f hf g hg hne s.1 a }
  own := by
    simp only [List.forall_mem_map]
    intro f hf s d
    simp only [openRecord.gather, RecordField.first, h.own f hf]
    cases once (f.get s.1) f.read d <;> rfl
  other name hname s d := by
    simp only [List.forall_mem_map] at hname
    simp only [openRecord.gather, h.other name hname]
    rfl
  get_pass := by
    simp only [List.forall_mem_map]
    exact fun f hf s name d => rfl

/-- What is gathered are the other members. -/
theorem rest_eq (h : Owns fields take) {rest rest' : List (Option String × Draft)}
    (hmembers : members (openRecord.gather take) (s, rest) ms = .ok (t, rest')) :
    rest' = rest ++ others (fields.map RecordField.name) ms := by
  induction ms generalizing s rest with
  | nil =>
      cases hmembers
      exact (List.append_nil _).symm
  | cons m ms ih =>
      obtain ⟨name, d⟩ := m
      cases name with
      | none => cases hmembers
      | some name =>
          obtain ⟨u, hset, hrest⟩ := members_cons_eq_ok_iff.mp hmembers
          rw [others_cons]
          by_cases hname : name ∈ fields.map RecordField.name
          · obtain ⟨f, hf, rfl⟩ := List.mem_map.mp hname
            obtain ⟨field, -, rfl⟩ := h.sets.of_own (List.mem_map_of_mem hf) hset
            rw [if_pos hname, ih hrest]
          · have hother : ∀ f ∈ fields.map (RecordField.first (List (Option String × Draft))),
                f.name ≠ name := by
              rw [List.forall_mem_map]
              exact fun f hf heq => hname (List.mem_map.mpr ⟨f, hf, heq⟩)
            rw [h.sets.other name hother] at hset
            split at hset
            · obtain rfl := Except.ok.inj hset
              rw [if_neg hname, ih hrest, List.append_assoc]
              rfl
            · cases hset

/-- **What an open record is read from**: an object in which each field of its own occurs as it may,
and the other members, which are returned, can be gathered. -/
theorem openRecord_eq_ok_iff (h : Owns fields take) (hfields : Determines fields) {d : Draft}
    {rest : List (Option String × Draft)} :
    openRecord take s d = .ok (t, rest) ↔ ∃ ms, d = .obj ms true ∧ (∀ m ∈ ms, m.1.isSome) ∧
      (∀ f ∈ fields, Extends f.read (f.get s) (valuesOf f.name ms) (f.get t)) ∧
      rest = others (fields.map RecordField.name) ms ∧ ∀ m ∈ rest, isGathered m.2 := by
  rw [openRecord_eq_ok_iff_members]
  refine exists_congr fun ms => and_congr_right fun _ => ?_
  constructor
  · intro hmembers
    obtain ⟨hnames, hread, hothers⟩ := h.sets.of_members hmembers
    have hrest : rest = others (fields.map RecordField.name) ms := h.rest_eq hmembers
    rw [map_name_first, ← hrest] at hothers
    rw [List.forall_mem_map] at hread
    exact ⟨hnames, hread, hrest, hothers⟩
  · rintro ⟨hnames, hread, rfl, hothers⟩
    have hall : ∀ f ∈ fields.map (RecordField.first (List (Option String × Draft))),
        ∃ field, Extends f.read (f.get (s, [])) (valuesOf f.name ms) field := by
      rw [List.forall_mem_map]
      exact fun f hf => ⟨_, hread f hf⟩
    rw [← map_name_first (List (Option String × Draft))] at hothers
    obtain ⟨⟨u, rest⟩, hu⟩ := h.sets.exists_members hnames hall hothers
    obtain ⟨-, hread', -⟩ := h.sets.of_members hu
    rw [List.forall_mem_map] at hread'
    obtain rfl : rest = others (fields.map RecordField.name) ms := h.rest_eq hu
    rw [hu, hfields u t fun f hf => (hread' f hf).unique (hread f hf)]

end Owns

end Body

open Body (Has HasMembers MayHave RecordField others valuesOf)

/-! ### Requests for entities -/

namespace FilterRequest

/-- The fields of a request for entities. -/
def Fields.all : List (RecordField Fields) :=
  [⟨"filter", Body.text, Fields.filter, fun s v => { s with filter := v }⟩,
    ⟨"org_id", Body.integer Text.int64Min Text.int64Max, Fields.orgId,
      fun s v => { s with orgId := v }⟩,
    ⟨"tags", Body.optional (Body.list Body.text), Fields.tags, fun s v => { s with tags := v }⟩]

theorem Fields.sets : Body.Sets all Body.isSound (fun s _ _ => s) Fields.set where
  lawful :=
    { get_put := by simp [all]
      get_put_of_ne := by simp [all] }
  own := by
    simp only [all, List.forall_mem_cons]
    exact ⟨fun _ => Body.once_bind _, fun _ => Body.once_bind _, fun _ => Body.once_bind _,
      List.forall_mem_nil _⟩
  other name hname s d := by
    simp only [all, List.forall_mem_cons] at hname
    obtain ⟨hfilter, horg, htags, -⟩ := hname
    unfold set
    split
    · exact absurd rfl hfilter
    · exact absurd rfl horg
    · exact absurd rfl htags
    · simp only [Body.skip]
      split <;> rfl
  get_pass _ _ _ _ _ := rfl

theorem Fields.determines : Body.Determines all := by
  intro s t h
  simp only [all, List.forall_mem_cons] at h
  obtain ⟨hfilter, horg, htags, -⟩ := h
  cases s
  cases t
  simp_all

theorem Fields.finish_eq_ok_iff {s : Fields} {r : FilterRequest} : s.finish = .ok r ↔
    s.filter = some r.filter ∧ s.orgId = some r.orgId ∧ s.tags.getD none = r.tags := by
  simp only [finish, Body.bind_eq_ok_iff, Body.required_eq_ok_iff]
  constructor
  · rintro ⟨filter, hfilter, orgId, horg, hr⟩
    obtain rfl := Except.ok.inj hr
    exact ⟨hfilter, horg, rfl⟩
  · rintro ⟨hfilter, horg, htags⟩
    exact ⟨_, hfilter, _, horg, by rw [htags]; rfl⟩

/-- The members are those of the request: its filter and its organisation stand there once, the tags
that it asks for at most once, and all others are sound. -/
structure SaidBy (ms : List (Option String × Draft)) (r : FilterRequest) : Prop where
  named : ∀ m ∈ ms, m.1.isSome
  filter : Has Body.text "filter" ms r.filter
  orgId : Has (Body.integer Text.int64Min Text.int64Max) "org_id" ms r.orgId
  tags : MayHave (Body.list Body.text) "tags" ms r.tags
  others : ∀ m ∈ others ["filter", "org_id", "tags"] ms, Body.isSound m.2

theorem ofMembers_eq_ok_iff {ms : List (Option String × Draft)} {r : FilterRequest} :
    ofMembers ms = .ok r ↔ r.SaidBy ms := by
  simp only [ofMembers, Body.bind_eq_ok_iff, Fields.sets.members_eq_ok_iff Fields.determines,
    Fields.finish_eq_ok_iff]
  constructor
  · rintro ⟨s, ⟨hnamed, hfields, hothers⟩, hfilter, horg, htags⟩
    simp only [Fields.all, List.forall_mem_cons, hfilter, horg] at hfields
    exact
      { named := hnamed
        filter := Body.has_iff.mpr hfields.1
        orgId := Body.has_iff.mpr hfields.2.1
        tags := Body.mayHave_iff.mpr ⟨s.tags, hfields.2.2.1, htags⟩
        others := hothers }
  · intro h
    obtain ⟨tags, htags, hgiven⟩ := Body.mayHave_iff.mp h.tags
    refine ⟨⟨some r.filter, some r.orgId, tags⟩, ⟨h.named, ?_, h.others⟩, rfl, rfl, hgiven⟩
    simp only [Fields.all, List.forall_mem_cons]
    exact ⟨Body.has_iff.mp h.filter, Body.has_iff.mp h.orgId, htags, List.forall_mem_nil _⟩

/-- **What a request for entities is read from**: an object, or an array of its fields in order. -/
theorem read_eq_ok_iff {d : Draft} {r : FilterRequest} :
    read d = .ok r ↔ ∃ ms, HasMembers ["filter", "org_id", "tags"] d ms ∧ r.SaidBy ms := by
  simp only [read, ← ofMembers_eq_ok_iff, ofMembers, Body.bind_eq_ok_iff, Body.record_eq_ok_iff]
  constructor
  · rintro ⟨s, ⟨ms, hd, hs⟩, hfinish⟩
    exact ⟨ms, hd, s, hs, hfinish⟩
  · rintro ⟨ms, hd, s, hs, hfinish⟩
    exact ⟨s, ⟨ms, hd, hs⟩, hfinish⟩

end FilterRequest

/-! ### Requests for values -/

namespace AggregationRequest

/-- The fields that tell how values are aggregated. -/
def Fields.all : List (RecordField Fields) :=
  [⟨"aggregation", Body.optional Body.text, Fields.aggregation,
      fun s v => { s with aggregation := v }⟩,
    ⟨"time", Body.optional Body.text, Fields.time, fun s v => { s with time := v }⟩,
    ⟨"timeInSeconds", Body.optional (Body.integer 0 4294967295), Fields.seconds,
      fun s v => { s with seconds := v }⟩]

theorem Fields.sets : Body.Sets all Body.isSound (fun s _ _ => s) Fields.set where
  lawful :=
    { get_put := by simp [all]
      get_put_of_ne := by simp [all] }
  own := by
    simp only [all, List.forall_mem_cons]
    exact ⟨fun _ => Body.once_bind _, fun _ => Body.once_bind _, fun _ => Body.once_bind _,
      List.forall_mem_nil _⟩
  other name hname s d := by
    simp only [all, List.forall_mem_cons] at hname
    obtain ⟨haggregation, htime, hseconds, -⟩ := hname
    unfold set
    split
    · exact absurd rfl haggregation
    · exact absurd rfl htime
    · exact absurd rfl hseconds
    · simp only [Body.skip]
      split <;> rfl
  get_pass _ _ _ _ _ := rfl

theorem Fields.determines : Body.Determines all := by
  intro s t h
  simp only [all, List.forall_mem_cons] at h
  obtain ⟨haggregation, htime, hseconds, -⟩ := h
  cases s
  cases t
  simp_all

/-- The members tell how values are aggregated: each field stands there at most once, and all others
are sound. -/
structure SaidBy (ms : List (Option String × Draft)) (r : AggregationRequest) : Prop where
  named : ∀ m ∈ ms, m.1.isSome
  aggregation : MayHave Body.text "aggregation" ms r.aggregation
  time : MayHave Body.text "time" ms r.time
  seconds : ∃ n, MayHave (Body.integer 0 4294967295) "timeInSeconds" ms n ∧
    r.seconds = n.map Int.toNat
  others : ∀ m ∈ others ["aggregation", "time", "timeInSeconds"] ms, Body.isSound m.2

theorem read_eq_ok_iff {d : Draft} {r : AggregationRequest} :
    read d = .ok r ↔
      ∃ ms, HasMembers ["aggregation", "time", "timeInSeconds"] d ms ∧ r.SaidBy ms := by
  simp only [read, Body.bind_eq_ok_iff, Body.record_eq_ok_iff,
    Fields.sets.members_eq_ok_iff Fields.determines]
  constructor
  · rintro ⟨s, ⟨ms, hd, hnamed, hfields, hothers⟩, hr⟩
    simp only [Fields.all, List.forall_mem_cons] at hfields
    obtain ⟨haggregation, htime, hseconds, -⟩ := hfields
    obtain rfl := Except.ok.inj hr
    exact ⟨ms, hd,
      { named := hnamed
        aggregation := Body.mayHave_iff.mpr ⟨_, haggregation, rfl⟩
        time := Body.mayHave_iff.mpr ⟨_, htime, rfl⟩
        seconds := ⟨_, Body.mayHave_iff.mpr ⟨_, hseconds, rfl⟩, rfl⟩
        others := hothers }⟩
  · rintro ⟨ms, hd, h⟩
    obtain ⟨aggregation, haggregation, hgiven⟩ := Body.mayHave_iff.mp h.aggregation
    obtain ⟨time, htime, htold⟩ := Body.mayHave_iff.mp h.time
    obtain ⟨n, hn, hcounted⟩ := h.seconds
    obtain ⟨seconds, hseconds, rfl⟩ := Body.mayHave_iff.mp hn
    refine ⟨⟨aggregation, time, seconds⟩, ⟨ms, hd, h.named, ?_, h.others⟩, ?_⟩
    · simp only [Fields.all, List.forall_mem_cons]
      exact ⟨haggregation, htime, hseconds, List.forall_mem_nil _⟩
    · obtain ⟨_, _, _⟩ := r
      simp only at hgiven htold hcounted
      rw [hgiven, htold, hcounted]
      rfl

end AggregationRequest

namespace ValuesRequest

/-- The fields that a request for time series adds to one for entities. -/
def Fields.all : List (RecordField Fields) :=
  [⟨"date_from", Body.text, Fields.dateFrom, fun s v => { s with dateFrom := v }⟩,
    ⟨"date_to", Body.text, Fields.dateTo, fun s v => { s with dateTo := v }⟩,
    ⟨"val_tag", Body.optional Body.text, Fields.labelTag, fun s v => { s with labelTag := v }⟩,
    ⟨"operation", Body.optional AggregationRequest.read, Fields.operation,
      fun s v => { s with operation := v }⟩]

theorem Fields.owns : Body.Owns all Fields.set where
  lawful :=
    { get_put := by simp [all]
      get_put_of_ne := by simp [all] }
  own := by
    simp only [all, List.forall_mem_cons]
    exact ⟨fun _ _ => rfl, fun _ _ => rfl, fun _ _ => rfl, fun _ _ => rfl,
      List.forall_mem_nil _⟩
  other name hname s d := by
    simp only [all, List.forall_mem_cons] at hname
    obtain ⟨hfrom, hto, hlabel, hoperation, -⟩ := hname
    unfold set
    split
    · exact absurd rfl hfrom
    · exact absurd rfl hto
    · exact absurd rfl hlabel
    · exact absurd rfl hoperation
    · rfl

theorem Fields.determines : Body.Determines all := by
  intro s t h
  simp only [all, List.forall_mem_cons] at h
  obtain ⟨hfrom, hto, hlabel, hoperation, -⟩ := h
  cases s
  cases t
  simp_all

/-- The members are those of the request: its dates stand there once, and the rest at most once.
All others are the members of the request for entities. -/
structure SaidBy (ms : List (Option String × Draft)) (r : ValuesRequest) : Prop where
  named : ∀ m ∈ ms, m.1.isSome
  dateFrom : Has Body.text "date_from" ms r.dateFrom
  dateTo : Has Body.text "date_to" ms r.dateTo
  labelTag : MayHave Body.text "val_tag" ms r.labelTag
  operation : MayHave AggregationRequest.read "operation" ms r.operation
  filter : r.filter.SaidBy (others ["date_from", "date_to", "val_tag", "operation"] ms)
  gathered : ∀ m ∈ others ["date_from", "date_to", "val_tag", "operation"] ms,
    Body.isGathered m.2

/-- **What a request for time series is read from.** -/
theorem read_eq_ok_iff {d : Draft} {r : ValuesRequest} :
    read d = .ok r ↔ ∃ ms, d = .obj ms true ∧ r.SaidBy ms := by
  have hread : read d = .ok r ↔ ∃ s rest, Body.openRecord Fields.set {} d = .ok (s, rest) ∧
      FilterRequest.ofMembers rest = .ok r.filter ∧ s.dateFrom = some r.dateFrom ∧
      s.dateTo = some r.dateTo ∧ s.labelTag.getD none = r.labelTag ∧
      s.operation.getD none = r.operation := by
    simp only [read, Body.bind_eq_ok_iff, Body.required_eq_ok_iff, Prod.exists]
    constructor
    · rintro ⟨s, rest, hs, filter, hfilter, dateFrom, hfrom, dateTo, hto, hr⟩
      obtain rfl := Except.ok.inj hr
      exact ⟨s, rest, hs, hfilter, hfrom, hto, rfl, rfl⟩
    · rintro ⟨s, rest, hs, hfilter, hfrom, hto, hlabel, hoperation⟩
      exact ⟨s, rest, hs, _, hfilter, _, hfrom, _, hto, by rw [hlabel, hoperation]; rfl⟩
  simp only [hread, Fields.owns.openRecord_eq_ok_iff Fields.determines,
    FilterRequest.ofMembers_eq_ok_iff]
  constructor
  · rintro ⟨s, rest, ⟨ms, rfl, hnamed, hfields, rfl, hothers⟩, hfilter, hfrom, hto, hlabel, hop⟩
    simp only [Fields.all, List.forall_mem_cons, hfrom, hto] at hfields
    obtain ⟨hdateFrom, hdateTo, hlabelTag, hoperation, -⟩ := hfields
    exact ⟨ms, rfl,
      { named := hnamed
        dateFrom := Body.has_iff.mpr hdateFrom
        dateTo := Body.has_iff.mpr hdateTo
        labelTag := Body.mayHave_iff.mpr ⟨_, hlabelTag, hlabel⟩
        operation := Body.mayHave_iff.mpr ⟨_, hoperation, hop⟩
        filter := hfilter
        gathered := hothers }⟩
  · rintro ⟨ms, rfl, h⟩
    obtain ⟨labelTag, hlabelTag, hlabel⟩ := Body.mayHave_iff.mp h.labelTag
    obtain ⟨operation, hoperation, hop⟩ := Body.mayHave_iff.mp h.operation
    refine ⟨⟨some r.dateFrom, some r.dateTo, labelTag, operation⟩, _,
      ⟨ms, rfl, h.named, ?_, rfl, h.gathered⟩, h.filter, rfl, rfl, hlabel, hop⟩
    simp only [Fields.all, List.forall_mem_cons]
    exact ⟨Body.has_iff.mp h.dateFrom, Body.has_iff.mp h.dateTo, hlabelTag, hoperation,
      List.forall_mem_nil _⟩

end ValuesRequest

namespace VariableValuesRequest

/-- The field that a request for current values adds to one for entities. -/
def fields : List (RecordField (Option String)) :=
  [⟨"tag", Body.text, fun s => s, fun _ v => v⟩]

theorem owns_fields : Body.Owns fields set where
  lawful :=
    { get_put := by simp [fields]
      get_put_of_ne := by simp [fields] }
  own := by
    simp only [fields, List.forall_mem_singleton]
    intro s d
    rw [set, if_pos rfl]
    cases Body.once s Body.text d <;> rfl
  other name hname s d := by
    simp only [fields, List.forall_mem_singleton] at hname
    exact if_neg (Ne.symm hname)

theorem determines_fields : Body.Determines fields := by
  intro s t h
  simpa [fields] using h

/-- The members are those of the request: its tag stands there once, and all others are the members
of the request for entities. -/
structure SaidBy (ms : List (Option String × Draft)) (r : VariableValuesRequest) : Prop where
  named : ∀ m ∈ ms, m.1.isSome
  tag : Has Body.text "tag" ms r.tag
  filter : r.filter.SaidBy (others ["tag"] ms)
  gathered : ∀ m ∈ others ["tag"] ms, Body.isGathered m.2

/-- **What a request for current values is read from.** -/
theorem read_eq_ok_iff {d : Draft} {r : VariableValuesRequest} :
    read d = .ok r ↔ ∃ ms, d = .obj ms true ∧ r.SaidBy ms := by
  have hread : read d = .ok r ↔ ∃ tag rest, Body.openRecord set none d = .ok (tag, rest) ∧
      FilterRequest.ofMembers rest = .ok r.filter ∧ tag = some r.tag := by
    simp only [read, Body.bind_eq_ok_iff, Body.required_eq_ok_iff, Prod.exists]
    constructor
    · rintro ⟨tag, rest, hread, filter, hfilter, t, htag, hr⟩
      obtain rfl := Except.ok.inj hr
      exact ⟨tag, rest, hread, hfilter, htag⟩
    · rintro ⟨tag, rest, hread, hfilter, htag⟩
      exact ⟨tag, rest, hread, _, hfilter, _, htag, rfl⟩
  simp only [hread, owns_fields.openRecord_eq_ok_iff determines_fields,
    FilterRequest.ofMembers_eq_ok_iff]
  constructor
  · rintro ⟨tag, rest, ⟨ms, rfl, hnamed, hfields, rfl, hothers⟩, hfilter, rfl⟩
    simp only [fields, List.forall_mem_singleton] at hfields
    exact ⟨ms, rfl, hnamed, Body.has_iff.mpr hfields, hfilter, hothers⟩
  · rintro ⟨ms, rfl, h⟩
    refine ⟨some r.tag, _, ⟨ms, rfl, h.named, ?_, rfl, h.gathered⟩, h.filter, rfl⟩
    simp only [fields, List.forall_mem_singleton]
    exact Body.has_iff.mp h.tag

end VariableValuesRequest

/-! ### Plans -/

theorem Body.Has.of_others {α : Type} {read : Draft → Except BodyFault α} {name : String}
    {names : List String} {ms : List (Option String × Draft)} {a : α}
    (h : Has read name (others names ms) a) (hname : name ∉ names) : Has read name ms a := by
  rwa [Has, Body.valuesOf_others hname] at h

theorem HttpRequest.decode_of_read {α : Type} {r : HttpRequest} {limit : Nat}
    {decode : Draft → Except BodyFault α} {request : α} (h : r.read limit decode = .ok request) :
    decode (Draft.ofText r.body) = .ok request := by
  rw [HttpRequest.read] at h
  split at h
  · cases h
  · split at h
    · cases h
    · cases hdecode : decode (Draft.ofText r.body) with
      | error fault =>
          rw [hdecode] at h
          cases h
      | ok found =>
          rw [hdecode] at h
          exact congrArg Except.ok (Except.ok.inj h)

/-- **The organisation and the filter of a plan are those that the body names.**  The body of an
admitted request has one member for each of them, and the plan is that of this filter, for this
organisation and for the user that the header names.  Tags are asked for only where entities are, as
the body names them. -/
theorem App.Admits.of_body {app : App} {r : HttpRequest} {route : Route} {plan : Plan}
    (h : app.Admits r route plan) :
    ∃ ms filter tags, HasMembers ["filter", "org_id", "tags"] (Draft.ofText r.body) ms ∧
      Has Body.text "filter" ms filter ∧
      Has (Body.integer Text.int64Min Text.int64Max) "org_id" ms plan.orgId ∧
      (route = .filter → MayHave (Body.list Body.text) "tags" ms tags) ∧
      (route ≠ .filter → tags = none) ∧
      r.NamesUser app.settings.auth.userHeader plan.userId ∧
      (app.service.query plan.userId ⟨filter, plan.orgId, tags⟩).compile app.service.compiler =
        .ok plan.compiled := by
  cases h with
  | filter huser hbody _ hcompile =>
      obtain ⟨ms, hms, hsaid⟩ :=
        FilterRequest.read_eq_ok_iff.mp (HttpRequest.decode_of_read hbody)
      exact ⟨ms, _, _, hms, hsaid.filter, hsaid.orgId, fun _ => hsaid.tags,
        fun hroute => absurd rfl hroute, huser, hcompile⟩
  | values huser hbody _ _ _ hcompile =>
      obtain ⟨ms, hms, hsaid⟩ :=
        ValuesRequest.read_eq_ok_iff.mp (HttpRequest.decode_of_read hbody)
      exact ⟨ms, _, none, .inl hms, hsaid.filter.filter.of_others (by decide),
        hsaid.filter.orgId.of_others (by decide), nofun, fun _ => rfl, huser, hcompile⟩
  | variableValues huser hbody _ hcompile =>
      obtain ⟨ms, hms, hsaid⟩ :=
        VariableValuesRequest.read_eq_ok_iff.mp (HttpRequest.decode_of_read hbody)
      exact ⟨ms, _, none, .inl hms, hsaid.filter.filter.of_others (by decide),
        hsaid.filter.orgId.of_others (by decide), nofun, fun _ => rfl, huser, hcompile⟩

end EntityFilter
