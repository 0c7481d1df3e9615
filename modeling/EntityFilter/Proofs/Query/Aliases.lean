import Mathlib.Data.List.Basic
import Mathlib.Data.List.Pairwise
import EntityFilter.Proofs.Query.Numbering

/-!
# The aliases of a compiled filter

The tags of a filter stand in a row (`Expr.steps`): the mentions from left to right, and on the path
of a mention the tag at the end first.  Compilation keeps three accounts of this row, the predicate,
the closures and the lookups, and each of them is the row numbered from 1, with what the account
leaves out (`nodes_numbered`, `closures_numbered`, `lookups_numbered`).

**The accounts agree** (`CompiledFilter.scoped_of_compileExpr`).  Every alias stands at one place of
the predicate, and what a test finds under its alias, a lookup and the walk that the lookup reads,
is there once and for the same tag.
-/

namespace EntityFilter

/-! ### The tags of a filter -/

/-- A tag on the path of a mention. -/
structure Step where
  reference : Reference
  tag : String
deriving DecidableEq, Repr

/-- The tags of a mention, the one at the end of its path first. -/
def Reference.steps (r : Reference) : List Step :=
  r.path.segments.reverse.map fun tag => ⟨r, tag⟩

/-- The tags of a filter. -/
def Expr.steps (e : Expr) : List Step :=
  e.references.flatMap Reference.steps

/-! ### The places of a predicate -/

namespace RowSource

/-- The aliases of a selection with their tags, from the inside out. -/
def nodes : RowSource → List (Nat × String)
  | tagged mention tag       => [(mention, tag)]
  | valued tag lookup _      => [(lookup.mention, tag)]
  | linked mention tag inner => inner.nodes ++ [(mention, tag)]

/-- The tags of a selection, from the outside in. -/
def tags : RowSource → List String
  | tagged _ tag | valued tag _ _ => [tag]
  | linked _ tag inner            => tag :: inner.tags

/-- The tests in a selection, with the aliases of the places where they are made. -/
def dispatches : RowSource → List (Nat × Dispatch)
  | tagged _ _               => []
  | valued _ lookup dispatch => [(lookup.mention, dispatch)]
  | linked _ _ inner         => inner.dispatches

/-- The lookups in a selection, with the tags for which they are made. -/
def lookups : RowSource → List (String × Lookup)
  | tagged _ _          => []
  | valued tag lookup _ => [(tag, lookup)]
  | linked _ _ inner    => inner.lookups

end RowSource

namespace Predicate

mutual

/-- The parts of a predicate that ask for tags, from left to right. -/
def atoms : Predicate → List Predicate
  | or operands | and operands     => atomsOfAll operands
  | paren inner | not inner        => inner.atoms
  | entityIn source                => [entityIn source]
  | rowPasses mention tag dispatch => [rowPasses mention tag dispatch]

/-- The parts of several predicates that ask for tags, from left to right. -/
def atomsOfAll : List Predicate → List Predicate
  | []        => []
  | p :: rest => p.atoms ++ atomsOfAll rest

end

/-- The aliases of an atom with their tags. -/
def atomNodes : Predicate → List (Nat × String)
  | entityIn source         => source.nodes
  | rowPasses mention tag _ => [(mention, tag)]
  | _                       => []

/-- The alias and the tag of an atom that tests the entity's own rows. -/
def atomTests : Predicate → List (Nat × String)
  | rowPasses mention tag _ => [(mention, tag)]
  | _                       => []

/-- The tests in an atom, with the aliases of the places where they are made. -/
def atomDispatches : Predicate → List (Nat × Dispatch)
  | entityIn source              => source.dispatches
  | rowPasses mention _ dispatch => [(mention, dispatch)]
  | _                            => []

/-- The lookups in an atom, with the tags for which they are made. -/
def atomLookups : Predicate → List (String × Lookup)
  | entityIn source => source.lookups
  | _               => []

/-- The aliases of a predicate with their tags, in the order in which they are drawn. -/
def nodes (p : Predicate) : List (Nat × String) :=
  p.atoms.flatMap atomNodes

/-- The aliases and the tags that are tested on the entity's own rows. -/
def tests (p : Predicate) : List (Nat × String) :=
  p.atoms.flatMap atomTests

/-- All tests, with the aliases of the places where they are made. -/
def dispatches (p : Predicate) : List (Nat × Dispatch) :=
  p.atoms.flatMap atomDispatches

/-- The lookups within a predicate, with the tags for which they are made. -/
def inlineLookups (p : Predicate) : List (String × Lookup) :=
  p.atoms.flatMap atomLookups

end Predicate

/-- The atom goes along the path of the mention, from its start to its end. -/
def Reference.SpeltBy (r : Reference) : Predicate → Prop
  | .entityIn source  => source.tags = r.path.segments ∧ source.depth = r.path.segments.length
  | .rowPasses _ tag _ => r.path.segments = [tag] ∧ r.condition.isSome
  | _                 => False

/-! ### Numbered rows -/

theorem Path.dropLast_append_terminal {p : Path} (h : p.segments ≠ []) :
    p.segments.dropLast ++ [p.terminal] = p.segments := by
  have hterminal : p.terminal = p.segments.getLast h := by
    rw [terminal, List.getLastD_eq_getLast?, List.getLast?_eq_some_getLast h, Option.getD_some]
  rw [hterminal, List.dropLast_concat_getLast]

theorem Path.mentions_eq_reverse {p : Path} (h : p.segments ≠ []) :
    p.mentions = p.segments.reverse := by
  calc p.mentions = (p.segments.dropLast ++ [p.terminal]).reverse := by simp [mentions]
    _ = p.segments.reverse := by rw [dropLast_append_terminal h]

theorem Reference.steps_eq {r : Reference} (h : r.path.segments ≠ []) :
    r.steps = r.path.mentions.map fun tag => ⟨r, tag⟩ := by
  rw [steps, Path.mentions_eq_reverse h]

section Rows

variable {γ δ : Type}

/-- What is gathered by reading off the numbered tags of each mention is read off the whole
row. -/
theorem gather_eq_filterMap_zipIdx {f : Nat → Reference → List γ} {g : Step × Nat → Option γ}
    {rs : List Reference} (hpaths : ∀ r ∈ rs, r.path.segments ≠ [])
    (hf : ∀ k, ∀ r ∈ rs, f k r = (r.steps.zipIdx (k + 1)).filterMap g) (k : Nat) :
    gather f k rs = ((rs.flatMap Reference.steps).zipIdx (k + 1)).filterMap g := by
  induction rs generalizing k with
  | nil => rfl
  | cons r rs ih =>
      obtain ⟨hr, hrs⟩ := List.forall_mem_cons.mp hpaths
      -- a mention draws as many aliases as it has steps, so the numbers of the rest fit on
      have hlength : r.path.mentions.length = r.steps.length := by
        rw [Reference.steps_eq hr, List.length_map]
      have hrest := ih hrs (fun k t ht => hf k t (List.mem_cons_of_mem _ ht))
        (k + r.path.mentions.length)
      rw [gather, hf k r List.mem_cons_self, hrest, List.flatMap_cons, List.zipIdx_append,
        List.filterMap_append, hlength, Nat.add_right_comm]

theorem flatMap_gather_eq (f : Nat → Reference → List γ) (g : γ → List δ) (k : Nat)
    (rs : List Reference) :
    (gather f k rs).flatMap g = gather (fun k r => (f k r).flatMap g) k rs := by
  induction rs generalizing k with
  | nil => rfl
  | cons r rs ih => rw [gather, List.flatMap_append, ih, gather]

/-- What is gathered in one account has its counterpart in another, if this is so for every
mention. -/
theorem mem_gather_of {f : Nat → Reference → List γ} {g : Nat → Reference → List δ} {h : γ → δ}
    {rs : List Reference} (hfg : ∀ k, ∀ r ∈ rs, ∀ a ∈ f k r, h a ∈ g k r) {k : Nat} {a : γ}
    (ha : a ∈ gather f k rs) : h a ∈ gather g k rs := by
  induction rs generalizing k with
  | nil => cases ha
  | cons r rs ih =>
      rw [gather, List.mem_append] at ha ⊢
      refine ha.imp (hfg k r List.mem_cons_self a) fun ha => ih (fun k t ht => ?_) ha
      exact hfg k t (List.mem_cons_of_mem _ ht)

/-- What holds of all that is gathered for each mention holds of all that is gathered. -/
theorem forall_mem_gather {f : Nat → Reference → List γ} {P : γ → Prop} {rs : List Reference}
    (hf : ∀ k, ∀ r ∈ rs, ∀ a ∈ f k r, P a) (k : Nat) : ∀ a ∈ gather f k rs, P a := by
  induction rs generalizing k with
  | nil => simp [gather]
  | cons r rs ih =>
      rw [gather, List.forall_mem_append]
      exact ⟨hf k r List.mem_cons_self, ih (fun k t ht => hf k t (List.mem_cons_of_mem _ ht)) _⟩

theorem forall₂_gather {F : Nat → Reference → γ} {R : Reference → γ → Prop} {rs : List Reference}
    (hF : ∀ k, ∀ r ∈ rs, R r (F k r)) (k : Nat) :
    List.Forall₂ R rs (gather (fun k r => [F k r]) k rs) := by
  induction rs generalizing k with
  | nil => exact .nil
  | cons r rs ih =>
      exact .cons (hF k r List.mem_cons_self)
        (ih (fun k t ht => hF k t (List.mem_cons_of_mem _ ht)) _)

/-- An element is all that a filter for its key finds, if keys increase. -/
theorem filter_key_eq_singleton {key : γ → Nat} {as : List γ}
    (hkeys : (as.map key).Pairwise (· < ·)) {a : γ} (ha : a ∈ as) :
    as.filter (fun b => key b = key a) = [a] := by
  induction as with
  | nil => cases ha
  | cons b as ih =>
      rw [List.map_cons, List.pairwise_cons] at hkeys
      obtain ⟨hfirst, hrest⟩ := hkeys
      rcases List.mem_cons.mp ha with rfl | ha
      · have hnone : as.filter (fun b => key b = key a) = [] := by
          rw [List.filter_eq_nil_iff]
          intro b hb
          have hlt := hfirst (key b) (List.mem_map_of_mem hb)
          simpa using Nat.ne_of_gt hlt
        rw [List.filter_cons_of_pos (by simp), hnone]
      · have hlt := hfirst (key a) (List.mem_map_of_mem ha)
        rw [List.filter_cons_of_neg (by simpa using Nat.ne_of_lt hlt), ih hrest ha]

/-- What is read off a numbered row under its own numbers is in the order of these numbers. -/
theorem pairwise_filterMap_zipIdx {g : δ × Nat → Option γ} {key : γ → Nat}
    (hg : ∀ a b, g a = some b → key b = a.2) (as : List δ) (k : Nat) :
    (((as.zipIdx k).filterMap g).map key).Pairwise (· < ·) := by
  have hrow : (as.zipIdx k).Pairwise fun a b => a.2 < b.2 := by
    rw [← List.pairwise_map, List.zipIdx_map_snd]
    exact List.pairwise_lt_range'
  rw [List.pairwise_map, List.pairwise_filterMap]
  refine hrow.imp fun {a b} hlt c hc d hd => ?_
  rw [hg a c hc, hg b d hd]
  exact hlt

end Rows

/-! ### Mentions -/

section Mentions

variable {options : CompileOptions} {k : Nat} {r : Reference}

theorem RowSource.nodes_behind (inner : RowSource) (first : Nat) (tags : List String) :
    (inner.behind first tags).nodes =
      inner.nodes ++ (tags.zipIdx first).map fun t => (t.2, t.1) := by
  induction tags generalizing inner first with
  | nil => simp [behind]
  | cons tag tags ih => simp [behind, ih, nodes]

theorem RowSource.tags_behind (inner : RowSource) (first : Nat) (tags : List String) :
    (inner.behind first tags).tags = tags.reverse ++ inner.tags := by
  induction tags generalizing inner first with
  | nil => simp [behind]
  | cons tag tags ih => simp [behind, ih, RowSource.tags]

theorem RowSource.depth_behind (inner : RowSource) (first : Nat) (tags : List String) :
    (inner.behind first tags).depth = tags.length + inner.depth := by
  induction tags generalizing inner first with
  | nil => simp [behind]
  | cons tag tags ih =>
      rw [behind, ih, depth, List.length_cons]
      omega

theorem RowSource.dispatches_behind (inner : RowSource) (first : Nat) (tags : List String) :
    (inner.behind first tags).dispatches = inner.dispatches := by
  induction tags generalizing inner first with
  | nil => rfl
  | cons tag tags ih => rw [behind, ih, dispatches]

theorem RowSource.lookups_behind (inner : RowSource) (first : Nat) (tags : List String) :
    (inner.behind first tags).lookups = inner.lookups := by
  induction tags generalizing inner first with
  | nil => rfl
  | cons tag tags ih => rw [behind, ih, lookups]

namespace Reference

theorem nodes_last (options : CompileOptions) (k : Nat) (r : Reference) :
    (r.last options k).nodes = [(k + 1, r.path.terminal)] := by
  rw [last]
  split <;> rfl

theorem tags_last (options : CompileOptions) (k : Nat) (r : Reference) :
    (r.last options k).tags = [r.path.terminal] := by
  rw [last]
  split <;> rfl

theorem depth_last (options : CompileOptions) (k : Nat) (r : Reference) :
    (r.last options k).depth = 1 := by
  rw [last]
  split <;> rfl

theorem atomNodes_numbered (options : CompileOptions) (k : Nat) (r : Reference) :
    (r.numbered options k).atomNodes =
      (r.path.mentions.zipIdx (k + 1)).map fun t => (t.2, t.1) := by
  by_cases hchain : r.path.isChain
  · rw [numbered, if_pos hchain, Predicate.atomNodes, RowSource.nodes_behind, nodes_last,
      Path.mentions, List.zipIdx_cons, List.map_cons, List.singleton_append]
  · rw [numbered, if_neg hchain, Path.mentions_of_not_isChain hchain]
    split <;> rfl

/-- The atom of a mention goes along its path. -/
theorem speltBy_numbered (options : CompileOptions) (k : Nat) (h : r.path.segments ≠ []) :
    r.SpeltBy (r.numbered options k) := by
  have hsegments := Path.dropLast_append_terminal h
  by_cases hchain : r.path.isChain
  · rw [numbered, if_pos hchain, SpeltBy, RowSource.tags_behind, tags_last,
      RowSource.depth_behind, depth_last, List.reverse_reverse, List.length_reverse]
    exact ⟨hsegments, by simpa using congrArg List.length hsegments⟩
  · rw [Path.dropLast_of_not_isChain hchain, List.nil_append] at hsegments
    rw [numbered, if_neg hchain]
    split
    · exact ⟨hsegments, by rw [← hsegments]; rfl⟩
    · rename_i c hc
      exact ⟨hsegments.symm, by rw [hc]; rfl⟩

theorem mention_of_mem_atomDispatches {p : Nat × Dispatch}
    (hp : p ∈ (r.numbered options k).atomDispatches) : p.2.mention = p.1 := by
  by_cases hchain : r.path.isChain
  · rw [numbered, if_pos hchain, Predicate.atomDispatches, RowSource.dispatches_behind, last] at hp
    split at hp
    · cases hp
    · obtain rfl := List.mem_singleton.mp hp
      rfl
  · rw [numbered, if_neg hchain] at hp
    split at hp
    · cases hp
    · obtain rfl := List.mem_singleton.mp hp
      rfl

theorem atomTests_numbered (options : CompileOptions) (k : Nat) (r : Reference) :
    (r.numbered options k).atomTests =
      (r.lookups options k).flatMap fun l => [(l.mention, l.tag)] := by
  rw [numbered, lookups]
  by_cases hchain : r.path.isChain
  · simp [hchain, Predicate.atomTests]
  · cases hc : r.condition with
    | none => simp [hchain, Predicate.atomTests]
    | some c => simp [hchain, Predicate.atomTests]

/-- The walk that a lookup of a tag would read is added with the lookup. -/
theorem mem_closures_of_isSome (hsource : options.kindSource = .hierarchy)
    (h : r.condition.isSome) : ⟨k + 1, r.path.terminal⟩ ∈ r.closures options k := by
  rw [closures, closuresFrom, if_pos ⟨h, hsource⟩, Path.mentions, List.zipIdx_cons, List.map_cons]
  exact List.mem_cons_self

theorem walk_mem_of_mem_lookups (hsource : options.kindSource = .hierarchy) {l : Lookup}
    (hl : l ∈ r.lookups options k) : ⟨l.mention, l.tag⟩ ∈ r.closures options k := by
  rw [lookups] at hl
  split at hl
  · rename_i h
    obtain rfl := List.mem_singleton.mp hl
    exact mem_closures_of_isSome hsource h.1
  · cases hl

theorem tag_of_mem_atomLookups {p : String × Lookup}
    (hp : p ∈ (r.numbered options k).atomLookups) :
    p.2.tag = p.1 ∧ p.2 = ⟨k + 1, r.path.terminal, options.kindSource⟩ ∧ r.condition.isSome := by
  by_cases hchain : r.path.isChain
  · rw [numbered, if_pos hchain, Predicate.atomLookups, RowSource.lookups_behind, last] at hp
    split at hp
    · cases hp
    · rename_i c hc
      obtain rfl := List.mem_singleton.mp hp
      exact ⟨rfl, rfl, by rw [hc]; rfl⟩
  · rw [numbered, if_neg hchain] at hp
    split at hp <;> cases hp

theorem walk_mem_of_mem_atomLookups (hsource : options.kindSource = .hierarchy)
    {p : String × Lookup} (hp : p ∈ (r.numbered options k).atomLookups) :
    ⟨p.2.mention, p.2.tag⟩ ∈ r.closures options k := by
  obtain ⟨-, hlookup, hcondition⟩ := tag_of_mem_atomLookups hp
  rw [hlookup]
  exact mem_closures_of_isSome hsource hcondition

theorem atoms_numbered (options : CompileOptions) (k : Nat) (r : Reference) :
    (r.numbered options k).atoms = [r.numbered options k] := by
  rw [numbered]
  split
  · rfl
  · split <;> rfl

/-! The three accounts of a mention, read off its numbered tags. -/

theorem nodes_numbered (options : CompileOptions) (k : Nat) (h : r.path.segments ≠ []) :
    (r.numbered options k).atomNodes =
      (r.steps.zipIdx (k + 1)).filterMap fun s => some (s.2, s.1.tag) := by
  rw [atomNodes_numbered, steps_eq h, List.zipIdx_map, List.filterMap_map, ← List.filterMap_eq_map]
  rfl

theorem closures_numbered (options : CompileOptions) (k : Nat) (h : r.path.segments ≠ []) :
    r.closures options k = (r.steps.zipIdx (k + 1)).filterMap fun s =>
      if s.1.reference.condition.isSome ∧ options.kindSource = .hierarchy then
        some ⟨s.2, s.1.tag⟩
      else none := by
  rw [closures, closuresFrom, steps_eq h, List.zipIdx_map, List.filterMap_map]
  split
  · rename_i hwalk
    rw [← List.filterMap_eq_map]
    refine List.filterMap_congr fun s _ => ?_
    exact (if_pos hwalk).symm
  · rename_i hwalk
    symm
    rw [List.filterMap_eq_nil_iff]
    exact fun s _ => if_neg hwalk

theorem lookups_numbered (options : CompileOptions) (k : Nat) (h : r.path.segments ≠ []) :
    r.lookups options k = (r.steps.zipIdx (k + 1)).filterMap fun s =>
      if s.1.reference.condition.isSome ∧ !s.1.reference.path.isChain then
        some ⟨s.2, s.1.tag, options.kindSource⟩
      else none := by
  rw [lookups, steps_eq h, List.zipIdx_map, List.filterMap_map]
  split
  · rename_i hown
    rw [Path.mentions_of_not_isChain (by simpa using hown.2)]
    simp [hown.1, show r.path.isChain = false by simpa using hown.2]
  · rename_i hown
    symm
    rw [List.filterMap_eq_nil_iff]
    exact fun s _ => if_neg hown

end Reference

end Mentions

/-! ### Filters -/

namespace Expr

mutual

/-- The atoms of a numbered filter are its numbered mentions. -/
theorem atoms_numbered (options : CompileOptions) : ∀ (e : Expr) (k : Nat),
    (e.numbered options k).atoms = gather (fun k r => [r.numbered options k]) k e.references
  | .or operands, k | .and operands, k => by
      rw [numbered, Predicate.atoms, references, atomsOfAll_numberedAll options operands k]
  | .paren inner, k => by
      rw [numbered, Predicate.atoms, references, atoms_numbered options inner k]
  | .missing path, k => by
      rw [numbered, Predicate.atoms, references, Reference.atoms_numbered]
      rfl
  | .has path, k | .compare path op value, k | .member path values, k => by
      rw [numbered, references, Reference.atoms_numbered]
      rfl

theorem atomsOfAll_numberedAll (options : CompileOptions) : ∀ (es : List Expr) (k : Nat),
    Predicate.atomsOfAll (numberedAll options k es) =
      gather (fun k r => [r.numbered options k]) k (referencesOfAll es)
  | [], k => rfl
  | e :: rest, k => by
      rw [numberedAll, Predicate.atomsOfAll, referencesOfAll, gather_append,
        atoms_numbered options e k, atomsOfAll_numberedAll options rest]

end

/-- What is read off the atoms is gathered from the mentions. -/
theorem flatMap_atoms_numbered {γ : Type} (options : CompileOptions) (e : Expr)
    (g : Predicate → List γ) :
    (e.numbered options 0).atoms.flatMap g =
      gather (fun k r => g (r.numbered options k)) 0 e.references := by
  rw [atoms_numbered, flatMap_gather_eq]
  simp only [List.flatMap_cons, List.flatMap_nil, List.append_nil]

end Expr

/-- The accounts of a compiled filter agree with the filter and with each other. -/
structure CompiledFilter.Scoped (options : CompileOptions) (e : Expr) (f : CompiledFilter) :
    Prop where
  /-- There are as many aliases as tags. -/
  aliases_eq : f.aliases = e.steps.length
  /-- The aliases of the predicate belong to the tags of the filter, one after the other. -/
  nodes_eq : f.predicate.nodes = (e.steps.zipIdx 1).map fun s => (s.2, s.1.tag)
  /-- An alias stands at one place, and there with its tag. -/
  node_unique : ∀ i s, e.steps[i]? = some s →
    f.predicate.nodes.filter (fun n => n.1 = i + 1) = [(i + 1, s.tag)]
  /-- The atoms of the predicate go along the paths of the mentions, one after the other. -/
  spelt : List.Forall₂ Reference.SpeltBy e.references f.predicate.atoms
  /-- The lookups are those of the tags that are tested on the entity's own rows. -/
  lookups_eq : f.lookups.map (fun l => (l.mention, l.tag)) = f.predicate.tests
  /-- Such a test finds one lookup under its alias, and this for its tag. -/
  lookup_unique : ∀ n tag, (n, tag) ∈ f.predicate.tests →
    f.lookups.filter (fun l => l.mention = n) = [⟨n, tag, options.kindSource⟩]
  /-- A test reads rows and ancestors under the alias of its place. -/
  dispatch_mention : ∀ d ∈ f.predicate.dispatches, d.2.mention = d.1
  /-- A lookup within the predicate is for the tag of its place. -/
  inline_tag : ∀ l ∈ f.predicate.inlineLookups, l.2.tag = l.1
  /-- Walks are in the order of their aliases. -/
  closures_increase : (f.closures.map Closure.mention).Pairwise (· < ·)
  /-- Where ancestors are found by walking, the walks are those from the tags of mentions with a
  condition. -/
  mem_closures : options.kindSource = .hierarchy → ∀ n tag, ⟨n, tag⟩ ∈ f.closures ↔
    ∃ i s, n = i + 1 ∧ e.steps[i]? = some s ∧ s.tag = tag ∧ s.reference.condition.isSome
  /-- Then a lookup finds one walk under its alias, and this from its tag. -/
  walk_unique : options.kindSource = .hierarchy →
    ∀ l ∈ f.lookups ++ f.predicate.inlineLookups.map Prod.snd,
      f.closures.filter (fun c => c.mention = l.mention) = [⟨l.mention, l.tag⟩]
  /-- Where ancestors are listed, there are no walks. -/
  closures_nil : options.kindSource = .parentsView → f.closures = []

section Accounts

variable {options : CompileOptions} {e : Expr}

/-- All paths of the filter have a tag. -/
abbrev Expr.HasPaths (e : Expr) : Prop :=
  ∀ r ∈ e.references, r.path.segments ≠ []

theorem nodes_numbered (h : e.HasPaths) :
    (e.numbered options 0).nodes = (e.steps.zipIdx 1).map fun s => (s.2, s.1.tag) := by
  rw [Predicate.nodes, Expr.flatMap_atoms_numbered, ← List.filterMap_eq_map]
  exact gather_eq_filterMap_zipIdx h (fun k r hr => r.nodes_numbered options k (h r hr)) 0

theorem closures_numbered (h : e.HasPaths) :
    gather (Reference.closures options) 0 e.references = (e.steps.zipIdx 1).filterMap fun s =>
      if s.1.reference.condition.isSome ∧ options.kindSource = .hierarchy then
        some ⟨s.2, s.1.tag⟩
      else none :=
  gather_eq_filterMap_zipIdx h (fun k r hr => r.closures_numbered options k (h r hr)) 0

theorem lookups_numbered (h : e.HasPaths) :
    gather (Reference.lookups options) 0 e.references = (e.steps.zipIdx 1).filterMap fun s =>
      if s.1.reference.condition.isSome ∧ !s.1.reference.path.isChain then
        some ⟨s.2, s.1.tag, options.kindSource⟩
      else none :=
  gather_eq_filterMap_zipIdx h (fun k r hr => r.lookups_numbered options k (h r hr)) 0

theorem tests_numbered :
    (gather (Reference.lookups options) 0 e.references).map (fun l => (l.mention, l.tag)) =
      (e.numbered options 0).tests := by
  rw [Predicate.tests, Expr.flatMap_atoms_numbered, List.map_eq_flatMap, flatMap_gather_eq]
  simp only [Reference.atomTests_numbered]

theorem widthOf_eq_length_steps (h : e.HasPaths) : widthOf e.references = e.steps.length := by
  have hlength : ∀ r ∈ e.references, r.path.mentions.length = r.steps.length := fun r hr => by
    rw [Reference.steps_eq (h r hr), List.length_map]
  rw [widthOf, Expr.steps, List.length_flatMap, List.length_flatMap]
  exact congrArg List.sum (List.map_congr_left hlength)

theorem nodes_increase (h : e.HasPaths) :
    ((e.numbered options 0).nodes.map Prod.fst).Pairwise (· < ·) := by
  rw [nodes_numbered h, List.map_map]
  exact (List.zipIdx_map_snd 1 e.steps) ▸ List.pairwise_lt_range'

theorem closures_increase (h : e.HasPaths) :
    ((gather (Reference.closures options) 0 e.references).map Closure.mention).Pairwise
      (· < ·) := by
  rw [closures_numbered h]
  refine pairwise_filterMap_zipIdx (fun a c hc => ?_) _ _
  split at hc
  · obtain rfl := Option.some.inj hc
    rfl
  · cases hc

theorem lookups_increase (h : e.HasPaths) :
    ((gather (Reference.lookups options) 0 e.references).map Lookup.mention).Pairwise
      (· < ·) := by
  rw [lookups_numbered h]
  refine pairwise_filterMap_zipIdx (fun a l hl => ?_) _ _
  split at hl
  · obtain rfl := Option.some.inj hl
    rfl
  · cases hl

theorem source_of_mem_lookups {l : Lookup}
    (hl : l ∈ gather (Reference.lookups options) 0 e.references) :
    l.source = options.kindSource := by
  refine forall_mem_gather (P := fun l => l.source = options.kindSource) (fun k r _ l hl => ?_) 0
    l hl
  rw [Reference.lookups] at hl
  split at hl
  · obtain rfl := List.mem_singleton.mp hl
    rfl
  · cases hl

theorem mem_closures_iff (h : e.HasPaths) (hsource : options.kindSource = .hierarchy) {n : Nat}
    {tag : String} : ⟨n, tag⟩ ∈ gather (Reference.closures options) 0 e.references ↔
      ∃ i s, n = i + 1 ∧ e.steps[i]? = some s ∧ s.tag = tag ∧ s.reference.condition.isSome := by
  rw [closures_numbered h, List.mem_filterMap]
  simp only [hsource, and_true, Prod.exists, List.mem_zipIdx_iff_le_and_getElem?_sub,
    Option.ite_none_right_eq_some, Option.some.injEq, Closure.mk.injEq]
  constructor
  · rintro ⟨s, m, ⟨hle, hs⟩, hcondition, rfl, rfl⟩
    exact ⟨m - 1, s, by omega, hs, rfl, hcondition⟩
  · rintro ⟨i, s, rfl, hs, rfl, hcondition⟩
    exact ⟨s, i + 1, ⟨by omega, by simpa using hs⟩, hcondition, rfl, rfl⟩

/-- Every lookup has its walk, wherever the lookup stands. -/
theorem walk_mem_closures (hsource : options.kindSource = .hierarchy) {l : Lookup}
    (hl : l ∈ gather (Reference.lookups options) 0 e.references ++
      (e.numbered options 0).inlineLookups.map Prod.snd) :
    ⟨l.mention, l.tag⟩ ∈ gather (Reference.closures options) 0 e.references := by
  -- lookups of the entity's own rows stand ahead of the predicate, those behind a path within it
  rcases List.mem_append.mp hl with hl | hl
  · exact mem_gather_of (g := Reference.closures options) (h := fun l => ⟨l.mention, l.tag⟩)
      (fun k r _ l hl => Reference.walk_mem_of_mem_lookups hsource hl) hl
  · obtain ⟨p, hp, rfl⟩ := List.mem_map.mp hl
    rw [Predicate.inlineLookups, Expr.flatMap_atoms_numbered] at hp
    exact mem_gather_of (g := Reference.closures options) (h := fun p => ⟨p.2.mention, p.2.tag⟩)
      (fun k r _ p hp => Reference.walk_mem_of_mem_atomLookups hsource hp) hp

end Accounts

/-- **The accounts of a compiled filter agree** with the filter and with each other, if all paths
have a tag. -/
theorem CompiledFilter.scoped_of_compileExpr {options : CompileOptions} {e : Expr}
    {f : CompiledFilter} (hpaths : ∀ r ∈ e.references, r.path.segments ≠ [])
    (hf : compileExpr options e = .ok f) : f.Scoped options e := by
  obtain ⟨-, -, rfl⟩ := compileExpr_eq_ok_iff.mp hf
  refine
    { aliases_eq := ?_
      nodes_eq := nodes_numbered hpaths
      node_unique := fun i s hs => ?_
      spelt := ?_
      lookups_eq := tests_numbered
      lookup_unique := fun n tag hn => ?_
      dispatch_mention := ?_
      inline_tag := ?_
      closures_increase := closures_increase hpaths
      mem_closures := fun hsource n tag => mem_closures_iff hpaths hsource
      walk_unique := fun hsource l hl => ?_
      closures_nil := fun hsource => ?_ }
  · exact widthOf_eq_length_steps hpaths
  -- uniqueness is always that of a key in a row of increasing keys
  · refine filter_key_eq_singleton (a := (i + 1, s.tag)) (nodes_increase hpaths) ?_
    rw [nodes_numbered hpaths, List.mem_map]
    exact ⟨(s, i + 1), List.mem_zipIdx_iff_le_and_getElem?_sub.mpr ⟨by omega, hs⟩, rfl⟩
  · rw [Expr.atoms_numbered]
    exact forall₂_gather (fun k r hr => r.speltBy_numbered options k (hpaths r hr)) 0
  · rw [← tests_numbered, List.mem_map] at hn
    obtain ⟨l, hl, hkey⟩ := hn
    obtain ⟨rfl, rfl⟩ := Prod.mk.inj hkey
    rw [← source_of_mem_lookups hl]
    exact filter_key_eq_singleton (lookups_increase hpaths) hl
  · rw [Predicate.dispatches, Expr.flatMap_atoms_numbered]
    exact forall_mem_gather (fun k r _ d hd => Reference.mention_of_mem_atomDispatches hd) 0
  · rw [Predicate.inlineLookups, Expr.flatMap_atoms_numbered]
    exact forall_mem_gather (fun k r _ l hl => (Reference.tag_of_mem_atomLookups hl).1) 0
  · exact filter_key_eq_singleton (closures_increase hpaths) (walk_mem_closures hsource hl)
  · rw [closures_numbered hpaths, List.filterMap_eq_nil_iff]
    exact fun s _ => if_neg (by simp [hsource])

/-- Four aliases are drawn for `a and b == true or c->d == 2`, and the last three have walks. -/
theorem CompiledFilter.scoped_of_three_mentions :
    ∃ f, compileExpr {} (.or [.and [.has ⟨["a"]⟩, .compare ⟨["b"]⟩ .eq (.bool true)],
      .compare ⟨["c", "d"]⟩ .eq (.number "2")]) = .ok f ∧
      f.predicate.nodes = [(1, "a"), (2, "b"), (3, "d"), (4, "c")] ∧
      f.closures = [⟨2, "b"⟩, ⟨3, "d"⟩, ⟨4, "c"⟩] ∧
      f.Scoped {} (.or [.and [.has ⟨["a"]⟩, .compare ⟨["b"]⟩ .eq (.bool true)],
        .compare ⟨["c", "d"]⟩ .eq (.number "2")]) :=
  ⟨_, rfl, rfl, rfl, scoped_of_compileExpr (by simp [Expr.references, Expr.referencesOfAll]) rfl⟩

end EntityFilter
