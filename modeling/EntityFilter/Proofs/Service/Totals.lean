import EntityFilter.Proofs.Service.Grouping
import EntityFilter.Service.Observation

/-!
# The totals of counters

Events change counters, and `Observation.totals` is what comes of many events: each counter that
changed, with the sum of its changes.  A counter has a name and labels, and is known by one text.
What happens to all counters of a name is `Observation.growth`, whatever their labels are.

**A name has its own totals** (`Observation.growth_eq`): they are the sums of the changes of its own
counters.  Where different counters go up by one each, they are just these changes
(`Observation.growth_eq_map`).
-/

namespace EntityFilter

theorem filter_eraseDups {α : Type} [DecidableEq α] (p : α → Bool) (xs : List α) :
    xs.eraseDups.filter p = (xs.filter p).eraseDups := by
  induction xs using List.reverseRecOn with
  | nil => rfl
  | append_singleton xs x ih =>
      rw [eraseDups_concat, List.filter_append]
      by_cases hx : p x
      · have hlast : [x].filter p = [x] := by simp [hx]
        have hmem : x ∈ xs.filter p ↔ x ∈ xs := by simp [hx]
        rw [hlast, eraseDups_concat, if_congr hmem rfl rfl, ← ih]
        split
        · rfl
        · rw [List.filter_append, hlast]
      · have hlast : [x].filter p = [] := by simp [hx]
        rw [hlast, List.append_nil, ← ih]
        split
        · rfl
        · rw [List.filter_append, hlast, List.append_nil]

theorem eraseDups_of_nodup {α : Type} [DecidableEq α] {xs : List α} (h : xs.Nodup) :
    xs.eraseDups = xs := by
  induction xs using List.reverseRecOn with
  | nil => rfl
  | append_singleton xs x ih =>
      rw [List.nodup_append] at h
      obtain ⟨hxs, -, hapart⟩ := h
      have hx : x ∉ xs := fun hmem => hapart x hmem x List.mem_cons_self rfl
      rw [eraseDups_concat, if_neg hx, ih hxs]

namespace Observation

/-! ### Sums of changes -/

/-- The sum of the changes of one counter. -/
def sumAt (changes : List (String × Int)) (key : String) : Int :=
  (changes.filter fun c => c.1 == key).foldl (fun total c => total + c.2) 0

/-- The counters that change, with the sums of their changes. -/
def sumUp (changes : List (String × Int)) : List (String × Int) :=
  ((changes.map Prod.fst).eraseDups.map fun key => (key, sumAt changes key)).filter
    fun c => c.2 != 0

theorem totals_eq (events : List Observation) :
    totals events = sumUp (events.flatMap changes) := rfl

/-- The sums of some counters are those of their own changes. -/
theorem filter_sumUp (p : String → Bool) (changes : List (String × Int)) :
    (sumUp changes).filter (fun c => p c.1) = sumUp (changes.filter fun c => p c.1) := by
  have hkeys : (changes.map Prod.fst).filter p =
      (changes.filter fun c => p c.1).map Prod.fst := by
    rw [List.filter_map]
    rfl
  have hsum : ∀ key, p key → sumAt (changes.filter fun c => p c.1) key = sumAt changes key := by
    intro key hkey
    rw [sumAt, sumAt, List.filter_filter]
    congr 1
    refine List.filter_congr fun c _ => ?_
    by_cases hc : c.1 = key
    · simp [hc, hkey]
    · simp [hc]
  rw [sumUp, sumUp, List.filter_comm, List.filter_map, ← hkeys, ← filter_eraseDups]
  congr 1
  refine List.map_congr_left fun key hkey => ?_
  rw [hsum key (List.mem_filter.mp hkey).2]

theorem sumAt_of_nodup {changes : List (String × Int)} (h : (changes.map Prod.fst).Nodup)
    {c : String × Int} (hc : c ∈ changes) : sumAt changes c.1 = c.2 := by
  have hother : ∀ {rest : List (String × Int)} {key : String}, key ∉ rest.map Prod.fst →
      rest.filter (fun c => c.1 == key) = [] := by
    intro rest key hkey
    refine List.filter_eq_nil_iff.mpr fun b hb heq => hkey ?_
    exact beq_iff_eq.mp heq ▸ List.mem_map_of_mem hb
  induction changes with
  | nil => cases hc
  | cons b rest ih =>
      rw [List.map_cons, List.nodup_cons] at h
      obtain ⟨hfirst, hrest⟩ := h
      rcases List.mem_cons.mp hc with rfl | hmem
      · rw [sumAt, List.filter_cons_of_pos (by simp), hother hfirst]
        simp
      · have hne : ¬ (b.1 == c.1) = true := fun heq =>
          hfirst (beq_iff_eq.mp heq ▸ List.mem_map_of_mem hmem)
        have hskip : (b :: rest).filter (fun d => d.1 == c.1) = rest.filter fun d => d.1 == c.1 :=
          List.filter_cons_of_neg hne
        rw [sumAt, hskip]
        exact ih hrest hmem

/-- Changes of different counters are their sums. -/
theorem sumUp_of_nodup {changes : List (String × Int)} (h : (changes.map Prod.fst).Nodup)
    (hne : ∀ c ∈ changes, c.2 ≠ 0) : sumUp changes = changes := by
  have hsums : ((changes.map Prod.fst).map fun key => (key, sumAt changes key)) = changes := by
    rw [List.map_map]
    refine (List.map_congr_left fun c hc => ?_).trans (List.map_id changes)
    rw [Function.comp_apply, sumAt_of_nodup h hc]
    rfl
  rw [sumUp, eraseDups_of_nodup h, hsums]
  exact List.filter_eq_self.mpr fun c hc => by simpa using hne c hc

/-! ### Names of counters -/

/-- The name of a counter, which stands in front of its labels. -/
def nameOf (key : String) : String :=
  String.ofList (key.toList.takeWhile (· != '\x7b'))

theorem nameOf_counter {name : String} (h : '\x7b' ∉ name.toList)
    (labels : List (String × String)) : nameOf (counter name labels) = name := by
  have hname : ∀ c ∈ name.toList, (c != '\x7b') = true := by
    intro c hc
    simp only [bne_iff_ne, ne_eq]
    rintro rfl
    exact h hc
  have hbrace : "\x7b".toList = ['\x7b'] := by decide
  rw [nameOf, counter, String.toList_append, String.toList_append, String.toList_append, hbrace,
    List.append_assoc, List.append_assoc, List.takeWhile_append_of_pos hname]
  simp

/-- How the counters of a name change in the course of events: each one that did, with the sum of
its changes. -/
def growth (name : String) (events : List Observation) : List (String × Int) :=
  (totals events).filter fun c => nameOf c.1 == name

/-- The changes of the counters of a name by an event. -/
def posts (name : String) (o : Observation) : List (String × Int) :=
  o.changes.filter fun c => nameOf c.1 == name

/-- The change of a counter, if it has the name `name`. -/
def post (name own : String) (labels : List (String × String)) (amount : Int) :
    List (String × Int) :=
  if own = name then [(counter own labels, amount)] else []

theorem post_self (name : String) (labels : List (String × String)) (amount : Int) :
    post name name labels amount = [(counter name labels, amount)] :=
  if_pos rfl

theorem post_of_ne {name own : String} (h : own ≠ name) (labels : List (String × String))
    (amount : Int) : post name own labels amount = [] :=
  if_neg h

theorem filter_counter {own : String} (h : '\x7b' ∉ own.toList) (name : String)
    (labels : List (String × String)) (amount : Int) (rest : List (String × Int)) :
    ((counter own labels, amount) :: rest).filter (fun c => nameOf c.1 == name) =
      post name own labels amount ++ rest.filter fun c => nameOf c.1 == name := by
  by_cases hname : own = name
  · subst hname
    rw [post_self, List.filter_cons_of_pos (by simp [nameOf_counter h])]
    rfl
  · rw [post_of_ne hname, List.filter_cons_of_neg (by simp [nameOf_counter h, hname])]
    rfl

section Posts

variable (name method route : String)

theorem posts_compilation (error : Option QueryError) :
    posts name (.compilation error) =
      post name "tagql_filter_compilations_total" [("outcome", outcome error)] 1 := by
  rw [posts, changes, filter_counter (by decide), List.filter_nil, List.append_nil]

theorem posts_aliases (source : KindSource) (count : Nat) :
    posts name (.aliases source count) =
      post name "tagql_filter_aliases_count" [("kind_source", source.name)] 1 ++
        post name "tagql_filter_aliases_sum" [("kind_source", source.name)] count := by
  rw [posts, changes, filter_counter (by decide), filter_counter (by decide), List.filter_nil,
    List.append_nil]

theorem posts_statement (kind : StatementKind) (failed : Bool) :
    posts name (.statement kind failed) =
      post name "tagql_db_query_duration_seconds_count" [("query_type", kind.label)] 1 ++
        if failed then post name "tagql_db_query_errors_total" [("query_type", kind.label)] 1
        else [] := by
  rw [posts, changes, filter_counter (by decide)]
  cases failed with
  | false => rfl
  | true =>
      rw [if_pos rfl, if_pos rfl, filter_counter (by decide), List.filter_nil, List.append_nil]

theorem posts_results (operation : Operation) (count : Nat) :
    posts name (.results operation count) =
      post name "tagql_filter_results_count" [("endpoint", operation.label)] 1 ++
        post name "tagql_filter_results_sum" [("endpoint", operation.label)] count := by
  rw [posts, changes, filter_counter (by decide), filter_counter (by decide), List.filter_nil,
    List.append_nil]

theorem posts_arrival :
    posts name (.arrival method route) =
      post name "tagql_http_requests_in_flight" [("method", method), ("route", route)] 1 := by
  rw [posts, changes, filter_counter (by decide), List.filter_nil, List.append_nil]

theorem posts_requestSize (bytes : Double) :
    posts name (.requestSize method route bytes) =
      post name "tagql_http_request_size_bytes_count" [("method", method), ("route", route)] 1 ++
        post name "tagql_http_request_size_bytes_sum" [("method", method), ("route", route)]
          (wholeBytes bytes) := by
  rw [posts, changes, filter_counter (by decide), filter_counter (by decide), List.filter_nil,
    List.append_nil]

theorem posts_request (status : Nat) :
    posts name (.request method route status) =
      post name "tagql_http_requests_total"
        [("method", method), ("route", route), ("status", Text.natural status)] 1 ++
        (post name "tagql_http_request_duration_seconds_count"
          [("method", method), ("route", route)] 1 ++
        post name "tagql_http_requests_in_flight" [("method", method), ("route", route)] (-1)) := by
  rw [posts, changes, filter_counter (by decide), filter_counter (by decide),
    filter_counter (by decide), List.filter_nil, List.append_nil]
  rfl

end Posts

/-- **The totals of a name are the sums of its own changes.** -/
theorem growth_eq (name : String) (events : List Observation) :
    growth name events = sumUp (events.flatMap (posts name)) := by
  rw [growth, totals_eq, filter_sumUp fun key => nameOf key == name, List.filter_flatMap]
  rfl

/-- Counters that each go up by one, and no two of which are the same. -/
theorem growth_eq_map {γ : Type} {name : String} {events : List Observation} {l : List γ}
    {key : γ → String} (hposts : events.flatMap (posts name) = l.map fun c => (key c, 1))
    (h : (l.map key).Nodup) : growth name events = l.map fun c => (key c, 1) := by
  rw [growth_eq, hposts]
  refine sumUp_of_nodup ?_ ?_
  · rwa [List.map_map]
  · intro c hc
    obtain ⟨b, -, rfl⟩ := List.mem_map.mp hc
    exact Int.one_ne_zero

end Observation

end EntityFilter
