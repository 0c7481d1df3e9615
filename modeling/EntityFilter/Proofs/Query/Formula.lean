/-!
# Reading conditions with precedence

A condition in SQL is a row of words: atoms, `NOT`, `AND`, `OR` and parentheses.  `Sql.readWords`
reads it from left to right with a stack of what is still pending, where `NOT` binds tighter than
`AND`, and `AND` tighter than `OR`.  Before an operator is put on the stack, all that binds at least
as tight is filled in (`Sql.reduce`).

The strength of an operator is also that of a row of words (`Sql.ReadsAs`): terms are read at
strength 3, terms joined by `AND` at 2 and alternatives at 1.  **Rows that are joined are read as
the joined condition** (`ReadsAs.and`, `ReadsAs.or`, `ReadsAs.group`), if the strength of what is
joined allows it.
-/

namespace EntityFilter.Sql

/-- A condition of atoms. -/
inductive Formula
  | atom (text : String)
  | not (inner : Formula)
  | and (left right : Formula)
  | or (left right : Formula)
deriving DecidableEq, Repr

namespace Formula

/-- The atoms, from left to right. -/
def atoms : Formula → List String
  | atom text                      => [text]
  | not inner                      => inner.atoms
  | and left right | or left right => left.atoms ++ right.atoms

/-- The value of the condition, where `truth` gives the values of its atoms, the first of which has
the number `k`. -/
def evalFrom (truth : Nat → Bool) : Nat → Formula → Bool
  | k, atom _         => truth k
  | k, not inner      => !inner.evalFrom truth k
  | k, and left right => left.evalFrom truth k && right.evalFrom truth (k + left.atoms.length)
  | k, or left right  => left.evalFrom truth k || right.evalFrom truth (k + left.atoms.length)

end Formula

/-- A word of a condition. -/
inductive Word
  | atom (text : String)
  | not
  | and
  | or
  | opening
  | closing
deriving DecidableEq, Repr

/-- What waits for the condition that is being read. -/
inductive Pending
  | not
  | and (left : Formula)
  | or (left : Formula)
  /-- An open parenthesis. -/
  | group
deriving DecidableEq, Repr

namespace Pending

/-- How tight it binds. -/
def strength : Pending → Nat
  | not => 3 | and _ => 2 | or _ => 1 | group => 0

/-- The condition that was waited for, filled in. -/
def fill : Pending → Formula → Formula
  | not, c      => .not c
  | and left, c => .and left c
  | or left, c  => .or left c
  | group, c    => c

end Pending

/-- Fills in all that binds at least as tight as `s`. -/
def reduce (s : Nat) : List Pending → Formula → List Pending × Formula
  | [], c      => ([], c)
  | p :: ps, c => if s ≤ p.strength then reduce s ps (p.fill c) else (p :: ps, c)

/-- Where the reading of a condition stands. -/
inductive ReadState
  /-- A condition has to come. -/
  | operand (pending : List Pending)
  /-- A condition was read. -/
  | operator (pending : List Pending) (read : Formula)
deriving DecidableEq, Repr

namespace ReadState

/-- Reads one word. -/
def step : ReadState → Word → Option ReadState
  | operand ps, .atom text  => some (operator ps (.atom text))
  | operand ps, .not        => some (operand (.not :: ps))
  | operand ps, .opening    => some (operand (.group :: ps))
  | operator ps c, .and     => some (operand (.and (reduce 2 ps c).2 :: (reduce 2 ps c).1))
  | operator ps c, .or      => some (operand (.or (reduce 1 ps c).2 :: (reduce 1 ps c).1))
  | operator ps c, .closing =>
    match reduce 1 ps c with
    | (.group :: later, inner) => some (operator later inner)
    | _                        => none
  | _, _                    => none

/-- Reads words. -/
def run (s : ReadState) : List Word → Option ReadState
  | []        => some s
  | w :: rest => (s.step w).bind fun t => t.run rest

theorem run_append (s : ReadState) (ws vs : List Word) :
    s.run (ws ++ vs) = (s.run ws).bind fun t => t.run vs := by
  induction ws generalizing s with
  | nil => rfl
  | cons w ws ih =>
      rw [List.cons_append, run, run, Option.bind_assoc]
      congr 1
      funext t
      exact ih t

end ReadState

/-- The condition that the words are. -/
def readWords (ws : List Word) : Option Formula :=
  match (ReadState.operand []).run ws with
  | some (.operator ps c) =>
    match reduce 1 ps c with
    | ([], whole) => some whole
    | _           => none
  | _ => none

example : readWords [.not, .atom "a", .and, .atom "b", .or, .opening, .atom "c", .or, .atom "d",
    .closing, .and, .atom "e"] =
    some (.or (.and (.not (.atom "a")) (.atom "b"))
      (.and (.or (.atom "c") (.atom "d")) (.atom "e"))) := by decide

/-! ### Rows of words -/

/-- Nothing that binds as tight as `s` is pending. -/
def Opens (s : Nat) (ps : List Pending) : Prop :=
  ∀ p ∈ ps.head?, p.strength < s

theorem opens_cons {s : Nat} {p : Pending} {ps : List Pending} :
    Opens s (p :: ps) ↔ p.strength < s := by
  simp [Opens]

theorem Opens.reduce_eq {s : Nat} {ps : List Pending} (h : Opens s ps) (c : Formula) :
    reduce s ps c = (ps, c) := by
  cases ps with
  | nil => rfl
  | cons p ps => rw [reduce, if_neg (Nat.not_le.mpr (opens_cons.mp h))]

theorem reduce_cons {s : Nat} {p : Pending} (h : s ≤ p.strength) (ps : List Pending)
    (c : Formula) : reduce s (p :: ps) c = reduce s ps (p.fill c) := by
  rw [reduce, if_pos h]

/-- The words are read as `c`, where nothing that binds as tight as `s` is pending; it is certain
once something that binds no tighter than `s` comes. -/
def ReadsAs (s : Nat) (ws : List Word) (c : Formula) : Prop :=
  ∀ ps, Opens s ps → ∃ qs d, (ReadState.operand ps).run ws = some (.operator qs d) ∧
    ∀ t, 1 ≤ t → t ≤ s → reduce t qs d = reduce t ps c

namespace ReadsAs

variable {s : Nat} {ws vs : List Word} {c d : Formula}

theorem atom (text : String) : ReadsAs s [.atom text] (.atom text) :=
  fun ps _ => ⟨ps, .atom text, rfl, fun _ _ _ => rfl⟩

theorem not (text : String) : ReadsAs 3 [.not, .atom text] (.not (.atom text)) :=
  fun ps _ => ⟨.not :: ps, .atom text, rfl, fun _ _ ht => reduce_cons ht ps _⟩

/-- What binds tighter binds as tight. -/
theorem weaken (h : ReadsAs (s + 1) ws c) : ReadsAs s ws c := fun ps hps => by
  obtain ⟨qs, e, hrun, hreduce⟩ := h ps fun p hp => Nat.lt_succ_of_lt (hps p hp)
  exact ⟨qs, e, hrun, fun t hpos hle => hreduce t hpos (Nat.le_succ_of_le hle)⟩

theorem group (h : ReadsAs 1 ws c) : ReadsAs s (.opening :: (ws ++ [.closing])) c := fun ps _ => by
  obtain ⟨qs, e, hrun, hreduce⟩ := h (.group :: ps) (opens_cons.mpr (by decide))
  refine ⟨ps, c, ?_, fun _ _ _ => rfl⟩
  -- all that is pending inside the group is filled in, and the opening mark is left on top
  have hclose : reduce 1 qs e = (.group :: ps, c) :=
    (hreduce 1 (by decide) (by decide)).trans (Opens.reduce_eq (opens_cons.mpr (by decide)) c)
  rw [ReadState.run]
  change (ReadState.operand (.group :: ps)).run (ws ++ [.closing]) = _
  rw [ReadState.run_append, hrun, Option.bind_some, ReadState.run, ReadState.step, hclose]
  rfl

/-- Two rows with an operator of strength `s` between them, where the second row binds tighter. -/
theorem join {w : Word} {p : Formula → Pending} (hpos : 1 ≤ s)
    (hstrength : (p c).strength = s)
    (hstep : ∀ ps e, (ReadState.operator ps e).step w =
      some (.operand (p (reduce s ps e).2 :: (reduce s ps e).1)))
    (h₁ : ReadsAs s ws c) (h₂ : ReadsAs (s + 1) vs d) :
    ReadsAs s (ws ++ w :: vs) ((p c).fill d) := fun ps hps => by
  obtain ⟨qs, e, hrun, hreduce⟩ := h₁ ps hps
  have hleft : reduce s qs e = (ps, c) := (hreduce s hpos (Nat.le_refl s)).trans (hps.reduce_eq c)
  -- the second row is read with the operator pending, which it binds tighter than
  obtain ⟨qs', e', hrun', hreduce'⟩ := h₂ (p c :: ps)
    (opens_cons.mpr (hstrength ▸ Nat.lt_succ_self s))
  refine ⟨qs', e', ?_, fun t ht hle => ?_⟩
  · rw [ReadState.run_append, hrun, Option.bind_some, ReadState.run, hstep, hleft]
    exact hrun'
  · rw [hreduce' t ht (Nat.le_succ_of_le hle), reduce_cons (hstrength ▸ hle)]

theorem and (h₁ : ReadsAs 2 ws c) (h₂ : ReadsAs 3 vs d) :
    ReadsAs 2 (ws ++ .and :: vs) (.and c d) :=
  join (p := .and) (by decide) rfl (fun _ _ => rfl) h₁ h₂

theorem or (h₁ : ReadsAs 1 ws c) (h₂ : ReadsAs 2 vs d) :
    ReadsAs 1 (ws ++ .or :: vs) (.or c d) :=
  join (p := .or) (by decide) rfl (fun _ _ => rfl) h₁ h₂

/-- **A row that is read at the least strength is read as a whole.** -/
theorem readWords_eq (h : ReadsAs 1 ws c) : readWords ws = some c := by
  obtain ⟨qs, e, hrun, hreduce⟩ := h [] (by simp [Opens])
  rw [readWords, hrun]
  dsimp only
  rw [hreduce 1 (by decide) (by decide)]
  rfl

end ReadsAs

end EntityFilter.Sql
