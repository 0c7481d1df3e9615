import EntityFilter.Filter.SyntaxError

/-!
# Grammar rules

A `Rule` reads the front of a token stream and leaves the rest, also when it fails: the stream
then stands where reading stopped.  A rule never puts tokens back, which is what `Rule.manyAfter`
rests on to come to an end.
-/

namespace EntityFilter

/-- A rule of a grammar that denotes an `α`. -/
structure Rule (α : Type) where
  /-- What stands at the front of the stream, and the stream behind it. -/
  run : TokenStream → Except SyntaxError α × TokenStream
  /-- No token is put back. -/
  length_le : ∀ s, (run s).2.tokens.length ≤ s.tokens.length

namespace Rule

variable {α β : Type}

/-- Reads nothing. -/
protected def pure (a : α) : Rule α where
  run s := (.ok a, s)
  length_le _ := Nat.le_refl _

/-- Reads by `x`, and then by the rule that `f` gives for what `x` denotes. -/
protected def bind (x : Rule α) (f : α → Rule β) : Rule β where
  run s :=
    match x.run s with
    | (.ok a, later)    => (f a).run later
    | (.error e, later) => (.error e, later)
  length_le s := by
    have hx := x.length_le s
    split <;> rename_i hs
    · rw [hs] at hx
      exact Nat.le_trans ((f _).length_le _) hx
    · rwa [hs] at hx

instance : Monad Rule where
  pure := Rule.pure
  bind := Rule.bind

@[simp] theorem run_pure (a : α) (s : TokenStream) : (pure a : Rule α).run s = (.ok a, s) := rfl

theorem run_bind (x : Rule α) (f : α → Rule β) (s : TokenStream) :
    (x >>= f).run s =
      match x.run s with
      | (.ok a, later)    => (f a).run later
      | (.error e, later) => (.error e, later) := rfl

/-- Looks at the next token. -/
def peek : Rule Token where
  run s := (.ok s.current, s)
  length_le _ := Nat.le_refl _

/-- Reads the next token. -/
def token : Rule Token where
  run s := (.ok s.current, s.advance)
  length_le s := by simp [TokenStream.advance]

/-- Fails at `position`. -/
def failAt (position : Position) (cause : SyntaxCause) : Rule α where
  run s := (.error ⟨position, cause⟩, s)
  length_le _ := Nat.le_refl _

/-- Fails at the next token. -/
def fail (cause : Token → SyntaxCause) : Rule α := do
  let t ← peek
  failAt t.position (cause t)

/-- Reads the next token, which has to be of kind `kind`. -/
def expect (kind : TokenKind) : Rule Token := do
  let t ← peek
  if t.kind = kind then token else fail fun t => .mismatched t.display [kind]

/-- Reads by `item` behind each token of kind `separator` that follows. -/
def manyAfterRun (separator : TokenKind) (item : Rule α) (s : TokenStream) :
    Except SyntaxError (List α) × TokenStream :=
  match _hs : s.tokens with
  | [] => (.ok [], s)
  | t :: _ =>
    if t.kind = separator then
      match _hi : item.run s.advance with
      | (.error e, later) => (.error e, later)
      | (.ok a, later) =>
        match manyAfterRun separator item later with
        | (.ok rest, last)  => (.ok (a :: rest), last)
        | (.error e, last) => (.error e, last)
    else (.ok [], s)
termination_by s.tokens.length
decreasing_by
  have := item.length_le s.advance
  simp_all only [TokenStream.advance, List.tail_cons, List.length_cons]
  omega

theorem length_manyAfterRun_le (separator : TokenKind) (item : Rule α) (s : TokenStream) :
    (manyAfterRun separator item s).2.tokens.length ≤ s.tokens.length := by
  fun_induction manyAfterRun separator item s with
  | case1 s h | case5 s h => exact Nat.le_refl _
  | case2 s t rest hs _ e later hi =>
    have := item.length_le s.advance
    simp_all only [TokenStream.advance, List.tail_cons, List.length_cons]
    omega
  | case3 s t rest hs _ a later hi as last hr ih | case4 s t rest hs _ a later hi e last hr ih =>
    have := item.length_le s.advance
    simp_all only [TokenStream.advance, List.tail_cons, List.length_cons]
    omega

/-- What `item` denotes behind each token of kind `separator` that follows. -/
def manyAfter (separator : TokenKind) (item : Rule α) : Rule (List α) where
  run := manyAfterRun separator item
  length_le := length_manyAfterRun_le separator item

/-- One or more by `item`, with tokens of kind `separator` between them. -/
def separatedBy (separator : TokenKind) (item : Rule α) : Rule (List α) := do
  let first ← item
  let rest ← manyAfter separator item
  pure (first :: rest)

end Rule

end EntityFilter
