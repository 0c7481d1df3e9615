import EntityFilter.Proofs.Filter.Lookahead
import EntityFilter.Proofs.Filter.Proper

/-!
# The parser counts

The rules of the grammar hand on the tokens that are left, and a condition is told how many levels
are left to it.  A `Machine` does the same with two numbers on a fixed list of tokens: a position,
and a depth that is raised where a condition starts and lowered where it ends, also if reading
failed in between.  It crashes where it looks at a token that is not there, moves on behind the last
one, or lowers a depth of 0, and also where it would not come to an end.

`Machine.Drives` says that a machine does what a rule does, and keeps its counts: the depth is what
it was, unless a condition was refused, which leaves it raised by one.  Machines that are put
together drive rules that are put together, and `Machine.drives_condition` is the induction on the
levels.

**Calls in a row keep the counts** (`Machine.calls_keep_counts`).  The machine never crashes,
returns what the parser does, and its depth is the number of conditions that were refused so far.
-/

namespace EntityFilter

/-- Where a machine stands: the position of the next token, and the levels that are entered. -/
structure Spot where
  position : Nat := 0
  depth : Nat := 0
deriving DecidableEq, Repr

/-- A machine that reads an `α` from a list of tokens, or crashes. -/
structure Machine (α : Type) where
  /-- What is read, and where the machine stands then, also if reading fails. -/
  run : List Token → Spot → Option (Except SyntaxError α × Spot)
  /-- The position never decreases. -/
  position_le : ∀ {ts spot result later},
    run ts spot = some (result, later) → spot.position ≤ later.position

namespace Machine

variable {α β : Type}

/-! ### Parts -/

/-- Stays where it is. -/
def done (result : Except SyntaxError α) : Machine α where
  run _ spot := some (result, spot)
  position_le h := by
    cases h
    exact Nat.le_refl _

/-- Reads by `x`, and then by the machine that `f` gives for what `x` reads. -/
protected def bind (x : Machine α) (f : α → Machine β) : Machine β where
  run ts spot :=
    match x.run ts spot with
    | none                   => none
    | some (.ok a, later)    => (f a).run ts later
    | some (.error e, later) => some (.error e, later)
  position_le {ts spot result later} h := by
    split at h
    · cases h
    · rename_i hx
      exact Nat.le_trans (x.position_le hx) ((f _).position_le h)
    · rename_i hx
      cases h
      exact x.position_le hx

instance : Monad Machine where
  pure a := done (.ok a)
  bind := Machine.bind

theorem run_bind (x : Machine α) (f : α → Machine β) (ts : List Token) (spot : Spot) :
    (x >>= f).run ts spot =
      match x.run ts spot with
      | none                   => none
      | some (.ok a, later)    => (f a).run ts later
      | some (.error e, later) => some (.error e, later) := rfl

/-- Gives up. -/
def crash : Machine α where
  run _ _ := none
  position_le h := by cases h

/-- Looks at the next token. -/
def peek : Machine Token where
  run ts spot := ts[spot.position]?.map fun t => (.ok t, spot)
  position_le h := by
    obtain ⟨t, -, heq⟩ := Option.map_eq_some_iff.mp h
    cases heq
    exact Nat.le_refl _

/-- Reads the next token, and moves on unless it is the mark of the end. -/
def token : Machine Token where
  run ts spot := ts[spot.position]?.bind fun t =>
    if t.kind = .eof then some (.ok t, spot)
    else if spot.position + 1 < ts.length then
      some (.ok t, { spot with position := spot.position + 1 })
    else none
  position_le h := by
    obtain ⟨t, -, heq⟩ := Option.bind_eq_some_iff.mp h
    split at heq
    · cases heq
      exact Nat.le_refl _
    · split at heq
      · cases heq
        exact Nat.le_succ _
      · cases heq

/-- Enters a level.  One that is refused stays counted. -/
def enter : Machine Unit where
  run ts spot :=
    let inside := { spot with depth := spot.depth + 1 }
    if maxNesting < inside.depth then
      ts[spot.position]?.map fun t => (.error ⟨t.position, .tooDeep⟩, inside)
    else some (.ok (), inside)
  position_le h := by
    dsimp only at h
    split at h
    · obtain ⟨t, -, heq⟩ := Option.map_eq_some_iff.mp h
      cases heq
      exact Nat.le_refl _
    · cases h
      exact Nat.le_refl _

/-- Leaves a level. -/
def leave : Machine Unit where
  run _ spot :=
    if spot.depth = 0 then none else some (.ok (), { spot with depth := spot.depth - 1 })
  position_le h := by
    split at h
    · cases h
    · cases h
      exact Nat.le_refl _

/-- Reads by `x` and goes on even if that fails. -/
def attempt (x : Machine α) : Machine (Except SyntaxError α) where
  run ts spot := (x.run ts spot).map fun p => (.ok p.1, p.2)
  position_le h := by
    obtain ⟨p, hp, heq⟩ := Option.map_eq_some_iff.mp h
    cases heq
    exact x.position_le hp

/-- Reads by `x` one level further down. -/
def within (x : Machine α) : Machine α := do
  enter
  let result ← attempt x
  leave
  done result

/-- Fails at `position`. -/
def failAt (position : Position) (cause : SyntaxCause) : Machine α :=
  done (.error ⟨position, cause⟩)

/-- Fails at the next token. -/
def fail (cause : Token → SyntaxCause) : Machine α := do
  let t ← peek
  failAt t.position (cause t)

/-- Reads the next token, which has to be of kind `kind`. -/
def expect (kind : TokenKind) : Machine Token := do
  let t ← peek
  if t.kind = kind then token else fail fun t => .mismatched t.display [kind]

/-- Reads by `item` behind each token of kind `separator` that follows, in fewer than `rounds`
rounds. -/
def manyWithin (separator : TokenKind) (item : Machine α) : Nat → Machine (List α)
  | 0          => crash
  | rounds + 1 => do
    let t ← peek
    if t.kind = separator then
      let _ ← token
      let a ← item
      let rest ← manyWithin separator item rounds
      pure (a :: rest)
    else pure []

/-- Reads by `item` behind each token of kind `separator` that follows.  A loop with as many rounds
as there are tokens has no end. -/
def manyAfter (separator : TokenKind) (item : Machine α) : Machine (List α) where
  run ts spot := (manyWithin separator item ts.length).run ts spot
  position_le h := (manyWithin separator item _).position_le h

/-- One or more by `item`, with tokens of kind `separator` between them. -/
def separatedBy (separator : TokenKind) (item : Machine α) : Machine (List α) := do
  let first ← item
  let rest ← manyAfter separator item
  pure (first :: rest)

/-! ### The grammar

The rules of the grammar, as machines. -/

open Grammar (collapse termStart)

def path : Machine Path := do
  let names ← separatedBy .arrow (expect .name)
  pure ⟨names.map Token.value⟩

def literalOf (kinds : List TokenKind) : Machine Literal := do
  let t ← peek
  if t.kind ∈ kinds then
    let t ← token
    match Literal.ofToken t with
    | .ok value    => pure value
    | .error cause => failAt t.position cause
  else fail fun t => .mismatched t.display kinds

def elementAfter (first : Literal) : Machine Literal := do
  let t ← peek
  let element ← literalOf Literal.listKinds
  if element.isNumeric = first.isNumeric then pure element
  else failAt t.position (.mixedList t.display)

def list : Machine (List Literal) := do
  let _ ← expect .openParen
  let first ← literalOf Literal.listKinds
  let rest ← manyAfter .comma (elementAfter first)
  let _ ← expect .closeParen
  pure (first :: rest)

def term (nested : Machine Expr) : Machine Expr := do
  let t ← peek
  match t.kind with
  | .openParen =>
    let _ ← token
    let inner ← nested
    let _ ← expect .closeParen
    pure (.paren inner)
  | .not =>
    let _ ← token
    let p ← path
    pure (.missing p)
  | .name =>
    let p ← path
    let t ← peek
    match t.kind with
    | .comparison op =>
      let _ ← token
      let v ← literalOf Literal.scalarKinds
      pure (.compare p op v)
    | .member =>
      let _ ← token
      let vs ← list
      pure (.member p vs)
    | _ => pure (.has p)
  | .and | .or => fail fun t => .extraneous t.display termStart
  | _ => fail fun t => .mismatched t.display termStart

/-- Operands with a separator between them. -/
def operands (separator : TokenKind) (join : List Expr → Expr) (item : Machine Expr) :
    Machine Expr := do
  let es ← separatedBy separator item
  pure (collapse join es)

/-- A condition, where fewer than `calls` conditions are within each other. -/
def condition : Nat → Machine Expr
  | 0         => crash
  | calls + 1 => within (operands .or .or (operands .and .and (term (condition calls))))

/-- A condition and nothing after it.  What keeps conditions from being within each other any number
of times is the depth alone. -/
def expression : Machine Expr := do
  let e ← condition (maxNesting + 1)
  let t ← peek
  if t.kind = .eof then pure e else fail fun t => .extraneous t.display [.and, .or, .eof]

end Machine

/-! ### Machines and rules -/

/-- The stream behind its first `i` tokens. -/
def TokenStream.drop (s : TokenStream) (i : Nat) : TokenStream :=
  { s with tokens := s.tokens.drop i }

namespace TokenStream

variable {s : TokenStream} {i : Nat}

theorem advance_drop (s : TokenStream) (i : Nat) : (s.drop i).advance = s.drop (i + 1) := by
  simp [advance, drop]

theorem getElem?_toList (h : i ≤ s.tokens.length) :
    s.toList[i]? = some (s.drop i).current := by
  rcases Nat.lt_or_eq_of_le h with hlt | rfl
  · rw [toList, List.getElem?_append_left hlt, List.getElem?_eq_getElem hlt, current, drop,
      List.drop_eq_getElem_cons hlt, List.headD_cons]
  · simp [toList, current, drop, eof]

/-- A token that is not the mark of the end stands in front of it. -/
theorem lt_length_of_kind (hk : (s.drop i).current.kind ≠ .eof) : i < s.tokens.length := by
  by_contra hge
  rw [current, drop, List.drop_eq_nil_of_le (Nat.le_of_not_lt hge)] at hk
  exact hk rfl

end TokenStream

namespace Machine

variable {α β : Type}

/-- A condition was refused because it is too deep. -/
def refused : Except SyntaxError α → Bool
  | .ok _    => false
  | .error e => e.cause = .tooDeep

/-- The spot behind a result. -/
def spotAfter (depth : Nat) (result : Except SyntaxError α) (position : Nat) : Spot :=
  ⟨position, depth + (refused result).toNat⟩

/-- On the tokens of `s`, from the position `i` on and entered at this depth, the machine reads what
the rule does and stands where the rule leaves the stream.  The depth is the same again, or greater
by one if a condition was refused. -/
def DrivesAt (s : TokenStream) (depth : Nat) (m : Machine α) (r : Rule α) (i : Nat) : Prop :=
  ∃ result, ∃ j ≤ s.tokens.length, r.run (s.drop i) = (result, s.drop j) ∧
    m.run s.toList ⟨i, depth⟩ = some (result, spotAfter depth result j)

/-- The machine does what the rule does, wherever it is entered at this depth. -/
def Drives (s : TokenStream) (depth : Nat) (m : Machine α) (r : Rule α) : Prop :=
  ∀ i ≤ s.tokens.length, DrivesAt s depth m r i

namespace Drives

variable {s : TokenStream} {depth : Nat} {m : Machine α} {r : Rule α}

theorem done {result : Except SyntaxError α} {r : Rule α} (hrun : ∀ s, r.run s = (result, s))
    (h : refused result = false) : Drives s depth (done result) r := by
  intro i hi
  refine ⟨result, i, hi, hrun _, ?_⟩
  rw [spotAfter, h]
  rfl

theorem pure (a : α) : Drives s depth (pure a) (pure a) :=
  done (fun _ => rfl) rfl

theorem failAt (position : Position) {cause : SyntaxCause} (h : cause ≠ .tooDeep) :
    Drives s depth (failAt position cause : Machine α) (Rule.failAt position cause) :=
  done (fun _ => rfl) (by simpa [refused] using h)

theorem bind {f : α → Machine β} {g : α → Rule β} (h : Drives s depth m r)
    (hf : ∀ a, Drives s depth (f a) (g a)) : Drives s depth (m >>= f) (r >>= g) := by
  intro i hi
  obtain ⟨result, j, hj, hrule, hmachine⟩ := h i hi
  rw [DrivesAt, Rule.run_bind, run_bind, hrule, hmachine]
  cases result with
  | ok a => exact hf a j hj
  | error e => exact ⟨.error e, j, hj, rfl, rfl⟩

theorem peek : Drives s depth peek Rule.peek := by
  intro i hi
  refine ⟨.ok (s.drop i).current, i, hi, rfl, ?_⟩
  simp [Machine.peek, TokenStream.getElem?_toList hi, spotAfter, refused]

theorem fail {cause : Token → SyntaxCause} (h : ∀ t, cause t ≠ .tooDeep) :
    Drives s depth (fail cause : Machine α) (Rule.fail cause) :=
  peek.bind fun t => failAt t.position (h t)

end Drives

/-- Where a token stands, the machine moves on. -/
theorem run_token {s : TokenStream} {i depth : Nat} (hi : i < s.tokens.length)
    (hk : (s.drop i).current.kind ≠ .eof) :
    token.run s.toList ⟨i, depth⟩ = some (.ok (s.drop i).current, ⟨i + 1, depth⟩) := by
  have hlength : i + 1 < s.toList.length := by simpa [TokenStream.toList] using hi
  simp [token, TokenStream.getElem?_toList (Nat.le_of_lt hi), hk, hlength]

theorem ofToken_ne_tooDeep {t : Token} {cause : SyntaxCause}
    (h : Literal.ofToken t = .error cause) : cause ≠ .tooDeep := by
  rintro rfl
  obtain ⟨kind, value, position⟩ := t
  rw [Literal.ofToken] at h
  cases kind with
  | ref | date | time =>
      dsimp only at h
      rw [Option.elim.eq_def] at h
      split at h <;> cases h
  | _ => cases h

section Loops

variable {s : TokenStream} {depth : Nat}

/-- Each round of the loop takes the separator at least, so that the rounds do not run out. -/
theorem drives_manyWithin {separator : TokenKind} (hsep : separator ≠ .eof) {m : Machine α}
    {r : Rule α} (h : Drives s depth m r) (rounds : Nat) : ∀ i ≤ s.tokens.length,
      s.tokens.length < i + rounds →
        DrivesAt s depth (manyWithin separator m rounds) (Rule.manyAfter separator r) i := by
  induction rounds with
  | zero => intro i hi hrounds; omega
  | succ rounds ih =>
      intro i hi hrounds
      have hpeek : peek.run s.toList ⟨i, depth⟩ = some (.ok (s.drop i).current, ⟨i, depth⟩) := by
        simp [peek, TokenStream.getElem?_toList hi]
      rw [DrivesAt, manyWithin, run_bind, hpeek]
      dsimp only
      by_cases hk : (s.drop i).current.kind = separator
      · have hne : (s.drop i).current.kind ≠ .eof := fun heof => hsep (hk.symm.trans heof)
        have hlt := TokenStream.lt_length_of_kind hne
        rw [if_pos hk, run_bind, run_token hlt hne, Rule.run_manyAfter_of_eq hsep r hk,
          Rule.run_token_bind, TokenStream.advance_drop]
        dsimp only
        obtain ⟨result, j, hj, hrule, hmachine⟩ := h (i + 1) hlt
        have hle : i + 1 ≤ j := m.position_le hmachine
        rw [run_bind, Rule.run_bind, hrule, hmachine]
        cases result with
        | error e => exact ⟨.error e, j, hj, rfl, rfl⟩
        | ok a =>
            obtain ⟨rest, l, hl, hrules, hmachines⟩ := ih j hj (by omega)
            dsimp only [spotAfter, refused, Bool.toNat_false, Nat.add_zero]
            rw [run_bind, Rule.run_bind, hrules, hmachines]
            cases rest with
            | error e => exact ⟨.error e, l, hl, rfl, rfl⟩
            | ok as => exact ⟨.ok (a :: as), l, hl, rfl, rfl⟩
      · rw [if_neg hk]
        exact ⟨.ok [], i, hi, Rule.manyAfterRun_of_ne r hk, rfl⟩

theorem Drives.manyAfter {separator : TokenKind} (hsep : separator ≠ .eof) {m : Machine α}
    {r : Rule α} (h : Drives s depth m r) :
    Drives s depth (manyAfter separator m) (Rule.manyAfter separator r) := by
  intro i hi
  refine drives_manyWithin hsep h s.toList.length i hi ?_
  rw [TokenStream.toList, List.length_append, List.length_singleton]
  omega

theorem Drives.separatedBy {separator : TokenKind} (hsep : separator ≠ .eof) {m : Machine α}
    {r : Rule α} (h : Drives s depth m r) :
    Drives s depth (separatedBy separator m) (Rule.separatedBy separator r) :=
  h.bind fun _ => (h.manyAfter hsep).bind fun _ => .pure _

theorem drives_operands {item : Machine Expr} {r : Rule Expr} (h : Drives s depth item r)
    {separator : TokenKind} (hsep : separator ≠ .eof) (join : List Expr → Expr) :
    Drives s depth (operands separator join item)
      (do let es ← Rule.separatedBy separator r; pure (Grammar.collapse join es)) :=
  (h.separatedBy hsep).bind fun _ => .pure _

end Loops

/-- What is read one level further down leaves the depth as it finds it, but for a level that was
refused. -/
theorem Drives.within {s : TokenStream} {depth : Nat} {m : Machine α} {r : Rule α}
    (h : Drives s (depth + 1) m r) (hdepth : depth < maxNesting) :
    Drives s depth (within m) r := by
  intro i hi
  obtain ⟨result, j, hj, hrule, hmachine⟩ := h i hi
  refine ⟨result, j, hj, hrule, ?_⟩
  have henter : enter.run s.toList ⟨i, depth⟩ = some (.ok (), ⟨i, depth + 1⟩) := by
    simp [enter, hdepth]
  have hleave : leave.run s.toList (spotAfter (depth + 1) result j) =
      some (.ok (), spotAfter depth result j) := by
    simp [leave, spotAfter, Nat.add_right_comm depth 1]
  simp only [Machine.within, run_bind, henter, attempt, hmachine, hleave, Option.map_some]
  rfl

/-- A level that is refused stays counted. -/
theorem drives_refused {s : TokenStream} {depth : Nat} (h : maxNesting ≤ depth) {m : Machine α} :
    Drives s depth (within m) (Rule.fail fun _ => .tooDeep) := by
  intro i hi
  refine ⟨.error ⟨(s.drop i).current.position, .tooDeep⟩, i, hi, rfl, ?_⟩
  have henter : enter.run s.toList ⟨i, depth⟩ =
      some (.error ⟨(s.drop i).current.position, .tooDeep⟩, ⟨i, depth + 1⟩) := by
    simp [enter, h, TokenStream.getElem?_toList hi]
  rw [within, run_bind, henter]
  simp [spotAfter, refused]

section Tokens

variable {s : TokenStream} {depth : Nat} (heof : ∀ t ∈ s.tokens, t.kind ≠ .eof)
include heof

theorem kind_ne_eof {i : Nat} (hi : i < s.tokens.length) : (s.drop i).current.kind ≠ .eof := by
  rw [TokenStream.current, TokenStream.drop, List.drop_eq_getElem_cons hi, List.headD_cons]
  exact heof _ (List.getElem_mem hi)

theorem drives_token : Drives s depth token Rule.token := by
  intro i hi
  rcases Nat.lt_or_eq_of_le hi with hlt | rfl
  · refine ⟨_, i + 1, hlt, ?_, run_token hlt (kind_ne_eof heof hlt)⟩
    rw [← TokenStream.advance_drop]
    rfl
  · have hend : (s.drop s.tokens.length).current.kind = .eof := by
      simp [TokenStream.current, TokenStream.drop, TokenStream.eof]
    refine ⟨.ok (s.drop s.tokens.length).current, _, hi, ?_, ?_⟩
    · simp [Rule.token, TokenStream.drop, TokenStream.advance]
    · simp [token, TokenStream.getElem?_toList hi, hend, spotAfter, refused]

theorem drives_expect (kind : TokenKind) : Drives s depth (expect kind) (Rule.expect kind) := by
  refine Drives.peek.bind fun t => ?_
  split
  · exact drives_token heof
  · exact .fail fun _ => nofun

/-! ### The grammar is driven -/

theorem drives_path : Drives s depth path Grammar.path :=
  ((drives_expect heof .name).separatedBy (by decide)).bind fun _ => .pure _

theorem drives_literalOf (kinds : List TokenKind) :
    Drives s depth (literalOf kinds) (Grammar.literalOf kinds) := by
  refine Drives.peek.bind fun t => ?_
  split
  · refine (drives_token heof).bind fun t => ?_
    cases hvalue : Literal.ofToken t with
    | ok value => exact .pure value
    | error cause => exact .failAt _ (ofToken_ne_tooDeep hvalue)
  · exact .fail fun _ => nofun

theorem drives_elementAfter (first : Literal) :
    Drives s depth (elementAfter first) (Grammar.elementAfter first) := by
  refine Drives.peek.bind fun t => (drives_literalOf heof _).bind fun element => ?_
  split
  · exact .pure element
  · exact .failAt _ nofun

theorem drives_list : Drives s depth list Grammar.list :=
  (drives_expect heof _).bind fun _ => (drives_literalOf heof _).bind fun first =>
    ((drives_elementAfter heof first).manyAfter (by decide)).bind fun _ =>
      (drives_expect heof _).bind fun _ => .pure _

theorem drives_term {nested : Machine Expr} {r : Rule Expr} (h : Drives s depth nested r) :
    Drives s depth (term nested) (Grammar.term r) := by
  refine Drives.peek.bind fun t => ?_
  cases t.kind with
  | openParen =>
      exact (drives_token heof).bind fun _ => h.bind fun _ =>
        (drives_expect heof _).bind fun _ => .pure _
  | not => exact (drives_token heof).bind fun _ => (drives_path heof).bind fun _ => .pure _
  | name =>
      refine (drives_path heof).bind fun p => Drives.peek.bind fun t => ?_
      cases t.kind with
      | comparison op =>
          exact (drives_token heof).bind fun _ => (drives_literalOf heof _).bind fun _ => .pure _
      | member => exact (drives_token heof).bind fun _ => (drives_list heof).bind fun _ => .pure _
      | _ => exact .pure _
  | _ => exact .fail fun _ => nofun

/-- **Conditions are driven at every depth**, as far as it leaves levels to them. -/
theorem drives_condition (calls : Nat) : ∀ depth, maxNesting ≤ depth + calls →
    Drives s depth (condition (calls + 1)) (Grammar.condition (maxNesting - depth)) := by
  induction calls with
  | zero =>
      intro depth hdepth
      rw [Nat.add_zero] at hdepth
      rw [Nat.sub_eq_zero_of_le hdepth]
      exact drives_refused hdepth
  | succ calls ih =>
      intro depth hdepth
      rcases Nat.lt_or_ge depth maxNesting with hlt | hge
      · have hlevels : maxNesting - depth = maxNesting - (depth + 1) + 1 := by omega
        have hterm := drives_term heof (ih (depth + 1) (by omega))
        have hand := drives_operands hterm (by decide : .and ≠ TokenKind.eof) .and
        rw [hlevels]
        exact (drives_operands hand (by decide) .or).within hlt
      · rw [Nat.sub_eq_zero_of_le hge]
        exact drives_refused hge

/-- **The machine does what the grammar says**, with the levels that its depth leaves. -/
theorem drives_expression (depth : Nat) :
    Drives s depth expression (Grammar.expression (maxNesting - depth)) := by
  refine (drives_condition heof maxNesting depth (Nat.le_add_left _ _)).bind fun e =>
    Drives.peek.bind fun t => ?_
  split
  · exact .pure e
  · exact .fail fun _ => nofun

end Tokens

/-! ### Calls in a row -/

/-- What is read by a number of calls in a row, and where the machine stands then. -/
def calls (ts : List Token) : Nat → Option (List (Except SyntaxError Expr) × Spot)
  | 0     => some ([], {})
  | n + 1 => do
    let (answers, spot) ← calls ts n
    let (answer, later) ← expression.run ts spot
    pure (answers ++ [answer], later)

end Machine

namespace Parser

/-- What is read by a number of calls in a row, and the parser where reading stopped. -/
def calls (p : Parser) : Nat → List (Except SyntaxError Expr) × Parser
  | 0     => ([], p)
  | n + 1 =>
    let (answers, later) := p.calls n
    (answers ++ [later.next.1], later.next.2)

/-- The parser that stands where a machine does. -/
def ofSpot (s : TokenStream) (spot : Spot) : Parser :=
  ⟨s.drop spot.position, spot.depth⟩

theorem next_eq {p : Parser} {result : Except SyntaxError Expr} {stream : TokenStream}
    (h : (Grammar.expression (maxNesting - p.depth)).run p.stream = (result, stream)) :
    p.next = (result, ⟨stream, p.depth + (Machine.refused result).toNat⟩) := by
  rw [next, h]
  cases result with
  | ok e => rfl
  | error e =>
      obtain ⟨position, cause⟩ := e
      cases cause <;> rfl

end Parser

namespace Machine

/-- The machine at a spot within the tokens. -/
theorem run_expression {s : TokenStream} (heof : ∀ t ∈ s.tokens, t.kind ≠ .eof) {spot : Spot}
    (hspot : spot.position ≤ s.tokens.length) :
    ∃ answer later, expression.run s.toList spot = some (answer, later) ∧
      later.position ≤ s.tokens.length ∧
      later.depth = spot.depth + (refused answer).toNat ∧
      (Parser.ofSpot s spot).next = (answer, Parser.ofSpot s later) := by
  obtain ⟨answer, j, hj, hrule, hmachine⟩ :=
    drives_expression heof spot.depth spot.position hspot
  exact ⟨answer, spotAfter spot.depth answer j, hmachine, hj, rfl, Parser.next_eq hrule⟩

/-- After any number of calls the machine stands where the parser does, and has counted the
conditions that were refused. -/
theorem exists_calls {s : TokenStream} (heof : ∀ t ∈ s.tokens, t.kind ≠ .eof) (n : Nat) :
    ∃ answers spot, calls s.toList n = some (answers, spot) ∧ spot.position ≤ s.tokens.length ∧
      spot.depth = answers.countP refused ∧
      (⟨s, 0⟩ : Parser).calls n = (answers, Parser.ofSpot s spot) := by
  induction n with
  | zero => exact ⟨[], {}, rfl, Nat.zero_le _, rfl, rfl⟩
  | succ n ih =>
      obtain ⟨answers, spot, hcalls, hspot, hdepth, hparser⟩ := ih
      obtain ⟨answer, later, hrun, hlater, hdepth', hnext⟩ := run_expression heof hspot
      refine ⟨answers ++ [answer], later, ?_, hlater, ?_, ?_⟩
      · rw [calls, hcalls]
        simp [hrun]
      · rw [hdepth', hdepth, List.countP_append, List.countP_singleton]
        cases refused answer <;> rfl
      · rw [Parser.calls, hparser]
        dsimp only
        rw [hnext]

/-- A call accepts what is derived from the tokens that are left, with parentheses that nest as deep
as the depth leaves levels to them. -/
theorem next_eq_ok_iff {s : TokenStream} (heof : ∀ t ∈ s.tokens, t.kind ≠ .eof)
    (hdenote : Grammar.AllDenote s.tokens) {spot : Spot} {e : Expr} :
    (Parser.ofSpot s spot).next.1 = .ok e ↔ e.nesting + spot.depth ≤ 199 ∧
      ∃ d : Derivation, d.yield = (s.drop spot.position).toList ∧ d.Homogeneous ∧ d.expr = e := by
  have hleft : (s.drop spot.position).tokens ⊆ s.tokens := List.drop_subset _ _
  have hnext : (Parser.ofSpot s spot).next.1 = .ok e ↔ ∃ d : Derivation,
      d.yield = (s.drop spot.position).toList ∧ d.nesting < maxNesting - spot.depth ∧
        d.Homogeneous ∧ d.expr = e :=
    Parser.next_eq_ok_iff (fun t ht => heof t (hleft ht)) (hdenote.mono hleft)
  have hlevels : ∀ n, n < maxNesting - spot.depth ↔ n + spot.depth ≤ 199 := fun n => by
    rw [maxNesting]
    omega
  rw [hnext]
  constructor
  · rintro ⟨d, hyield, hnesting, hlists, rfl⟩
    rw [hlevels, ← Derivation.nesting_expr] at hnesting
    exact ⟨hnesting, d, hyield, hlists, rfl⟩
  · rintro ⟨hnesting, d, hyield, hlists, rfl⟩
    rw [Derivation.nesting_expr, ← hlevels] at hnesting
    exact ⟨d, hyield, hnesting, hlists, rfl⟩

/-- **Calls in a row keep the counts.**  However many calls were made on a parser, it stands within
its tokens and a further call does not crash.  The position does not decrease and does not pass the
mark of the end, and the depth is raised by one exactly if a condition is refused; so `k` refusals
leave room for parentheses that nest at most `199 - k` deep. -/
theorem calls_keep_counts {text : String} {p : Parser} (h : Parser.start text = .ok p) (n : Nat) :
    ∃ answers spot answer later,
      calls p.stream.toList n = some (answers, spot) ∧
      p.calls n = (answers, Parser.ofSpot p.stream spot) ∧
      expression.run p.stream.toList spot = some (answer, later) ∧
      (Parser.ofSpot p.stream spot).next = (answer, Parser.ofSpot p.stream later) ∧
      spot.position ≤ later.position ∧ later.position ≤ p.stream.tokens.length ∧
      spot.depth = answers.countP refused ∧
      later.depth = (if refused answer then spot.depth + 1 else spot.depth) ∧
      ∀ e, answer = .ok e ↔ e.nesting + answers.countP refused ≤ 199 ∧
        ∃ d : Derivation, d.yield = (p.stream.drop spot.position).toList ∧ d.Homogeneous ∧
          d.expr = e := by
  obtain ⟨s, hs, hp⟩ : ∃ s, tokenize text = .ok s ∧ p = ⟨s, 0⟩ := by
    rw [Parser.start] at h
    cases hs : tokenize text with
    | error e =>
        rw [hs] at h
        cases h
    | ok s =>
        rw [hs] at h
        cases h
        exact ⟨s, rfl, rfl⟩
  subst hp
  obtain ⟨heof, hdenote⟩ := tokens_of_tokenize hs
  obtain ⟨answers, spot, hcalls, hspot, hdepth, hparser⟩ := exists_calls heof n
  obtain ⟨answer, later, hrun, hlater, hdepth', hnext⟩ := run_expression heof hspot
  refine ⟨answers, spot, answer, later, hcalls, hparser, hrun, hnext,
    expression.position_le hrun, hlater, hdepth, ?_, fun e => ?_⟩
  · rw [hdepth']
    cases refused answer <;> rfl
  · rw [← hdepth, ← next_eq_ok_iff heof hdenote, hnext]

/-- The tokens of 200 parentheses with a name behind them. -/
def deepStream : TokenStream where
  tokens := (List.range' 1 200).map (fun i => ⟨.openParen, "(", ⟨1, i⟩⟩) ++
    [⟨.name, "a", ⟨1, 201⟩⟩]
  endsAt := ⟨1, 202⟩

set_option maxRecDepth 40000 in
theorem start_deepStream :
    Parser.start (String.ofList (List.replicate 200 '(' ++ ['a'])) = .ok ⟨deepStream, 0⟩ := by
  cbv

set_option maxRecDepth 40000 in
theorem calls_deepStream :
    calls deepStream.toList 1 = some ([.error ⟨⟨1, 201⟩, .tooDeep⟩], ⟨200, 1⟩) := by
  rfl

set_option maxRecDepth 40000 in
/-- Behind 200 parentheses a condition is refused, which leaves a depth of 1.  The next call goes on
from there, and accepts the name that it finds. -/
theorem calls_keep_counts_behind_refusal :
    ∃ p, Parser.start (String.ofList (List.replicate 200 '(' ++ ['a'])) = .ok p ∧
      p.calls 1 = ([.error ⟨⟨1, 201⟩, .tooDeep⟩], Parser.ofSpot p.stream ⟨200, 1⟩) ∧
      (Parser.ofSpot p.stream ⟨200, 1⟩).next =
        (.ok (.has ⟨["a"]⟩), Parser.ofSpot p.stream ⟨201, 1⟩) ∧
      (Expr.has ⟨["a"]⟩).nesting + 1 ≤ 199 := by
  have haccepted : expression.run deepStream.toList ⟨200, 1⟩ =
      some (.ok (.has ⟨["a"]⟩), ⟨201, 1⟩) := by rfl
  obtain ⟨answers, spot, answer, later, hcalls, hparser, hrun, hnext, -, -, -, -, hok⟩ :=
    calls_keep_counts start_deepStream 1
  cases calls_deepStream.symm.trans hcalls
  cases haccepted.symm.trans hrun
  exact ⟨_, start_deepStream, hparser, hnext, ((hok _).mp rfl).1⟩

end Machine

end EntityFilter
