import EntityFilter.Proofs.Filter.Parsing

/-!
# Rules look one token ahead

A rule never puts a token back and looks no further than the next one.  So what it does on a stream
is settled by the tokens up to the one where it stops: a result by those that were taken and the
next, and an error by those in front of the token that the error is about and by that token.
`Rule.ScansAt` says this of a rule on a stream, and of an error also what the tokens in front of it
are.

Rules that are put together scan if their parts do (`Rule.ScansAt.bind`), the loops among them
(`Rule.Scans.manyAfter`), and a rule that reads trees fails behind tokens that some tree starts with
(`Rule.Scans`).  Errors about nesting are left out, since they come before the token that they are
about was looked at.
-/

namespace EntityFilter

open EntityFilter.Derivation (Tok Chain)

namespace TokenStream

theorem current_push {s s' : TokenStream} (h : s'.current = s.current) (ts : List Token) :
    (s'.push ts).current = (s.push ts).current := by
  cases ts with
  | nil => exact h
  | cons t ts => rfl

theorem push_injective {s : TokenStream} {ts us : List Token} (h : s.push ts = s.push us) :
    ts = us :=
  List.append_cancel_right (congrArg TokenStream.tokens h)

end TokenStream

namespace Rule

variable {α β T : Type}

/-- What `r` does on `s` it does on every stream that agrees with `s` up to the token where it
stops.  An error is at a token that comes behind `before`, where `begun before` holds. -/
structure ScansAt (r : Rule α) (s : TokenStream) (begun : List Token → Prop) : Prop where
  ok : ∀ {a : α} {later : TokenStream}, r.run s = (.ok a, later) →
    ∃ read, s = later.push read ∧
      ∀ later' : TokenStream, later'.current = later.current →
        r.run (later'.push read) = (.ok a, later')
  error : ∀ {e : SyntaxError} {later : TokenStream}, r.run s = (.error e, later) →
    e.cause ≠ .tooDeep → ∃ (before : List Token) (rest : TokenStream), s = rest.push before ∧
      rest.current.position = e.position ∧ begun before ∧
      ∀ rest' : TokenStream, rest'.current = rest.current →
        (r.run (rest'.push before)).1 = .error e

theorem run_bind_error {x : Rule α} (f : α → Rule β) {s : TokenStream} {e : SyntaxError}
    (h : (x.run s).1 = .error e) : ((x >>= f).run s).1 = .error e := by
  obtain ⟨later, hrun⟩ : ∃ later, x.run s = (.error e, later) := ⟨_, Prod.ext h rfl⟩
  rw [run_bind, hrun]

namespace ScansAt

variable {r r' : Rule α} {s : TokenStream} {begun begun' : List Token → Prop}

theorem mono (h : ScansAt r s begun) (hsub : ∀ before, begun before → begun' before) :
    ScansAt r s begun' where
  ok := h.ok
  error hrun hcause := by
    obtain ⟨before, rest, hs, hposition, hbegun, hsame⟩ := h.error hrun hcause
    exact ⟨before, rest, hs, hposition, hsub before hbegun, hsame⟩

/-- Rules that agree on all streams with the same next token scan alike. -/
theorem of_agrees (hagree : ∀ s', s'.current = s.current → r.run s' = r'.run s')
    (h : ScansAt r' s begun) : ScansAt r s begun where
  ok {a later} hrun := by
    obtain ⟨read, hs, hsame⟩ := h.ok ((hagree s rfl).symm.trans hrun)
    refine ⟨read, hs, fun later' hlater => ?_⟩
    rw [hagree _ (hs ▸ TokenStream.current_push hlater read)]
    exact hsame later' hlater
  error {e later} hrun hcause := by
    obtain ⟨before, rest, hs, hposition, hbegun, hsame⟩ :=
      h.error ((hagree s rfl).symm.trans hrun) hcause
    refine ⟨before, rest, hs, hposition, hbegun, fun rest' hrest => ?_⟩
    rw [hagree _ (hs ▸ TokenStream.current_push hrest before)]
    exact hsame rest' hrest

protected theorem pure (a : α) : ScansAt (pure a) s begun where
  ok {b later} hrun := by
    obtain ⟨rfl, rfl⟩ := mk_ok_inj hrun
    exact ⟨[], rfl, fun later' _ => rfl⟩
  error hrun := by cases (Prod.mk.inj hrun).1

/-- **Rules in a row scan.**  An error of the second one comes behind all that the first one
took. -/
protected theorem bind {x : Rule α} {f : α → Rule β} (hx : ScansAt x s begun)
    (hf : ∀ {a : α} {later : TokenStream} {read : List Token}, x.run s = (.ok a, later) →
      s = later.push read → ScansAt (f a) later fun before => begun (read ++ before)) :
    ScansAt (x >>= f) s begun where
  ok {b last} hrun := by
    obtain ⟨a, later, hfirst, hsecond⟩ := run_bind_ok.mp hrun
    obtain ⟨read, hs, hsame⟩ := hx.ok hfirst
    obtain ⟨more, hlater, hsame'⟩ := (hf hfirst hs).ok hsecond
    refine ⟨read ++ more, by rw [hs, hlater, TokenStream.push_push], fun last' hlast => ?_⟩
    have hcurrent : (last'.push more).current = later.current :=
      hlater ▸ TokenStream.current_push hlast more
    rw [← TokenStream.push_push]
    exact run_bind_ok.mpr ⟨a, _, hsame _ hcurrent, hsame' last' hlast⟩
  error {e last} hrun hcause := by
    rw [run_bind] at hrun
    split at hrun
    · rename_i a later hfirst
      obtain ⟨read, hs, hsame⟩ := hx.ok hfirst
      obtain ⟨before, rest, hlater, hposition, hbegun, hsame'⟩ := (hf hfirst hs).error hrun hcause
      refine ⟨read ++ before, rest, by rw [hs, hlater, TokenStream.push_push], hposition, hbegun,
        fun rest' hrest => ?_⟩
      have hcurrent : (rest'.push before).current = later.current :=
        hlater ▸ TokenStream.current_push hrest before
      rw [← TokenStream.push_push, run_bind, hsame _ hcurrent]
      exact hsame' rest' hrest
    · rename_i e' later hfirst
      obtain ⟨he, -⟩ := Prod.mk.inj hrun
      obtain rfl := Except.error.inj he
      obtain ⟨before, rest, hs, hposition, hbegun, hsame⟩ := hx.error hfirst hcause
      exact ⟨before, rest, hs, hposition, hbegun,
        fun rest' hrest => run_bind_error f (hsame rest' hrest)⟩

theorem map (h : ScansAt r s begun) (f : α → β) : ScansAt (r >>= fun a => pure (f a)) s begun :=
  h.bind fun _ _ => .pure _

theorem peek {f : Token → Rule α} (h : ScansAt (f s.current) s begun) :
    ScansAt (Rule.peek >>= f) s begun :=
  of_agrees (fun s' hs' => by rw [run_peek_bind, hs']) h

theorem token {f : Token → Rule α} (hkind : s.current.kind ≠ .eof)
    (h : ScansAt (f s.current) s.advance fun before => begun (s.current :: before)) :
    ScansAt (Rule.token >>= f) s begun := by
  have hs := TokenStream.eq_push_current hkind
  have htoken : ScansAt Rule.token s begun := by
    refine ⟨fun hrun => ?_, fun hrun => ?_⟩
    · obtain ⟨rfl, rfl⟩ := mk_ok_inj hrun
      exact ⟨[s.current], hs, fun later' _ => rfl⟩
    · cases (Prod.mk.inj hrun).1
  refine htoken.bind fun hrun hread => ?_
  obtain ⟨rfl, rfl⟩ := mk_ok_inj hrun
  rw [← TokenStream.push_injective (hs.symm.trans hread)]
  exact h

end ScansAt

/-- The rule decides by the next token alone, takes it for a result and blames it for an error. -/
structure Decides (r : Rule α) (judge : Token → Except SyntaxError α) : Prop where
  result : ∀ s, (r.run s).1 = judge s.current
  takes : ∀ {s a}, judge s.current = .ok a → s.current.kind ≠ .eof ∧ (r.run s).2 = s.advance
  blames : ∀ {t e}, judge t = .error e → e.position = t.position

theorem Decides.run_eq {r : Rule α} {judge : Token → Except SyntaxError α} (h : Decides r judge)
    {s : TokenStream} {a : α} (ha : judge s.current = .ok a) : r.run s = (.ok a, s.advance) :=
  Prod.ext ((h.result s).trans ha) (h.takes ha).2

theorem Decides.scansAt {r : Rule α} {judge : Token → Except SyntaxError α} (h : Decides r judge)
    {s : TokenStream} {begun : List Token → Prop} (hbegun : begun []) : ScansAt r s begun where
  ok {a later} hrun := by
    have hresult : judge s.current = .ok a := by rw [← h.result, hrun]
    obtain ⟨hkind, hlater⟩ := h.takes hresult
    rw [hrun] at hlater
    obtain rfl : later = s.advance := hlater
    refine ⟨[s.current], TokenStream.eq_push_current hkind, fun later' _ => ?_⟩
    have hsame : judge (later'.push [s.current]).current = .ok a := hresult
    exact h.run_eq hsame
  error {e later} hrun _ := by
    have hresult : judge s.current = .error e := by rw [← h.result, hrun]
    refine ⟨[], s, rfl, (h.blames hresult).symm, hbegun, fun rest' hrest => ?_⟩
    exact (h.result _).trans (hrest ▸ hresult)

/-- A result that is checked, where the check blames the token that was taken. -/
theorem Decides.check {r : Rule α} {judge : Token → Except SyntaxError α} (h : Decides r judge)
    (p : α → Prop) [DecidablePred p] (cause : Token → SyntaxCause) :
    Decides (do
        let t ← peek
        let a ← r
        if p a then pure a else failAt t.position (cause t))
      fun t => (judge t).bind fun a => if p a then .ok a else .error ⟨t.position, cause t⟩ where
  result s := by
    rw [run_peek_bind, run_bind, ← h.result s]
    rcases r.run s with ⟨result, later⟩
    cases result with
    | error e => rfl
    | ok a => dsimp only [Except.bind]; split <;> rfl
  takes {s a} ha := by
    cases hjudge : judge s.current with
    | error e => rw [hjudge] at ha; cases ha
    | ok b =>
        refine ⟨(h.takes hjudge).1, ?_⟩
        rw [run_peek_bind, run_bind, h.run_eq hjudge]
        dsimp only
        split <;> rfl
  blames {t e} he := by
    cases hjudge : judge t with
    | error e' =>
        rw [hjudge] at he
        obtain rfl := Except.error.inj he
        exact h.blames hjudge
    | ok b =>
        simp only [hjudge, Except.bind] at he
        split at he
        case isTrue => cases he
        case isFalse => rw [← Except.error.inj he]

theorem decides_fail (cause : Token → SyntaxCause) :
    Decides (fail cause : Rule α) fun t => .error ⟨t.position, cause t⟩ where
  result _ := rfl
  takes h := by cases h
  blames h := by rw [← Except.error.inj h]

theorem decides_expect {kind : TokenKind} (hkind : kind ≠ .eof) :
    Decides (expect kind) fun t =>
      if t.kind = kind then .ok t else .error ⟨t.position, .mismatched t.display [kind]⟩ where
  result s := by
    rw [run_expect]
    split <;> rfl
  takes {s a} h := by
    rw [run_expect]
    split at h
    case isTrue hk => exact ⟨hk ▸ hkind, by rw [if_pos hk]⟩
    case isFalse => cases h
  blames {t e} h := by
    split at h
    case isTrue => cases h
    case isFalse => rw [← Except.error.inj h]

/-! ### Rules that read trees -/

/-- Some token of a kind, to go on with. -/
def anyTok (kind : TokenKind) : Tok kind :=
  ⟨⟨kind, "", .start⟩, rfl⟩

/-- The tokens are the first ones of an allowed tree. -/
def Begins (tokens : T → List Token) (allowed : T → Prop) (before : List Token) : Prop :=
  ∃ t, allowed t ∧ before <+: tokens t

/-- The rule scans, and fails only behind tokens that an allowed tree starts with. -/
def Scans (r : Rule α) (tokens : T → List Token) (allowed : T → Prop) : Prop :=
  ∀ s, ScansAt r s (Begins tokens allowed)

section Trees

variable {x : Rule α} {tokens : T → List Token} {value : T → α} {allowed : T → Prop}
  {ends : TokenKind → Prop}

/-- A rule that reads a tree, and another one behind the tree. -/
theorem ScansAt.bind_reads {s : TokenStream} {begun : List Token → Prop} (hx : ScansAt x s begun)
    (hreads : Reads x tokens value allowed ends) {f : α → Rule β}
    (hf : ∀ (t : T) (later : TokenStream), allowed t → s = later.push (tokens t) →
      ScansAt (f (value t)) later fun before => begun (tokens t ++ before)) :
    ScansAt (x >>= f) s begun := by
  refine hx.bind fun {a later read} hrun hread => ?_
  obtain ⟨t, hallowed, rfl, hs⟩ := hreads.sound hrun
  rw [TokenStream.push_injective (hread.symm.trans hs)]
  exact hf t later hallowed hs

theorem expect_scans {kind : TokenKind} (hkind : kind ≠ .eof) :
    Scans (expect kind) (fun t : Tok kind => [t.1]) fun _ => True :=
  fun _ => (decides_expect hkind).scansAt ⟨anyTok kind, trivial, List.nil_prefix⟩

/-- The loop, where it goes on. -/
theorem run_manyAfter_of_eq {separator : TokenKind} (hsep : separator ≠ .eof) (item : Rule α)
    {s : TokenStream} (h : s.current.kind = separator) :
    (manyAfter separator item).run s = (do
      let _ ← Rule.token
      let a ← item
      let rest ← manyAfter separator item
      pure (a :: rest)).run s := by
  have hrun : (manyAfter separator item).run s = manyAfterRun separator item s := rfl
  rw [hrun, manyAfterRun, run_token_bind, run_bind]
  split
  · rename_i hnil
    have heof : s.current.kind = .eof := by rw [TokenStream.current, hnil]; rfl
    exact absurd (h.symm.trans heof) hsep
  · rename_i t ts hcons
    have ht : s.current = t := by rw [TokenStream.current, hcons, List.headD_cons]
    rw [if_pos (ht ▸ h)]
    split
    · rename_i hitem
      rw [hitem]
    · rename_i a later hitem
      rw [hitem]
      dsimp only
      rw [run_bind]
      rcases hloop : manyAfterRun separator item later with ⟨result, last⟩
      cases result <;> simp only [manyAfter, hloop, run_pure]

/-- **The loop scans.**  It fails behind a row of trees, or within the last of them. -/
theorem Scans.manyAfter {separator : TokenKind} (hsep : separator ≠ .eof)
    (hscans : Scans x tokens allowed) (hreads : Reads x tokens value allowed ends) :
    Scans (Rule.manyAfter separator x)
      (fun more : List (Tok separator × T) => more.flatMap fun p => p.1.1 :: tokens p.2)
      fun more => ∀ p ∈ more, allowed p.2 := by
  intro s
  -- each round takes the separator at least
  induction hn : s.tokens.length using Nat.strongRecOn generalizing s with
  | ind n ih =>
      by_cases hk : s.current.kind = separator
      · refine .of_agrees (fun s' hs' => run_manyAfter_of_eq hsep x (hs' ▸ hk)) ?_
        refine .token (hk ▸ hsep) (((hscans _).mono ?_).bind_reads hreads ?_)
        · rintro before ⟨t, ht, hbefore⟩
          refine ⟨[(⟨s.current, hk⟩, t)], by simpa using ht, ?_⟩
          simpa using hbefore
        · intro t later ht hs
          have hshorter : later.tokens.length < n := by
            rw [← hn, TokenStream.eq_push_of_advance (hk ▸ hsep) hs]
            simp [TokenStream.push]
          refine ((ih _ hshorter later rfl).mono fun before hbefore => ?_).map _
          obtain ⟨more, hmore, hbefore⟩ := hbefore
          refine ⟨(⟨s.current, hk⟩, t) :: more, List.forall_mem_cons.mpr ⟨ht, hmore⟩, ?_⟩
          simpa using hbefore
      · have hnone : ∀ s', s'.current = s.current →
            (Rule.manyAfter separator x).run s' = (pure [] : Rule (List α)).run s' :=
          fun s' hs' => manyAfterRun_of_ne x (hs' ▸ hk)
        exact .of_agrees hnone (.pure [])

/-- One or more trees, with separators between them. -/
theorem Scans.separatedBy {separator : TokenKind} (hsep : separator ≠ .eof)
    (hscans : Scans x tokens allowed) (hreads : Reads x tokens value allowed ends) :
    Scans (Rule.separatedBy separator x) (Chain.yield tokens)
      fun c : Chain separator T => ∀ t ∈ c.items, allowed t := by
  intro s
  refine ((hscans s).mono ?_).bind_reads hreads ?_
  · rintro before ⟨t, ht, hbefore⟩
    exact ⟨.one t, by simpa [Chain.items] using ht, hbefore⟩
  · intro t later ht _
    refine ((hscans.manyAfter hsep hreads later).mono fun before hbefore => ?_).map _
    obtain ⟨more, hmore, hbefore⟩ := hbefore
    refine ⟨Chain.link t more, ?_, ?_⟩
    · simp only [Chain.items_link, List.forall_mem_cons, List.forall_mem_map]
      exact ⟨ht, hmore⟩
    · rw [Chain.yield_link]
      exact (List.prefix_append_right_inj _).mpr hbefore

end Trees

end Rule

end EntityFilter
