import EntityFilter.Proofs.Calendar.Fields
import EntityFilter.Proofs.Filter.Image
import EntityFilter.Proofs.Query.Verbatim

/-!
# Days and times of day keep their value

A filter may write one day or time of day in several ways (`Literal.SpeltBy`); in SQL it stands in
one way, with all fields in full width (`Literal.PrintedAs`).

**What is printed is read back** (`temporals_lossless`).  The tokens for days and times in a text
are their spellings (`Literal.speltBy_of_ofToken`), and every spelling is a token of its own that
denotes the day or time (`Literal.readAlone_of_speltBy`).  The printed text is one of the spellings,
so it denotes its own literal and no other.
-/

namespace EntityFilter

open Text (StartsBlank)

/-! ### The texts of tokens for days and times -/

/-- Two digits and a colon come first, and then characters of a time of day. -/
def IsTimeLexeme (text : List Char) : Prop :=
  ∃ hour more, text = hour ++ ':' :: more ∧ hour.length = 2 ∧ (∀ c ∈ hour, c.isDigit) ∧
    ∀ c ∈ more, Reading.isTimeChar c

/-- `value` is made up as a day or a time of day, if the kind is one of these. -/
def TokenKind.Shaped (value : String) : TokenKind → Prop
  | .date => StartsDate value.toList ∧ ∀ c ∈ value.toList, isDayChar c
  | .time => IsTimeLexeme value.toList
  | _     => True

/-- Words are neither. -/
theorem TokenKind.shaped_of_mem {kind : TokenKind}
    (h : kind ∈ [TokenKind.and, .or, .not, .member, .bool, .name]) (value : String) :
    kind.Shaped value := by
  simp only [List.mem_cons, List.not_mem_nil, or_false] at h
  rcases h with rfl | rfl | rfl | rfl | rfl | rfl <;> trivial

namespace Reading

/-- The token, if there is one, is shaped as a day or a time of day if it is one. -/
abbrev Shaped (r : Reading) : Prop :=
  r.Gives fun kind value => kind.Shaped value

theorem shaped_justDay {text : List Char} (h : StartsDate text) :
    (date.justDay (text.takeWhile isDayChar)).Shaped := by
  rw [date.justDay]
  split
  · change StartsDate (String.ofList _).toList ∧ ∀ c ∈ (String.ofList _).toList, isDayChar c
    rw [String.toList_ofList]
    exact ⟨startsDate_takeWhile h, fun c => List.mem_takeWhile_imp⟩
  · trivial

theorem shaped_date {text : List Char} (h : StartsDate text) : (date text).Shaped := by
  have hdateTime : ∀ lexeme, (dateTimeLexeme lexeme).Shaped := by
    intro lexeme
    rw [dateTimeLexeme]
    split <;> trivial
  rw [date_eq]
  split
  · split
    · exact hdateTime _
    · exact shaped_justDay h
  · exact shaped_justDay h

theorem shaped_time {hour more : List Char} (hlength : hour.length = 2)
    (hhour : ∀ c ∈ hour, c.isDigit) : (time (hour ++ ':' :: more)).Shaped := by
  have htake : (hour ++ ':' :: more).takeWhile isTimeChar =
      hour ++ ':' :: more.takeWhile isTimeChar := by
    rw [List.takeWhile_append_of_pos fun c hc => by simp [isTimeChar, hhour c hc],
      List.takeWhile_cons_of_pos rfl]
  rw [time_eq, htake]
  split
  · change IsTimeLexeme (String.ofList _).toList
    rw [String.toList_ofList]
    exact ⟨hour, _, rfl, hlength, hhour, fun c => List.mem_takeWhile_imp⟩
  · trivial

theorem shaped_numeric (text : List Char) : (numeric text).Shaped := by
  have hdigits : ∀ c ∈ text.take (digitsWidth text), c.isDigit := fun c => isDigit_of_mem_take
  have hsplit := List.take_append_drop (digitsWidth text) text
  have hlength : (text.take (digitsWidth text)).length = digitsWidth text := by
    rw [take_digitsWidth]
    rfl
  rw [numeric]
  split
  · rename_i d more hdrop
    rw [hdrop] at hsplit
    split
    · rename_i hdate
      simp only [Bool.and_eq_true, decide_eq_true_eq] at hdate
      exact shaped_date ⟨_, d, more, hsplit.symm, hlength.trans hdate.1, hdigits, hdate.2⟩
    · trivial
  · rename_i more hdrop
    rw [hdrop] at hsplit
    split
    · rename_i htime
      rw [← hsplit]
      exact shaped_time (hlength.trans htime) hdigits
    · trivial
  · trivial

theorem shaped_word (c : Char) (rest : List Char) : (word c rest).Shaped := by
  simp only [word, Shaped, Gives]
  exact TokenKind.shaped_of_mem (wordKind_cases _) _

theorem shaped_of (c : Char) (rest : List Char) : (Reading.of c rest).Shaped := by
  rw [Reading.of.eq_def]
  split
  · trivial
  · trivial
  · trivial
  · split <;> trivial
  · split <;> trivial
  · split <;> trivial
  · split <;> trivial
  · split
    · trivial
    · split <;> trivial
  · cases strBody .plain rest <;> trivial
  · cases inStrBody rest <;> trivial
  · cases uriBody rest <;> trivial
  · rw [reference]
    split <;> trivial
  · split
    · exact shaped_numeric _
    · split
      · exact shaped_word c rest
      · trivial

end Reading

/-! ### Spellings -/

namespace Literal

/-- A day, or a time of day. -/
def isDayOrTime : Literal → Bool
  | date _ | time _ => true
  | _               => false

/-- The ways to write a day or a time of day in a filter: four digits for the year, two for the
hour, one or two for the other fields; the seconds of a whole minute may be left out, and any number
of digits may stand behind the point. -/
def SpeltBy (text : List Char) : Literal → Prop
  | date d => d.Written 1 text
  | time t => t.Written 1 text ∨ t.Short text
  | _      => False

/-- The way a day or a time of day is printed: all fields in full width, and 0, 3, 6 or 9 digits
behind the eight characters of a time and a point. -/
def PrintedAs (text : List Char) : Literal → Prop
  | date d => d.Written 2 text
  | time t => t.Written 2 text ∧ text.length ∈ [8, 12, 15, 18]
  | _      => False

/-- The text is a single token, of the kind that stands for `v`, and denotes `v`. -/
def ReadAlone (text : String) (v : Literal) : Prop :=
  ∃ s t, tokenize text = .ok s ∧ s.tokens = [t] ∧ t.kind = v.lexeme.kind ∧ t.value = text ∧
    ofToken t = .ok v

/-- Some accepted text compares with `v`. -/
def Occurs (v : Literal) : Prop :=
  ∃ text e, parse text = .ok e ∧ v ∈ e.references.flatMap Reference.values

end Literal

/-- A lexeme that reads and is written as its value is a text with one token. -/
theorem Lexeme.Reads.tokenize {kind : TokenKind} {text : String}
    (h : Lexeme.Reads ⟨kind, text, text.toList⟩) :
    ∃ s t, tokenize text = .ok s ∧ s.tokens = [t] ∧ t.kind = kind ∧ t.value = text := by
  have hlaid : Laid text.toList [⟨kind, text, text.toList⟩] := by
    have hgap : ∀ c ∈ ([] : List Char), Text.isBlank c := List.forall_mem_nil _
    have hrest : StartsBlank [] := by simp [StartsBlank]
    have hcons := Laid.cons (l := ⟨kind, text, text.toList⟩) hgap hrest (.nil hgap)
    rwa [List.nil_append, List.append_nil] at hcons
  obtain ⟨s, hs, hspells⟩ := hlaid.tokens (by simpa using h) (Cursor.start text) rfl
  obtain ⟨t, ht, hpair⟩ := List.map_eq_singleton_iff.mp hspells
  obtain ⟨hkind, hvalue⟩ := Prod.mk.inj hpair
  exact ⟨s, t, hs, ht, hkind, hvalue⟩

/-- A day that is written looks as the token for a day has to. -/
theorem Date.Written.shaped {d : Date} {text : List Char} (h : d.Written 1 text) :
    StartsDate text ∧ ∀ c ∈ text, isDayChar c := by
  obtain ⟨n, year, month, day, rfl, -, hyear, hmonth, hday⟩ := h
  have hchars : ∀ run : List Char, (∀ c ∈ run, c.isDigit) → ∀ c ∈ run, isDayChar c :=
    fun run hrun c hc => by simp [isDayChar, hrun c hc]
  obtain ⟨c, more, hcons⟩ := List.exists_cons_of_ne_nil (hmonth.ne_nil le_rfl)
  refine ⟨⟨year, c, more ++ '-' :: day, by rw [hcons, List.cons_append],
    hyear.length_eq, hyear.isDigit,
    hmonth.isDigit c (hcons ▸ List.mem_cons_self)⟩, ?_⟩
  simp only [List.forall_mem_append, List.forall_mem_cons]
  exact ⟨hchars _ hyear.isDigit, rfl, hchars _ hmonth.isDigit, rfl, hchars _ hday.isDigit⟩

theorem isTimeChar_of_isField {least most n : Nat} {run : List Char}
    (h : Text.IsField least most n run) : ∀ c ∈ run, Reading.isTimeChar c :=
  fun c hc => by simp [Reading.isTimeChar, h.isDigit c hc]

/-- A time of day that is written, with or without seconds, looks as the token for one has to. -/
theorem TimeOfDay.isTimeLexeme {t : TimeOfDay} {text : List Char}
    (h : t.Written 1 text ∨ t.Short text) : IsTimeLexeme text := by
  rcases h with ⟨hour, minute, second, part, rfl, hhour, hminute, hsecond, hpart⟩ |
    ⟨-, -, hour, minute, rfl, hhour, hminute⟩
  · refine ⟨hour, _, rfl, hhour.length_eq, hhour.isDigit, ?_⟩
    have hchars : ∀ c ∈ part, Reading.isTimeChar c := by
      intro c hc
      rcases hpart.mem c hc with rfl | hdigit
      · rfl
      · simp [Reading.isTimeChar, hdigit]
    simp only [List.forall_mem_append, List.forall_mem_cons]
    exact ⟨isTimeChar_of_isField hminute, rfl, isTimeChar_of_isField hsecond, hchars⟩
  · exact ⟨hour, minute, rfl, hhour.length_eq, hhour.isDigit, isTimeChar_of_isField hminute⟩

theorem TimeOfDay.read?_of_spelt {t : TimeOfDay} {text : List Char}
    (h : t.Written 1 text ∨ t.Short text) : read? text = some t :=
  h.elim read?_of_written read?_of_short

namespace Literal

/-- **A spelling is a token of its own**, which denotes what it spells. -/
theorem readAlone_of_speltBy {v : Literal} {text : String} (h : v.SpeltBy text.toList) :
    v.ReadAlone text := by
  cases v with
  | date d =>
      have hread := Date.read?_of_written h
      obtain ⟨hstart, hchars⟩ := Date.Written.shaped h
      obtain ⟨s, ⟨kind, value, p⟩, hs, ht, rfl, rfl⟩ :=
        (Reading.reads_date hstart hchars (by rw [hread]; rfl)).tokenize
      exact ⟨s, _, hs, ht, rfl, rfl, by simp only [ofToken, hread]; rfl⟩
  | time t =>
      have hread := TimeOfDay.read?_of_spelt h
      obtain ⟨hour, more, htext, hlength, hhour, hmore⟩ := TimeOfDay.isTimeLexeme h
      obtain ⟨s, ⟨kind, value, p⟩, hs, ht, rfl, rfl⟩ :=
        (Reading.reads_time htext hlength hhour hmore (by rw [hread]; rfl)).tokenize
      exact ⟨s, _, hs, ht, rfl, rfl, by simp only [ofToken, hread]; rfl⟩
  | _ => exact h.elim

/-- What denotes a day or a time of day is a token of that kind. -/
theorem of_ofToken {v : Literal} {t : Token} (h : ofToken t = .ok v) (hv : v.isDayOrTime) :
    (∃ d, t.kind = .date ∧ Date.read? t.value.toList = some d ∧ v = date d) ∨
      ∃ c, t.kind = .time ∧ TimeOfDay.read? t.value.toList = some c ∧ v = time c := by
  have hother : ∀ w, w.isDayOrTime = false →
      (Except.ok w : Except SyntaxCause Literal) ≠ .ok v := by
    rintro w hw heq
    rw [Except.ok.inj heq, hv] at hw
    cases hw
  rw [ofToken.eq_def] at h
  split at h
  · exact absurd h (hother _ rfl)
  · cases hid : Text.int64? t.value.toList with
    | none => rw [hid] at h; cases h
    | some id => rw [hid] at h; exact absurd h (hother _ rfl)
  · exact absurd h (hother _ rfl)
  · exact absurd h (hother _ rfl)
  · exact absurd h (hother _ rfl)
  · exact absurd h (hother _ rfl)
  · rename_i hkind
    cases hd : Date.read? t.value.toList with
    | none => rw [hd] at h; cases h
    | some d =>
        rw [hd] at h
        exact .inl ⟨d, hkind, rfl, (Except.ok.inj h).symm⟩
  · rename_i hkind
    cases hc : TimeOfDay.read? t.value.toList with
    | none => rw [hc] at h; cases h
    | some c =>
        rw [hc] at h
        exact .inr ⟨c, hkind, rfl, (Except.ok.inj h).symm⟩
  · exact absurd h (hother _ rfl)
  · cases h

theorem exists_ofToken {t : Token} (hfits : t.kind.Fits t.value)
    (hkind : t.kind = .date ∨ t.kind = .time) : ∃ v, ofToken t = .ok v ∧ v.isDayOrTime := by
  obtain ⟨kind, value, p⟩ := t
  rcases hkind with rfl | rfl
  · obtain ⟨d, hd⟩ := Option.isSome_iff_exists.mp hfits
    exact ⟨date d, by simp only [ofToken, hd]; rfl, rfl⟩
  · obtain ⟨c, hc⟩ := Option.isSome_iff_exists.mp hfits
    exact ⟨time c, by simp only [ofToken, hc]; rfl, rfl⟩

/-- A token that denotes a day or a time of day is one of its spellings. -/
theorem speltBy_of_ofToken {v : Literal} {t : Token} (hshape : t.kind.Shaped t.value)
    (h : ofToken t = .ok v) (hv : v.isDayOrTime) : v.SpeltBy t.value.toList := by
  rcases of_ofToken h hv with ⟨d, hkind, hread, rfl⟩ | ⟨c, hkind, hread, rfl⟩
  · rw [hkind] at hshape
    obtain ⟨⟨year, x, rest, htext, hlength, hyear, -⟩, hchars⟩ := hshape
    refine Date.written_of_read? htext hlength hyear (fun x hx => ?_) hread
    refine Text.not_isBlank_of_isVisible (Reading.isVisible_of_isDayChar (hchars x ?_))
    rw [htext]
    exact List.mem_append_right _ (List.mem_cons_of_mem _ hx)
  · rw [hkind] at hshape
    obtain ⟨hour, more, htext, hlength, hhour, hmore⟩ := hshape
    exact TimeOfDay.written_of_read? htext hlength hhour (fun x hx =>
      Text.not_isBlank_of_isVisible (Reading.isVisible_of_isTimeChar (hmore x hx))) hread

theorem shaped_of_mem_tokens {text : String} {s : TokenStream} (hs : tokenize text = .ok s)
    {t : Token} (ht : t ∈ s.tokens) : t.kind.Shaped t.value :=
  Cursor.forall_mem_tokens Reading.shaped_of hs t ht

/-- A text that is a single token for a day or a time of day is one of its spellings. -/
theorem readAlone_iff_speltBy {v : Literal} (hv : v.isDayOrTime) (text : String) :
    v.ReadAlone text ↔ v.SpeltBy text.toList := by
  refine ⟨?_, readAlone_of_speltBy⟩
  rintro ⟨s, t, hs, ht, -, rfl, hof⟩
  exact speltBy_of_ofToken (shaped_of_mem_tokens hs (ht ▸ List.mem_singleton_self t)) hof hv

/-- A text is read alone as one literal at most. -/
theorem ReadAlone.unique {v w : Literal} {text : String} (hv : v.ReadAlone text)
    (hw : w.ReadAlone text) : v = w := by
  obtain ⟨s, t, hs, ht, -, -, hof⟩ := hv
  obtain ⟨s', t', hs', ht', -, -, hof'⟩ := hw
  rw [hs] at hs'
  obtain rfl := Except.ok.inj hs'
  rw [ht] at ht'
  obtain rfl := List.singleton_inj.mp ht'
  rw [hof] at hof'
  exact Except.ok.inj hof'

/-! ### Printing -/

theorem speltBy_of_printedAs {v : Literal} {text : List Char} (h : v.PrintedAs text) :
    v.SpeltBy text := by
  cases v with
  | date d => exact Date.Written.widen h (by decide)
  | time t => exact .inl (h.1.widen (by decide))
  | _ => exact h.elim

/-- What has a spelling is printed in full width. -/
theorem exists_printed {v : Literal} {text : List Char} (h : v.SpeltBy text) :
    ∃ printed, v.toSql = .text printed ∧ v.PrintedAs printed.toList := by
  cases v with
  | date d => exact ⟨d.text, rfl, Date.written_text (Date.Written.year_le h)⟩
  | time t => exact ⟨t.text, rfl, t.written_text⟩
  | _ => exact h.elim

/-- The days and times of accepted texts have spellings, which stand there. -/
theorem Occurs.exists_speltBy {v : Literal} (h : v.Occurs) (hv : v.isDayOrTime) :
    ∃ text, v.SpeltBy text := by
  obtain ⟨text, e, he, hmem⟩ := h
  obtain ⟨s, hs, hvalues⟩ := map_ofToken_of_parse he
  have hok : Except.ok v ∈ (s.tokens.filter Token.isValue).map ofToken := by
    rw [hvalues]
    exact List.mem_map_of_mem hmem
  obtain ⟨t, ht, hof⟩ := List.mem_map.mp hok
  exact ⟨_, speltBy_of_ofToken (shaped_of_mem_tokens hs (List.mem_of_mem_filter ht)) hof hv⟩

/-- Whatever has a spelling occurs. -/
theorem occurs_of_speltBy {v : Literal} {text : List Char} (h : v.SpeltBy text) : v.Occurs := by
  have hproper : v.Proper := by
    cases v with
    | date d => exact Date.Written.year_le h
    | time t => trivial
    | _ => exact h.elim
  have hname : IsName "x" := ⟨⟨'x', [], rfl, by decide, by simp⟩, by decide, by decide⟩
  have hpath : Path.Proper ⟨["x"]⟩ := ⟨by simp, by simpa using hname⟩
  refine ⟨_, Expr.compare ⟨["x"]⟩ .eq v, parse_canonicalText ⟨hpath, hproper⟩
    (show 0 < maxNesting by decide), ?_⟩
  simp [Expr.references, Reference.values, Condition.values]

end Literal

/-- **Days and times of day lose nothing on the way to SQL.**  The text of one that occurs in an
accepted filter has all fields in full width, is a single token of its kind and denotes it again,
and is the text of no other.  The texts that are read alone as it are its spellings, and so are the
tokens for days and times of any text. -/
theorem temporals_lossless :
    (∀ v : Literal, v.Occurs → v.isDayOrTime →
      ∃ printed, v.toSql = .text printed ∧ v.PrintedAs printed.toList ∧ v.ReadAlone printed ∧
        (∀ text, v.ReadAlone text ↔ v.SpeltBy text.toList) ∧
        ∀ w : Literal, w.Occurs → w.isDayOrTime → w.toSql = .text printed → w = v) ∧
    ∀ (text : String) (s : TokenStream) (t : Token), tokenize text = .ok s → t ∈ s.tokens →
      t.kind = .date ∨ t.kind = .time →
      ∃ v, Literal.ofToken t = .ok v ∧ v.isDayOrTime ∧ v.Occurs ∧ v.SpeltBy t.value.toList := by
  constructor
  · intro v hoccurs hv
    obtain ⟨_, hspelt⟩ := hoccurs.exists_speltBy hv
    obtain ⟨printed, htext, hprinted⟩ := Literal.exists_printed hspelt
    have hread := Literal.readAlone_of_speltBy (Literal.speltBy_of_printedAs hprinted)
    refine ⟨printed, htext, hprinted, hread, Literal.readAlone_iff_speltBy hv,
      fun w hoccurs' hw htext' => ?_⟩
    obtain ⟨_, hspelt'⟩ := hoccurs'.exists_speltBy hw
    obtain ⟨printed', htext'', hprinted'⟩ := Literal.exists_printed hspelt'
    rw [htext'] at htext''
    obtain rfl := SqlValue.text.inj htext''
    exact (Literal.readAlone_of_speltBy (Literal.speltBy_of_printedAs hprinted')).unique hread
  · intro text s t hs ht hkind
    obtain ⟨v, hof, hv⟩ := Literal.exists_ofToken (Cursor.fits_of_mem_tokens hs t ht) hkind
    have hspelt := Literal.speltBy_of_ofToken (Literal.shaped_of_mem_tokens hs ht) hof hv
    exact ⟨v, hof, hv, Literal.occurs_of_speltBy hspelt, hspelt⟩

set_option maxRecDepth 8000 in
/-- A quarter into the leap second of a day, which is written with two digits and printed with
three. -/
theorem temporals_lossless_leap_second :
    ∃ v : Literal, v.Occurs ∧ v.toSql = .text "23:59:60.250" ∧ v.ReadAlone "23:59:60.250" ∧
      v.ReadAlone "23:59:60.25" := by
  have hparse : parse "a<23:59:60.25" =
      .ok (.compare ⟨["a"]⟩ .lt (.time ⟨23, 59, 60, 250000000, by decide⟩)) := by cbv
  have hoccurs : (Literal.time ⟨23, 59, 60, 250000000, by decide⟩).Occurs :=
    ⟨_, _, hparse, List.mem_singleton_self _⟩
  obtain ⟨printed, htext, -, hread, hspellings, -⟩ := temporals_lossless.1 _ hoccurs rfl
  obtain rfl : "23:59:60.250" = printed := SqlValue.text.inj htext
  have htokens : tokenize "23:59:60.25" = .ok ⟨[⟨.time, "23:59:60.25", ⟨1, 1⟩⟩], ⟨1, 12⟩⟩ := by cbv
  obtain ⟨v, hof, -, -, hspelt⟩ :=
    temporals_lossless.2 _ _ _ htokens (List.mem_singleton_self _) (.inr rfl)
  obtain rfl : .time ⟨23, 59, 60, 250000000, by decide⟩ = v := Except.ok.inj hof
  exact ⟨_, hoccurs, htext, hread, (hspellings _).mpr hspelt⟩

end EntityFilter
