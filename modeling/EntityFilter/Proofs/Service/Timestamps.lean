import EntityFilter.Proofs.Calendar.Days
import EntityFilter.Proofs.Calendar.Fields
import EntityFilter.Service.Request

/-!
# Timestamps

The ways to write an instant (`IsStamp`): a day alone, a day and a time of day, or both with an
offset from UTC, each with its fields in full width.

**All spellings agree on the instant** (`ValuesRequest.timestamps_agree`).  Four rules are tried in
turn, of which each reads its own spellings and leaves the others to those after it
(`Instant.read?_of_isStamp`).  An offset is taken from the fields, with a carry into the day before
or after, and the bounds of a request are in order just when these fields are.
-/

namespace EntityFilter

open Text (Stops)

/-! ### Spellings of instants -/

/-- `Z`, or a sign, hours and minutes, for a clock so many minutes ahead of UTC. -/
inductive IsZone : Int → List Char → Prop
  | utc {c : Char} (hc : c = 'Z' ∨ c = 'z') : IsZone 0 [c]
  | ahead {h m : Nat} {hour minute : List Char} (hhour : Text.IsField 2 2 h hour)
      (hminute : Text.IsField 2 2 m minute) (hh : h ≤ 23) (hm : m ≤ 59) :
      IsZone (h * 60 + m) ('+' :: (hour ++ ':' :: minute))
  | behind {sign : Char} {h m : Nat} {hour minute : List Char} (hsign : sign = '-' ∨ sign = '−')
      (hhour : Text.IsField 2 2 h hour) (hminute : Text.IsField 2 2 m minute) (hh : h ≤ 23)
      (hm : m ≤ 59) : IsZone (-(h * 60 + m)) (sign :: (hour ++ ':' :: minute))

/-- The text shows a day, a time of day and the minutes that the clock runs ahead of UTC. -/
inductive IsStamp : List Char → Date → TimeOfDay → Int → Prop
  /-- A day, at midnight in UTC. -/
  | day {text : List Char} {d : Date} (hd : d.Written 2 text) : IsStamp text d .midnight 0
  /-- A day and a time of day in UTC. -/
  | plain {c : Char} {day time : List Char} {d : Date} {t : TimeOfDay} (hc : c = 'T' ∨ c = ' ')
      (hd : d.Written 2 day) (ht : t.Written 2 time) : IsStamp (day ++ c :: time) d t 0
  /-- A day, a time of day and an offset. -/
  | zoned {c : Char} {day time zone : List Char} {d : Date} {t : TimeOfDay} {ahead : Int}
      (hc : c = 'T' ∨ c = 't' ∨ c = ' ') (hd : d.Written 2 day) (ht : t.Written 2 time)
      (hzone : IsZone ahead zone) : IsStamp (day ++ c :: (time ++ zone)) d t ahead

theorem IsZone.lt_day {ahead : Int} {zone : List Char} (h : IsZone ahead zone) :
    -1440 < ahead ∧ ahead < 1440 := by
  cases h with
  | utc _ => decide
  | ahead _ _ hh hm => omega
  | behind _ _ _ hh hm => omega

theorem IsStamp.year_le {text : List Char} {d : Date} {t : TimeOfDay} {ahead : Int}
    (h : IsStamp text d t ahead) : 0 ≤ d.year ∧ d.year ≤ 9999 := by
  cases h with
  | day hd => exact hd.year_le
  | plain _ hd _ => exact hd.year_le
  | zoned _ hd _ _ => exact hd.year_le

theorem IsStamp.lt_day {text : List Char} {d : Date} {t : TimeOfDay} {ahead : Int}
    (h : IsStamp text d t ahead) : -1440 < ahead ∧ ahead < 1440 := by
  cases h with
  | day _ => decide
  | plain _ _ _ => decide
  | zoned _ _ _ hzone => exact hzone.lt_day

/-! ### Visible characters -/

theorem Text.IsField.isVisible {least most n : Nat} {run : List Char}
    (h : IsField least most n run) : ∀ c ∈ run, IsVisible c :=
  fun c hc => isVisible_of_isDigit (h.isDigit c hc)

theorem Text.IsPart.isVisible {nano : Nat} {part : List Char} (h : IsPart nano part) :
    ∀ c ∈ part, IsVisible c := by
  intro c hc
  rcases h.mem c hc with rfl | hdigit
  · decide
  · exact isVisible_of_isDigit hdigit

theorem Text.stops_isBlank {text : List Char} (h : ∀ c ∈ text, IsVisible c) :
    Stops isBlank text :=
  fun c hc => not_isBlank_of_isVisible (h c (List.mem_of_mem_head? hc))

theorem Date.Written.isVisible {d : Date} {least : Nat} {text : List Char}
    (h : d.Written least text) : text ≠ [] ∧ ∀ c ∈ text, Text.IsVisible c := by
  obtain ⟨n, year, month, day, rfl, -, hyear, hmonth, hday⟩ := h
  simp only [List.forall_mem_append, List.forall_mem_cons]
  exact ⟨by simp, hyear.isVisible, by decide, hmonth.isVisible, by decide, hday.isVisible⟩

theorem TimeOfDay.Written.isVisible {t : TimeOfDay} {least : Nat} {text : List Char}
    (h : t.Written least text) : text ≠ [] ∧ ∀ c ∈ text, Text.IsVisible c := by
  obtain ⟨hour, minute, second, part, rfl, hhour, hminute, hsecond, hpart⟩ := h
  simp only [List.forall_mem_append, List.forall_mem_cons]
  exact ⟨by simp, hhour.isVisible, by decide, hminute.isVisible, by decide, hsecond.isVisible,
    hpart.isVisible⟩

/-! ### The rules read their spellings -/

namespace Reader

theorem hoursMinutes_of_fields {h m : Nat} {hour minute : List Char}
    (hhour : Text.IsField 2 2 h hour) (hminute : Text.IsField 2 2 m minute) (hh : h ≤ 23)
    (hm : m ≤ 59) :
    offset.hoursMinutes (hour ++ ':' :: minute) = some (60 * (h * 60 + m : Int), []) := by
  have hlast := field_of_field hminute []
  rw [List.append_nil] at hlast
  rw [offset.hoursMinutes, bind_of_eq (field_of_field hhour _), bind_of_eq (char_cons _ _),
    bind_of_eq hlast, if_pos (by simp [hh, hm])]
  change some (((h * 3600 + m * 60 : Nat) : Int), ([] : List Char)) = _
  have hseconds : ((h * 3600 + m * 60 : Nat) : Int) = 60 * (h * 60 + m : Int) := by omega
  rw [hseconds]

theorem offset_of_isZone {ahead : Int} {zone : List Char} (h : IsZone ahead zone) :
    offset zone = some (60 * ahead, []) := by
  cases h with
  | utc hc => rcases hc with rfl | rfl <;> rfl
  | ahead hhour hminute hh hm =>
      exact hoursMinutes_of_fields hhour hminute hh hm
  | @behind sign h m hour minute hsign hhour hminute hh hm =>
      have hread := hoursMinutes_of_fields hhour hminute hh hm
      have hneg : offset (sign :: (hour ++ ':' :: minute)) =
          (offset.hoursMinutes (hour ++ ':' :: minute)).bind fun p => some (-p.1, p.2) := by
        rcases hsign with rfl | rfl <;> rfl
      rw [hneg, hread, Option.bind_some, ← Int.mul_neg]

/-- A day and a time of day in full width are taken, and an offset is asked for. -/
theorem internetTime_append {c : Char} {day time rest : List Char} {d : Date} {t : TimeOfDay}
    (hc : c = 'T' ∨ c = 't' ∨ c = ' ') (hd : d.Written 2 day) (ht : t.Written 2 time)
    (hdigit : Stops Char.isDigit rest) (hpoint : Stops (· == '.') rest) :
    internetTime (day ++ c :: (time ++ rest)) =
      (offset rest).bind fun p => some (Instant.ofLocal d t p.1, p.2) := by
  obtain ⟨n, year, month, dayOf, rfl, hn, hyear, hmonth, hday⟩ := hd
  obtain ⟨hour, minute, second, part, rfl, hhour, hminute, hsecond, hpart⟩ := ht
  have hsep : ∀ more, separator (c :: more) = some ((), more) := by
    rcases hc with rfl | rfl | rfl <;> exact fun more => rfl
  simp only [List.append_assoc, List.cons_append]
  rw [internetTime, bind_of_eq (field_of_field hyear _), bind_of_eq (char_cons _ _),
    bind_of_eq (field_of_field hmonth _), bind_of_eq (char_cons _ _),
    bind_of_eq (field_of_field hday _), bind_of_eq (hsep _),
    bind_of_eq (field_of_field hhour _), bind_of_eq (char_cons _ _),
    bind_of_eq (field_of_field hminute _), bind_of_eq (char_cons _ _),
    bind_of_eq (field_of_field hsecond _), bind_of_eq (fraction_of_part hpart hdigit hpoint),
    bind_apply, ← hn, Date.of?_self, TimeOfDay.of?_self]
  rfl

/-- Without a time of day the separator is missed. -/
theorem internetTime_day {day : List Char} {d : Date} (hd : d.Written 2 day) :
    internetTime day = none := by
  obtain ⟨n, year, month, dayOf, rfl, -, hyear, hmonth, hday⟩ := hd
  have hlast := field_of_field hday []
  rw [List.append_nil] at hlast
  rw [internetTime, bind_of_eq (field_of_field hyear _), bind_of_eq (char_cons _ _),
    bind_of_eq (field_of_field hmonth _), bind_of_eq (char_cons _ _), bind_of_eq hlast]
  rfl

/-- A day in full width is taken, and a time of day is asked for. -/
theorem dateTime_append (between : Reader Unit) {day rest : List Char} {d : Date}
    (hd : d.Written 2 day) (hrest : Stops Char.isDigit rest) :
    dateTime between clock (day ++ rest) = (between rest).bind fun p =>
      (clock p.2).bind fun q => some (Instant.ofUtc d q.1, q.2) := by
  rw [dateTime, bind_of_eq (date_append (hd.widen (by decide)) hrest)]
  rfl

theorem clock_of_written {time : List Char} {t : TimeOfDay} (ht : t.Written 2 time) :
    clock time = some (t, []) := by
  have hread := clock_append (ht.widen (show 1 ≤ 2 by decide)) Text.stops_nil Text.stops_nil
  rwa [List.append_nil] at hread

theorem whole?_eq_none {α : Type} {rule : Reader α} {text : List Char} (h : rule text = none) :
    rule.whole? text = none := by
  rw [whole?, h]

end Reader

/-- An offset starts with neither a digit nor a point. -/
theorem IsZone.stops {ahead : Int} {zone : List Char} (h : IsZone ahead zone) :
    Stops Char.isDigit zone ∧ Stops (· == '.') zone := by
  cases h with
  | utc hc => rcases hc with rfl | rfl <;> exact ⟨Text.stops_cons.mpr rfl, Text.stops_cons.mpr rfl⟩
  | ahead _ _ _ _ => exact ⟨Text.stops_cons.mpr rfl, Text.stops_cons.mpr rfl⟩
  | behind hsign _ _ _ _ =>
      rcases hsign with rfl | rfl <;> exact ⟨Text.stops_cons.mpr rfl, Text.stops_cons.mpr rfl⟩

namespace Instant

/-- **Every spelling is read by its own rule**, as none of those before it applies. -/
theorem read?_of_isStamp {text : List Char} {d : Date} {t : TimeOfDay} {ahead : Int}
    (h : IsStamp text d t ahead) : read? text = some (ofLocal d t (60 * ahead)) := by
  rw [read?]
  cases h with
  | day hd =>
      have hdate := Reader.dateTime_append (Reader.char 'T') hd Text.stops_nil
      have hblanks := Reader.dateTime_append Reader.blanks hd Text.stops_nil
      rw [List.append_nil] at hdate hblanks
      rw [Reader.whole?_eq_none (Reader.internetTime_day hd), Reader.whole?_eq_none hdate,
        Reader.whole?_eq_none hblanks, Date.read?_of_written (hd.widen (by decide))]
      rfl
  | @plain c day time _ _ hc hd ht =>
      have hoffset := Reader.internetTime_append (hc.imp_right .inr) hd ht Text.stops_nil
        Text.stops_nil
      rw [List.append_nil] at hoffset
      rw [Reader.whole?_eq_none hoffset]
      rcases hc with rfl | rfl
      · have hstop : Stops Char.isDigit ('T' :: time) := Text.stops_cons.mpr (by decide)
        have hdate := Reader.dateTime_append (Reader.char 'T') hd hstop
        rw [Reader.char_cons, Option.bind_some, Reader.clock_of_written ht] at hdate
        rw [Reader.whole?_eq_some_iff.mpr hdate]
        rfl
      · have hstop : Stops Char.isDigit (' ' :: time) := Text.stops_cons.mpr (by decide)
        have hdate := Reader.dateTime_append (Reader.char 'T') hd hstop
        have hblanks := Reader.dateTime_append Reader.blanks hd hstop
        have htrim : Reader.blanks (' ' :: time) = some ((), time) := by
          have hspace : ∀ c ∈ [' '], Text.isBlank c := List.forall_mem_singleton.mpr rfl
          have hdrop := Text.dropWhile_append_of_stops hspace (Text.stops_isBlank ht.isVisible.2)
          rw [Reader.blanks, Text.trimStart, ← List.singleton_append, hdrop]
        rw [htrim, Option.bind_some, Reader.clock_of_written ht] at hblanks
        rw [Reader.whole?_eq_none hdate, Reader.whole?_eq_some_iff.mpr hblanks]
        rfl
  | zoned hc hd ht hzone =>
      obtain ⟨hdigit, hpoint⟩ := hzone.stops
      have hread := Reader.internetTime_append hc hd ht hdigit hpoint
      rw [Reader.offset_of_isZone hzone] at hread
      rw [Reader.whole?_eq_some_iff.mpr hread]
      rfl

end Instant

/-! ### Blanks around a spelling -/

/-- Trimming leaves a text that starts and ends with no blank. -/
theorem Text.trim_eq {gap text gap' : List Char} (hgap : ∀ c ∈ gap, isBlank c)
    (hgap' : ∀ c ∈ gap', isBlank c) (hne : text ≠ []) (hstart : Stops isBlank text)
    (hend : Stops isBlank text.reverse) :
    (trim (String.ofList (gap ++ (text ++ gap')))).toList = text := by
  have hfront : Stops isBlank (text ++ gap') := by
    obtain ⟨c, rest, rfl⟩ := List.exists_cons_of_ne_nil hne
    exact hstart
  rw [trim, String.toList_ofList, String.toList_ofList, trimStart,
    dropWhile_append_of_stops hgap hfront, trimEnd, List.reverse_append,
    dropWhile_append_of_stops (by simpa using hgap') hend, List.reverse_reverse]

/-- A text ends with no blank if it ends in characters that are none. -/
theorem Text.stops_reverse_append (front : List Char) {back : List Char} (hne : back ≠ [])
    (hback : ∀ c ∈ back, IsVisible c) : Stops isBlank (front ++ back).reverse := by
  intro c hc
  rw [List.head?_reverse, List.getLast?_append_of_ne_nil front hne] at hc
  exact not_isBlank_of_isVisible (hback c (List.mem_of_mem_getLast? hc))

theorem IsZone.stops_reverse {ahead : Int} {zone : List Char} (h : IsZone ahead zone)
    (front : List Char) : Stops Text.isBlank (front ++ zone).reverse := by
  have hminutes : ∀ {sign : Char} {m : Nat} {hour minute : List Char}, Text.IsField 2 2 m minute →
      Stops Text.isBlank (front ++ sign :: (hour ++ ':' :: minute)).reverse := by
    intro sign m hour minute hminute
    have hstops := Text.stops_reverse_append (front ++ sign :: (hour ++ [':']))
      (hminute.ne_nil (by decide)) hminute.isVisible
    simpa only [List.append_assoc, List.cons_append, List.nil_append] using hstops
  cases h with
  | utc hc =>
      refine Text.stops_reverse_append front (by simp) fun c hmem => ?_
      rw [List.mem_singleton.mp hmem]
      rcases hc with rfl | rfl <;> decide
  | ahead _ hminute _ _ => exact hminutes hminute
  | behind _ _ hminute _ _ => exact hminutes hminute

/-- A spelling starts and ends with no blank. -/
theorem IsStamp.stops {text : List Char} {d : Date} {t : TimeOfDay} {ahead : Int}
    (h : IsStamp text d t ahead) :
    text ≠ [] ∧ Stops Text.isBlank text ∧ Stops Text.isBlank text.reverse := by
  have hstart : ∀ {day : List Char}, d.Written 2 day → ∀ rest, day ++ rest ≠ [] ∧
      Stops Text.isBlank (day ++ rest) := by
    intro day hd rest
    obtain ⟨hne, hvisible⟩ := hd.isVisible
    have hstops := Text.stops_isBlank hvisible
    obtain ⟨c, more, rfl⟩ := List.exists_cons_of_ne_nil hne
    exact ⟨by simp, hstops⟩
  cases h with
  | day hd =>
      obtain ⟨hne, hfirst⟩ := hstart hd []
      rw [List.append_nil] at hne hfirst
      exact ⟨hne, hfirst, Text.stops_reverse_append [] hne hd.isVisible.2⟩
  | @plain c day time _ _ hc hd ht =>
      obtain ⟨hne, hfirst⟩ := hstart hd (c :: time)
      refine ⟨hne, hfirst, ?_⟩
      have hlast := Text.stops_reverse_append (day ++ [c]) ht.isVisible.1 ht.isVisible.2
      rwa [List.append_assoc, List.singleton_append] at hlast
  | @zoned c day time zone _ _ _ hc hd ht hzone =>
      obtain ⟨hne, hfirst⟩ := hstart hd (c :: (time ++ zone))
      refine ⟨hne, hfirst, ?_⟩
      have hlast := hzone.stops_reverse (day ++ c :: time)
      rwa [List.append_assoc, List.cons_append] at hlast

/-! ### Bounds of requests -/

/-- The text shows a day, a time of day and the minutes that the clock runs ahead of UTC, with
blanks around them. -/
def Stamped (text : String) (d : Date) (t : TimeOfDay) (ahead : Int) : Prop :=
  ∃ gap body gap', text = String.ofList (gap ++ (body ++ gap')) ∧ (∀ c ∈ gap, Text.isBlank c) ∧
    (∀ c ∈ gap', Text.isBlank c) ∧ IsStamp body d t ahead

theorem stamped_of_isStamp {text : String} {d : Date} {t : TimeOfDay} {ahead : Int}
    (h : IsStamp text.toList d t ahead) : Stamped text d t ahead := by
  refine ⟨[], text.toList, [], ?_, by simp, by simp, h⟩
  rw [List.nil_append, List.append_nil, String.ofList_toList]

/-- Every day of the years 0 to 9999 is written alone, with every time of day, and with every
offset of less than a day. -/
theorem stamped_text {d : Date} (hd : 0 ≤ d.year ∧ d.year ≤ 9999) {t : TimeOfDay} {clock : String}
    (ht : t.Written 2 clock.toList) :
    Stamped d.text d .midnight 0 ∧ Stamped (d.text ++ "T" ++ clock) d t 0 ∧
    Stamped (d.text ++ " " ++ clock) d t 0 ∧ Stamped (d.text ++ "T" ++ clock ++ "Z") d t 0 ∧
    ∀ h m : Nat, h ≤ 23 → m ≤ 59 →
      Stamped (d.text ++ "T" ++ clock ++ "+" ++ Text.padded 2 h ++ ":" ++ Text.padded 2 m) d t
        (h * 60 + m) ∧
      Stamped (d.text ++ "T" ++ clock ++ "-" ++ Text.padded 2 h ++ ":" ++ Text.padded 2 m) d t
        (-(h * 60 + m)) := by
  have hday := Date.written_text hd
  have hfield : ∀ n, n ≤ 59 → Text.IsField 2 2 n (Text.padded 2 n).toList :=
    fun n hn => Text.isField_padded (by decide) (by omega)
  have hplus : "+".toList = ['+'] := rfl
  have hminus : "-".toList = ['-'] := rfl
  have hcolon : ":".toList = [':'] := rfl
  have hzoned : ∀ {zone : String} {ahead : Int}, IsZone ahead zone.toList →
      Stamped (d.text ++ "T" ++ clock ++ zone) d t ahead := by
    intro zone ahead hzone
    refine stamped_of_isStamp ?_
    simp only [String.toList_append, List.append_assoc]
    change IsStamp (d.text.toList ++ 'T' :: (clock.toList ++ zone.toList)) d t ahead
    exact .zoned (.inl rfl) hday ht hzone
  refine ⟨stamped_of_isStamp (.day hday), stamped_of_isStamp ?_, stamped_of_isStamp ?_,
    hzoned (.utc (.inl rfl)), fun h m hh hm => ⟨?_, ?_⟩⟩
  · simp only [String.toList_append, List.append_assoc]
    exact .plain (.inl rfl) hday ht
  · simp only [String.toList_append, List.append_assoc]
    exact .plain (.inr rfl) hday ht
  · simp only [String.append_assoc]
    rw [← String.append_assoc, ← String.append_assoc]
    refine hzoned ?_
    simp only [String.toList_append, hplus, hcolon, List.singleton_append]
    exact .ahead (hfield h (by omega)) (hfield m hm) hh hm
  · simp only [String.append_assoc]
    rw [← String.append_assoc, ← String.append_assoc]
    refine hzoned ?_
    simp only [String.toList_append, hminus, hcolon, List.singleton_append]
    exact .behind (.inl rfl) (hfield h (by omega)) (hfield m hm) hh hm

namespace ValuesRequest

/-- A field names the instant of its spelling, without the blanks around it. -/
theorem instant_of_stamped {text : String} {d : Date} {t : TimeOfDay} {ahead : Int}
    (h : Stamped text d t ahead) (field : String) :
    instant field text = .ok (Instant.ofLocal d t (60 * ahead)) := by
  obtain ⟨gap, body, gap', rfl, hgap, hgap', hstamp⟩ := h
  obtain ⟨hne, hstart, hend⟩ := hstamp.stops
  unfold instant
  simp only [Text.trim_eq hgap hgap' hne hstart hend, Instant.read?_of_isStamp hstamp]

theorem range_of_instants {r : ValuesRequest} {i j : Instant}
    (hi : instant "date_from" r.dateFrom = .ok i) (hj : instant "date_to" r.dateTo = .ok j) :
    r.range = if i.before j then .ok (i, j)
      else .error (.invalid "date_from must be before date_to") := by
  rw [range, hi, hj]
  rfl

/-- **All spellings agree on the instant.**  A day of the years 0 to 9999 has a spelling alone, and
with each time of day and offset.  The field names the instant of the fields in UTC, less the
offset, which is that of the fields after a carry; the bounds are accepted just when the first is
earlier, which is just when its fields in UTC are, leap seconds apart. -/
theorem timestamps_agree :
    (∀ (d : Date) (t : TimeOfDay) (clock : String), 0 ≤ d.year ∧ d.year ≤ 9999 →
      t.Written 2 clock.toList →
      Stamped d.text d .midnight 0 ∧ Stamped (d.text ++ "T" ++ clock) d t 0 ∧
      Stamped (d.text ++ " " ++ clock) d t 0 ∧ Stamped (d.text ++ "T" ++ clock ++ "Z") d t 0 ∧
      ∀ h m : Nat, h ≤ 23 → m ≤ 59 →
        Stamped (d.text ++ "T" ++ clock ++ "+" ++ Text.padded 2 h ++ ":" ++ Text.padded 2 m) d t
          (h * 60 + m) ∧
        Stamped (d.text ++ "T" ++ clock ++ "-" ++ Text.padded 2 h ++ ":" ++ Text.padded 2 m) d t
          (-(h * 60 + m))) ∧
    (∀ (text field : String) (d : Date) (t : TimeOfDay) (ahead : Int), Stamped text d t ahead →
      instant field text =
        .ok ⟨(Instant.ofUtc d t).seconds - 60 * ahead, (Instant.ofUtc d t).nano⟩ ∧
      ∃ e u, CarriesTo d t ahead e u ∧ instant field text = .ok (Instant.ofUtc e u)) ∧
    ∀ (r : ValuesRequest) (d e d' e' : Date) (t u t' u' : TimeOfDay) (ahead ahead' : Int),
      Stamped r.dateFrom d t ahead → CarriesTo d t ahead e u →
      Stamped r.dateTo d' t' ahead' → CarriesTo d' t' ahead' e' u' →
      (r.range = if (Instant.ofUtc e u).before (Instant.ofUtc e' u') then
          .ok (Instant.ofUtc e u, Instant.ofUtc e' u')
        else .error (.invalid "date_from must be before date_to")) ∧
      (t.second ≤ 59 → t'.second ≤ 59 →
        ((Instant.ofUtc e u).before (Instant.ofUtc e' u') ↔
          e.fields ++ u.fields < e'.fields ++ u'.fields)) := by
  refine ⟨fun d t clock hd ht => stamped_text hd ht, fun text field d t ahead h => ?_,
    fun r d e d' e' t u t' u' ahead ahead' hfrom hcarry hto hcarry' => ⟨?_, fun ht ht' => ?_⟩⟩
  · have hinstant := instant_of_stamped h field
    obtain ⟨-, body, -, -, -, -, hstamp⟩ := h
    obtain ⟨e, u, hcarry⟩ := exists_carriesTo hstamp.year_le t hstamp.lt_day
    refine ⟨?_, e, u, hcarry, ?_⟩
    · rw [hinstant]
      simp only [Instant.ofUtc, Instant.ofLocal, Int.sub_zero]
    · rw [hinstant, Instant.ofLocal_of_carriesTo hcarry]
  · refine range_of_instants ?_ ?_
    · rw [instant_of_stamped hfrom, Instant.ofLocal_of_carriesTo hcarry]
    · rw [instant_of_stamped hto, Instant.ofLocal_of_carriesTo hcarry']
  · exact Instant.before_iff (by rw [hcarry.second]; exact ht) (by rw [hcarry'.second]; exact ht')

/-- Late on a 29th of February, on a clock an hour behind, it is March in UTC; and half a second
earlier is a bound before that. -/
theorem timestamps_agree_leap_day :
    instant "date_to" "2024-02-29T23:30:00.500-01:00" =
      .ok (Instant.ofUtc ⟨2024, 3, 1, by decide⟩ ⟨0, 30, 0, 500000000, by decide⟩) ∧
    ∃ p, range ⟨⟨"x", 1, none⟩, "2024-03-01 00:30:00", "2024-02-29T23:30:00.500-01:00", none,
      none⟩ = .ok p := by
  have hto := ((timestamps_agree.1 ⟨2024, 2, 29, by decide⟩ ⟨23, 30, 0, 500000000, by decide⟩ _
    (by decide) (TimeOfDay.written_text _).1).2.2.2.2 1 0 (by decide) (by decide)).2
  have htext : Date.text ⟨2024, 2, 29, by decide⟩ ++ "T" ++
      TimeOfDay.text ⟨23, 30, 0, 500000000, by decide⟩ ++ "-" ++ Text.padded 2 1 ++ ":" ++
      Text.padded 2 0 = "2024-02-29T23:30:00.500-01:00" := by decide +kernel
  rw [htext] at hto
  have hcarry : CarriesTo ⟨2024, 2, 29, by decide⟩ ⟨23, 30, 0, 500000000, by decide⟩
      (-((1 : Nat) * 60 + (0 : Nat))) ⟨2024, 3, 1, by decide⟩ ⟨0, 30, 0, 500000000, by decide⟩ :=
    ⟨rfl, rfl, .inr (.inl ⟨.month rfl rfl rfl rfl, by decide⟩)⟩
  have hfrom := (timestamps_agree.1 ⟨2024, 3, 1, by decide⟩ ⟨0, 30, 0, 0, by decide⟩ _
    (by decide) (TimeOfDay.written_text _).1).2.2.1
  have htext' : Date.text ⟨2024, 3, 1, by decide⟩ ++ " " ++
      TimeOfDay.text ⟨0, 30, 0, 0, by decide⟩ = "2024-03-01 00:30:00" := by decide +kernel
  rw [htext'] at hfrom
  have hcarry' : CarriesTo ⟨2024, 3, 1, by decide⟩ ⟨0, 30, 0, 0, by decide⟩ 0
      ⟨2024, 3, 1, by decide⟩ ⟨0, 30, 0, 0, by decide⟩ := ⟨rfl, rfl, .inl ⟨rfl, by decide⟩⟩
  obtain ⟨hrange, hbefore⟩ := timestamps_agree.2.2
    ⟨⟨"x", 1, none⟩, "2024-03-01 00:30:00", "2024-02-29T23:30:00.500-01:00", none, none⟩
    _ _ _ _ _ _ _ _ _ _ hfrom hcarry' hto hcarry
  rw [if_pos ((hbefore (by decide) (by decide)).mpr (by decide))] at hrange
  obtain ⟨hinstant, -⟩ := timestamps_agree.2.1 _ "date_to" _ _ _ hto
  exact ⟨hinstant.trans (congrArg _ (by decide)), _, hrange⟩

end ValuesRequest

end EntityFilter
