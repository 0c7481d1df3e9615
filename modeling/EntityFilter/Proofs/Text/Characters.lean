import Mathlib
import EntityFilter.Text.Blank
import EntityFilter.Text.Numeral

/-!
# Digits and blanks

What the digits of a number denote.  `padded` fills a field of a fixed width, from which the number
is read back as long as it fits (`digitsValue_padded`, `length_padded`), and the numeral of a
natural number of 64 bits is an integer of 64 bits (`int64?_toDigits`).

The visible characters of ASCII are no blanks, so that a run of some of them ends where a blank
follows (`takeWhile_append_of_stops`).
-/

namespace EntityFilter.Text

/-! ### Where a run of characters ends -/

/-- A visible character of ASCII. -/
def IsVisible (c : Char) : Prop :=
  33 ≤ c.toNat ∧ c.toNat ≤ 126

instance (c : Char) : Decidable (IsVisible c) :=
  inferInstanceAs (Decidable (_ ∧ _))

theorem not_isBlank_of_isVisible {c : Char} (h : IsVisible c) : isBlank c = false := by
  obtain ⟨hlow, hhigh⟩ := h
  simp only [isBlank, inRanges, blankRanges, List.any_cons, List.any_nil, Bool.or_false,
    Bool.or_eq_false_iff, Bool.and_eq_false_iff, decide_eq_false_iff_not]
  omega

theorem isVisible_of_isDigit {c : Char} (h : c.isDigit) : IsVisible c := by
  have hrange := Char.isDigit_iff_toNat.mp h
  simp only [Char.reduceToNat] at hrange
  exact ⟨by omega, by omega⟩

/-- The text is at its end or goes on with a blank. -/
def StartsBlank (text : List Char) : Prop :=
  ∀ c ∈ text.head?, isBlank c

/-- No character of `p` comes next. -/
def Stops (p : Char → Bool) (text : List Char) : Prop :=
  ∀ c ∈ text.head?, p c = false

theorem StartsBlank.stops {p : Char → Bool} {text : List Char} (h : StartsBlank text)
    (hp : ∀ c, p c → IsVisible c) : Stops p text := by
  intro c hc
  cases hpc : p c with
  | false => rfl
  | true =>
      have hblank := h c hc
      rw [not_isBlank_of_isVisible (hp c hpc)] at hblank
      cases hblank

theorem stops_cons {p : Char → Bool} {c : Char} {text : List Char} :
    Stops p (c :: text) ↔ p c = false := by
  simp [Stops]

theorem takeWhile_of_stops {p : Char → Bool} {text : List Char} (h : Stops p text) :
    text.takeWhile p = [] := by
  cases text with
  | nil => rfl
  | cons c rest => simp [stops_cons.mp h]

/-- A run of characters of `p` ends where no such character comes next. -/
theorem takeWhile_append_of_stops {p : Char → Bool} {run text : List Char} (hrun : ∀ c ∈ run, p c)
    (h : Stops p text) : (run ++ text).takeWhile p = run := by
  rw [List.takeWhile_append_of_pos hrun, takeWhile_of_stops h, List.append_nil]

/-! ### Numerals -/

theorem digitsValue_eq (digits : List Char) : digitsValue digits = Nat.ofDigitChars 10 digits 0 :=
  rfl

theorem digitsValue_toDigits (n : Nat) : digitsValue (Nat.toDigits 10 n) = n :=
  Nat.ofDigitChars_toDigits (by decide) (by decide)

theorem natural_injective {m n : Nat} (h : natural m = natural n) : m = n := by
  have hdigits : Nat.toDigits 10 m = Nat.toDigits 10 n := String.ofList_injective h
  rw [← digitsValue_toDigits m, hdigits, digitsValue_toDigits]

/-- Zeros behind digits multiply. -/
theorem digitsValue_append_zeros (digits : List Char) (n : Nat) :
    digitsValue (digits ++ List.replicate n '0') = 10 ^ n * digitsValue digits := by
  rw [digitsValue_eq, Nat.ofDigitChars_append, Nat.ofDigitChars_replicate_zero, digitsValue_eq]

/-- So many digits denote a number below that power of ten. -/
theorem digitsValue_lt {digits : List Char} (h : ∀ c ∈ digits, c.isDigit) :
    digitsValue digits < 10 ^ digits.length := by
  induction digits with
  | nil => decide
  | cons c rest ih =>
      obtain ⟨hc, hrest⟩ := List.forall_mem_cons.mp h
      have hlt := ih hrest
      have hdigit : c.toNat - '0'.toNat ≤ 9 := by
        have := (Char.isDigit_iff_toNat.mp hc).2
        simp only [Char.reduceToNat] at this ⊢
        omega
      have hfirst := Nat.mul_le_mul_left (10 ^ rest.length) hdigit
      rw [digitsValue_eq, Nat.ofDigitChars_cons, Nat.ofDigitChars_eq_ofDigitChars_zero,
        ← digitsValue_eq, List.length_cons, Nat.pow_succ, Nat.mul_zero, Nat.zero_add]
      omega

theorem isDigit_of_mem_toDigits {n : Nat} {c : Char} (h : c ∈ Nat.toDigits 10 n) : c.isDigit :=
  Nat.isDigit_of_mem_toDigits (by decide) (by decide) h

/-! ### Fields of a fixed width -/

theorem isDigit_of_mem_padded {width n : Nat} {c : Char} (h : c ∈ (padded width n).toList) :
    c.isDigit := by
  rw [padded, String.toList_ofList] at h
  rcases List.mem_append.mp h with h | h
  · rw [List.eq_of_mem_replicate h]
    rfl
  · exact isDigit_of_mem_toDigits h

theorem digitsValue_padded (width n : Nat) : digitsValue (padded width n).toList = n := by
  rw [padded, String.toList_ofList, digitsValue_eq, Nat.ofDigitChars_append,
    Nat.ofDigitChars_replicate_zero, Nat.mul_zero]
  exact digitsValue_toDigits n

/-- A number that fits in the field fills it. -/
theorem length_padded {width n : Nat} (hwidth : 0 < width) (h : n < 10 ^ width) :
    (padded width n).toList.length = width := by
  have hle := (Nat.length_toDigits_le_iff (by decide) hwidth).mpr h
  rw [padded, String.toList_ofList, List.length_append, List.length_replicate]
  omega

/-! ### Integers of 64 bits -/

theorem natural?_of_digits {digits : List Char} (hne : digits ≠ []) (h : ∀ c ∈ digits, c.isDigit) :
    natural? digits = some (digitsValue digits) := by
  rw [natural?, if_pos]
  simpa [List.isEmpty_eq_false_iff, hne] using h

/-- Digits alone are a numeral without a sign. -/
theorem integer?_of_digits {digits : List Char} (h : ∀ c ∈ digits, c.isDigit) :
    integer? digits = (natural? digits).map Int.ofNat := by
  rw [integer?.eq_def]
  split
  · exact absurd (h '-' List.mem_cons_self) (by decide)
  · exact absurd (h '+' List.mem_cons_self) (by decide)
  · rfl

theorem int64?_toDigits {n : Nat} (h : (n : Int) ≤ int64Max) :
    int64? (Nat.toDigits 10 n) = some (n : Int) := by
  have hdigits : ∀ c ∈ Nat.toDigits 10 n, c.isDigit := fun c => isDigit_of_mem_toDigits
  have hmin : int64Min ≤ (n : Int) := by
    rw [int64Min]
    omega
  rw [int64?, integer?_of_digits hdigits, natural?_of_digits Nat.toDigits_ne_nil hdigits,
    digitsValue_toDigits, Option.map_some, Option.filter_some, if_pos]
  · rfl
  · simpa [isInt64] using ⟨hmin, h⟩

/-- Digits alone denote no negative integer. -/
theorem nonneg_of_int64? {digits : List Char} {n : Int} (h : ∀ c ∈ digits, c.isDigit)
    (hn : int64? digits = some n) : 0 ≤ n ∧ n ≤ int64Max := by
  rw [int64?, integer?_of_digits h, Option.filter_eq_some_iff] at hn
  obtain ⟨hvalue, hrange⟩ := hn
  obtain ⟨m, -, rfl⟩ := Option.map_eq_some_iff.mp hvalue
  simp only [isInt64, Bool.and_eq_true, decide_eq_true_eq] at hrange
  exact ⟨Int.natCast_nonneg m, hrange.2⟩

end EntityFilter.Text
