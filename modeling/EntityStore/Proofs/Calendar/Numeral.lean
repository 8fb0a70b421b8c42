import EntityStore.Calendar.Read
import EntityStore.Proofs.Calendar.Date
import EntityStore.Proofs.Number.Decimal

/-!
# Written numbers

A number of a timestamp is written with digits that are filled up on the left, and a year
outside 0 to 9999 with a sign.  It is read back as it was written if it has as many digits as
are read or no digit follows.
-/

namespace EntityStore.Calendar

open Text

/-! ### Blank characters and digits -/

/-- Digits are not blank. -/
theorem isBlank_of_isDigit {c : Char} (h : c.isDigit = true) :
  isBlank c = false
  := by
  have hrange : 48 ≤ c.toNat ∧ c.toNat ≤ 57 := by
    simp only [Char.isDigit, Bool.and_eq_true, decide_eq_true_eq, ge_iff_le, UInt32.le_iff_toNat_le]
      at h
    exact h
  simp only [isBlank, blankRanges, List.any_cons, List.any_nil, Bool.or_false, Bool.or_eq_false_iff,
    Bool.and_eq_false_iff, decide_eq_false_iff_not]
  omega

/-- A text that begins with a character that is not blank. -/
theorem trimStart_cons {c : Char} (h : isBlank c = false) (s : List Char) :
  trimStart (c :: s) = c :: s
  := by simp [trimStart, h]

/-- Blank characters at the beginning do not count. -/
theorem trimStart_cons_of_isBlank {c : Char} (h : isBlank c = true) (s : List Char) :
  trimStart (c :: s) = trimStart s
  := by simp [trimStart, h]

/-- Spaces at the beginning do not count. -/
theorem trimStart_replicate_append (n : Nat) (s : List Char) :
  trimStart (List.replicate n ' ' ++ s) = trimStart s
  := by
  induction n with
  | zero => rfl
  | succ n ih =>
      rw [List.replicate_succ, List.cons_append, trimStart_cons_of_isBlank (by decide), ih]

/-- Once is enough. -/
@[simp] theorem trimStart_trimStart (s : List Char) :
  trimStart (trimStart s) = trimStart s
  := by
  induction s with
  | nil => rfl
  | cons c s ih =>
      cases h : isBlank c with
      | true => rw [trimStart_cons_of_isBlank h, ih]
      | false => rw [trimStart_cons h, trimStart_cons h]

/-- No digit is at the beginning of a text. -/
def Apart (s : List Char) : Prop :=
  ∀ c ∈ s.head?, c.isDigit = false

/-- A text has no digits at its beginning then. -/
theorem Apart.takeWhile_eq {s : List Char} (h : Apart s) :
  s.takeWhile Char.isDigit = []
  := by
  cases s with
  | nil => rfl
  | cons c s =>
      have hc : c.isDigit = false := h c rfl
      rw [List.takeWhile_cons, hc, if_neg (by decide)]

/-! ### Numerals -/

/-- Digits that write a number. -/
structure Numeral (ds : List Char) (n : Nat) : Prop where
  ne_nil : ds ≠ []
  isDigit : ∀ c ∈ ds, c.isDigit = true
  value_eq : ofDigits (ds.filterMap digit?) = n

namespace Numeral

variable {ds : List Char} {n : Nat}

/-- The digit of a number is read as that number. -/
theorem digit?_digitChar (h : n < 10) :
  digit? n.digitChar = some n
  := by
  have hall : ∀ i : Fin 10, digit? (Nat.digitChar i) = some i.val := by decide
  apply hall ⟨n, h⟩

/-- The value of digits with one more behind. -/
theorem ofDigits_append_singleton (values : List Nat) (d : Nat) :
  ofDigits (values ++ [d]) = ofDigits values * 10 + d
  := by simp [ofDigits]

/-- The digits of a number. -/
theorem decimalDigits (n : Nat) :
  Numeral (Text.decimalDigits n) n
  := by
  refine ⟨?_, fun c hc => isDigit_of_mem_decimalDigits hc, ?_⟩
  · apply List.length_pos_iff.mp Nat.length_toDigits_pos
  · induction n using Nat.strongRecOn with
    | ind n ih =>
      by_cases h : n < 10
      · rw [decimalDigits_of_lt_ten h]
        simp [digit?_digitChar h, ofDigits]
      · rw [decimalDigits_of_ten_le (by omega), List.filterMap_append, List.filterMap_cons,
          digit?_digitChar (by omega), List.filterMap_nil, ofDigits_append_singleton,
          ih (n / 10) (by omega)]
        omega

/-- A zero on the left changes nothing. -/
theorem cons_zero (h : Numeral ds n) :
  Numeral ('0' :: ds) n
  := by
  refine ⟨by simp, ?_, ?_⟩
  · intro c hc
    cases hc with
    | head => decide
    | tail _ hc => apply h.isDigit c hc
  · rw [← h.value_eq]
    rfl

/-- Zeros on the left change nothing. -/
theorem padLeft (h : Numeral ds n) (width : Nat) :
  Numeral (Text.padLeft width '0' ds) n
  := by
  unfold Text.padLeft
  induction width - ds.length with
  | zero => apply h
  | succ k ih =>
      rw [List.replicate_succ, List.cons_append]
      apply ih.cons_zero

/-- A numeral begins with a digit. -/
theorem exists_cons (h : Numeral ds n) :
  ∃ c rest, ds = c :: rest ∧ c.isDigit = true
  := by
  obtain ⟨c, rest, rfl⟩ := List.exists_cons_of_ne_nil h.ne_nil
  exact ⟨c, rest, rfl, h.isDigit c List.mem_cons_self⟩

/-- Nothing at the beginning of a numeral is blank. -/
theorem trimStart_append (h : Numeral ds n) (r : List Char) :
  trimStart (ds ++ r) = ds ++ r
  := by
  obtain ⟨c, rest, rfl, hc⟩ := h.exists_cons
  apply trimStart_cons (isBlank_of_isDigit hc)

/-- All characters of a numeral are digits. -/
theorem takeWhile_eq (h : Numeral ds n) :
  ds.takeWhile Char.isDigit = ds
  := by
  have := @List.takeWhile_append_of_pos _ Char.isDigit ds [] h.isDigit
  simpa using this

/-- A digit is read as a number below ten. -/
theorem exists_digit?_eq {c : Char} (h : c.isDigit = true) :
  ∃ d, d < 10 ∧ digit? c = some d
  := by
  have hrange : '0' ≤ c ∧ c ≤ '9' := by
    simpa [Char.isDigit, Char.le_def] using h
  refine ⟨c.toNat - '0'.toNat, ?_, if_pos hrange⟩
  have hlast : c.toNat ≤ '9'.toNat := hrange.2
  have : '9'.toNat = 57 := rfl
  have : '0'.toNat = 48 := rfl
  omega

/-- Digits write a number of so many places. -/
theorem of_isDigit (hne : ds ≠ []) (h : ∀ c ∈ ds, c.isDigit = true) :
  ∃ n, Numeral ds n ∧ n < 10 ^ ds.length
  := by
  refine ⟨_, ⟨hne, h, rfl⟩, ?_⟩
  clear hne
  induction ds using List.reverseRecOn with
  | nil => decide
  | append_singleton ds c ih =>
      obtain ⟨d, hd, hdigit⟩ := exists_digit?_eq (h c (by simp))
      have hbefore := ih fun c hc => h c (by simp [hc])
      rw [List.filterMap_append, List.filterMap_cons, hdigit, List.filterMap_nil,
        ofDigits_append_singleton, List.length_append, List.length_singleton, Nat.pow_succ]
      omega

/-- A number has no more places than its numeral. -/
theorem lt_pow (h : Numeral ds n) :
  n < 10 ^ ds.length
  := by
  obtain ⟨m, hm, hlt⟩ := of_isDigit h.ne_nil h.isDigit
  rw [← h.value_eq, hm.value_eq]
  apply hlt

/-- The number and what follows the digits, if all of them count. -/
theorem read_eq (h : Numeral ds n) (hn : n ≤ 9223372036854775807) (r : List Char) :
  (if ds.isEmpty = true ∨ 9223372036854775807 < ofDigits (ds.filterMap digit?) then none
    else some ((ofDigits (ds.filterMap digit?) : Int), (ds ++ r).drop ds.length)) =
      some ((n : Int), r)
  := by
  have hempty : ¬ (ds.isEmpty = true) := by simpa using h.ne_nil
  rw [h.value_eq, List.drop_left, if_neg]
  rintro (hnil | hlarge)
  · apply hempty hnil
  · omega

/-- A numeral is read if it has as many digits as are read at most, or if it has fewer and no
digit follows. -/
theorem digits?_append (h : Numeral ds n) (hn : n ≤ 9223372036854775807) {width : Nat}
    (hlength : ds.length ≤ width) {r : List Char} (hr : ds.length = width ∨ Apart r) :
  Reading.digits? (some width) (ds ++ r) = some ((n : Int), r)
  := by
  have hwritten : ((ds ++ r).takeWhile Char.isDigit).take width = ds := by
    rw [List.takeWhile_append_of_pos h.isDigit]
    obtain rfl | hr := hr
    · apply List.take_left
    · rw [hr.takeWhile_eq, List.append_nil, List.take_of_length_le hlength]
  simp only [Reading.digits?, hwritten]
  apply h.read_eq hn

/-- A numeral of any length is read if no digit follows. -/
theorem digits?_none_append (h : Numeral ds n) (hn : n ≤ 9223372036854775807) {r : List Char}
    (hr : Apart r) :
  Reading.digits? none (ds ++ r) = some ((n : Int), r)
  := by
  have hwritten : (ds ++ r).takeWhile Char.isDigit = ds := by
    rw [List.takeWhile_append_of_pos h.isDigit, hr.takeWhile_eq, List.append_nil]
  simp only [Reading.digits?, hwritten]
  apply h.read_eq hn

/-- A numeral has no sign. -/
theorem signed?_append (h : Numeral ds n) (width : Option Nat) (r : List Char) :
  Reading.signed? width (ds ++ r) = Reading.digits? width (ds ++ r)
  := by
  obtain ⟨c, rest, rfl, hc⟩ := h.exists_cons
  rw [List.cons_append]
  unfold Reading.signed?
  split
  · rename_i hcons
    cases hcons
    exact absurd hc (by decide)
  · rename_i hcons
    cases hcons
    exact absurd hc (by decide)
  · rfl

end Numeral

/-! ### Numbers in their places -/

/-- The number a part writes. -/
def NumberPart.value (part : NumberPart) (t : Timestamp) : Int :=
  match part with
  | .year => t.date.year
  | .century => centuryByte t.date.year
  | .yearOfCentury => t.date.year % 100
  | .weekYear => t.date.isoWeek.1
  | .weekYearOfCentury => t.date.isoWeek.1 % 100
  | .quarter => t.date.quarter
  | .month => t.date.month
  | .day => t.date.day
  | .weekFromSunday => t.date.weekFrom 6
  | .weekFromMonday => t.date.weekFrom 0
  | .isoWeek => t.date.isoWeek.2
  | .dayFromSunday => ((t.date.weekday + 1) % 7 : Nat)
  | .dayFromMonday => (t.date.weekday + 1 : Nat)
  | .dayOfYear => t.date.ordinal
  | .hour => t.time.hour
  | .hour12 => halfDayHour t.time.hour
  | .minute => t.time.minute
  | .second => Timestamp.shownSecond t.time
  | .nanosecond => (t.time.nanosecond % nanosPerSecond : Nat)
  | .unixSeconds => t.unixSeconds

/-- The number of places that a part is filled up to. -/
def NumberPart.places : NumberPart → Nat
  | .year | .weekYear => 4
  | .quarter | .dayFromSunday | .dayFromMonday => 1
  | .dayOfYear => 3
  | .nanosecond | .unixSeconds => 9
  | _ => 2

/-- A number without a sign that fits into its places. -/
def NumberPart.InPlaces (part : NumberPart) (t : Timestamp) : Prop :=
  0 ≤ part.value t ∧ (part.value t).natAbs < 10 ^ part.places

namespace Pad

/-- Two places are filled up like all others. -/
theorem twoPlaces_eq_fill (pad : Pad) {n : Nat} (h : n < 100) :
  pad.twoPlaces n = pad.fill 2 (decimalDigits n)
  := by
  have hall : ∀ i : Fin 100, Pad.nothing.twoPlaces i = Pad.nothing.fill 2 (decimalDigits i) ∧
      Pad.zeros.twoPlaces i = Pad.zeros.fill 2 (decimalDigits i) ∧
      Pad.spaces.twoPlaces i = Pad.spaces.fill 2 (decimalDigits i) := by decide +kernel
  obtain ⟨hnothing, hzeros, hspaces⟩ := hall ⟨n, h⟩
  cases pad with
  | nothing => exact hnothing
  | zeros => exact hzeros
  | spaces => exact hspaces

/-- A number without a sign. -/
theorem number_eq_fill (pad : Pad) (width : Nat) {n : Int} (h : 0 ≤ n) :
  pad.number width false n = pad.fill width (decimalDigits n.natAbs)
  := by
  have hsign : ¬ n < 0 := by omega
  cases pad <;> simp [number, fill, hsign]

/-- One digit is not filled up to one place. -/
theorem fill_one (pad : Pad) {n : Nat} (h : n < 10) :
  pad.fill 1 (decimalDigits n) = decimalDigits n
  := by
  rw [decimalDigits_of_lt_ten h]
  cases pad <;> rfl

/-- What is left of a number when the spaces before it are taken off.  It has all the places if it
is filled up with zeros or there is only one. -/
theorem exists_numeral_of_fill (pad : Pad) (width n : Nat) :
  ∃ ds, Numeral ds n ∧ (∀ r, trimStart (pad.fill width (decimalDigits n) ++ r) = ds ++ r) ∧
    (0 < width → n < 10 ^ width →
      ds.length ≤ width ∧ (pad = .zeros ∨ width = 1 → ds.length = width))
  := by
  have hdigits := Numeral.decimalDigits n
  have hpositive : 0 < (decimalDigits n).length := List.length_pos_iff.mpr hdigits.ne_nil
  have hlength (hwidth : 0 < width) (hn : n < 10 ^ width) : (decimalDigits n).length ≤ width :=
    (Nat.length_toDigits_le_iff (by decide) hwidth).mpr hn
  cases pad with
  | nothing =>
      refine ⟨_, hdigits, hdigits.trimStart_append, fun hwidth hn => ?_⟩
      have := hlength hwidth hn
      use this
      rintro (hpad | rfl)
      · cases hpad
      · omega
  | zeros =>
      refine ⟨_, hdigits.padLeft width, (hdigits.padLeft width).trimStart_append, ?_⟩
      intro hwidth hn
      have := hlength hwidth hn
      have hpadded : (padLeft width '0' (decimalDigits n)).length = width := by
        rw [padLeft, List.length_append, List.length_replicate]
        omega
      exact ⟨Nat.le_of_eq hpadded, fun _ => hpadded⟩
  | spaces =>
      refine ⟨_, hdigits, fun r => ?_, fun hwidth hn => ?_⟩
      · rw [fill, padLeft, List.append_assoc, trimStart_replicate_append,
          hdigits.trimStart_append]
      · have := hlength hwidth hn
        use this
        rintro (hpad | rfl)
        · cases hpad
        · omega

end Pad

/-- A number that fits into its places is filled up to them. -/
theorem NumberPart.render_eq_fill {part : NumberPart} {t : Timestamp} (h : part.InPlaces t)
    (pad : Pad) :
  part.render pad t = pad.fill part.places (decimalDigits (part.value t).natAbs)
  := by
  obtain ⟨hnonneg, hlt⟩ := h
  cases part with
  | year | weekYear =>
      simp only [value, places] at hnonneg hlt
      rw [render, Pad.yearText, if_pos (by omega)]
      apply pad.number_eq_fill 4 hnonneg
  | quarter | dayFromSunday | dayFromMonday =>
      simp only [value, places] at hlt
      simp only [render, value, places, Int.natAbs_natCast]
      rw [pad.fill_one (by omega)]
  | dayOfYear | nanosecond | unixSeconds => apply pad.number_eq_fill _ hnonneg
  | yearOfCentury | weekYearOfCentury =>
      simp only [value, places] at hnonneg hlt
      simp only [render, value, places]
      rw [pad.twoPlaces_eq_fill (by omega)]
      congr 2
      omega
  | century | month | day | weekFromSunday | weekFromMonday | isoWeek | hour | hour12 | minute
  | second =>
      simp only [value, places] at hlt
      simp only [render, value, places, Int.natAbs_natCast]
      rw [pad.twoPlaces_eq_fill (by omega)]

/-! ### Years with a sign -/

/-- A sign and the digits of a number. -/
inductive Signed : List Char → Int → Prop
  | plus {ds : List Char} {n : Nat} (h : Numeral ds n) : Signed ('+' :: ds) n
  | minus {ds : List Char} {n : Nat} (h : Numeral ds n) : Signed ('-' :: ds) (-n)

namespace Signed

variable {s : List Char} {n : Int}

/-- A number with a sign is read with all its digits if no digit follows. -/
theorem signed?_append (h : Signed s n) (hn : n.natAbs ≤ 9223372036854775807) {r : List Char}
    (hr : Apart r) (width : Option Nat) :
  Reading.signed? width (s ++ r) = some (n, r)
  := by
  cases h with
  | plus h =>
      rw [List.cons_append, Reading.signed?]
      apply h.digits?_none_append (by simpa using hn) hr
  | minus h =>
      rw [List.cons_append, Reading.signed?, h.digits?_none_append (by simpa using hn) hr]
      rfl

/-- A sign is not blank. -/
theorem trimStart_append (h : Signed s n) (r : List Char) :
  trimStart (s ++ r) = s ++ r
  := by
  cases h with
  | plus => rw [List.cons_append, trimStart_cons (by decide)]
  | minus => rw [List.cons_append, trimStart_cons (by decide)]

/-- A number with a sign begins with no point. -/
theorem exists_cons (h : Signed s n) :
  ∃ c rest, s = c :: rest ∧ c ≠ '.'
  := by
  cases h with
  | plus => exact ⟨_, _, rfl, by decide⟩
  | minus => exact ⟨_, _, rfl, by decide⟩

/-- The sign of a number and its digits. -/
theorem of_digits {ds : List Char} (hds : Numeral ds n.natAbs) :
  Signed ((if n < 0 then ['-'] else ['+']) ++ ds) n
  := by
  split
  · have hn : n = -(n.natAbs : Int) := by omega
    rw [hn] at *
    apply minus
    simpa using hds
  · have hn : n = (n.natAbs : Int) := by omega
    rw [hn] at *
    apply plus
    simpa using hds

end Signed

/-- A year outside 0 to 9999 has a sign, perhaps behind spaces. -/
theorem Pad.exists_signed_of_yearText (pad : Pad) {year : Int} (h : ¬ (0 ≤ year ∧ year ≤ 9999)) :
  ∃ s, Signed s year ∧ ∀ r, trimStart (pad.yearText year ++ r) = s ++ r
  := by
  have hdigits := Numeral.decimalDigits year.natAbs
  rw [yearText, if_neg h]
  cases pad with
  | nothing =>
      have hsigned := Signed.of_digits hdigits
      refine ⟨_, hsigned, hsigned.trimStart_append⟩
  | zeros =>
      have hlength : (if year < 0 then ['-'] else ['+']).length = 1 := by split <;> rfl
      have hsigned := Signed.of_digits (hdigits.padLeft (5 - 1))
      rw [number, if_pos rfl, hlength]
      refine ⟨_, hsigned, hsigned.trimStart_append⟩
  | spaces =>
      have hsigned := Signed.of_digits hdigits
      refine ⟨_, hsigned, ?_⟩
      intro r
      rw [number, if_pos rfl]
      · simp only [fill, padLeft]
        rw [List.append_assoc, trimStart_replicate_append, hsigned.trimStart_append]
      · simp

/-! ### Reading a number back -/

namespace NumberPart

variable {part : NumberPart} {t : Timestamp}

/-- A number that is written without a sign, or whose sign is read. -/
def Readable (part : NumberPart) (t : Timestamp) : Prop :=
  match part with
  | .year | .weekYear => True
  | .unixSeconds => 0 ≤ t.unixSeconds
  | part => part.InPlaces t

/-- A number is written with digits only, or it is a year with a sign. -/
theorem exists_written (h : part.Readable t) (pad : Pad) :
  (0 ≤ part.value t ∧ ∃ ds, Numeral ds (part.value t).natAbs ∧
    (∀ r, trimStart (part.render pad t ++ r) = ds ++ r) ∧
    (part ≠ .unixSeconds →
      ds.length ≤ part.places ∧ (pad = .zeros ∨ part.places = 1 → ds.length = part.places))) ∨
  (¬ part.InPlaces t ∧ (Reading.shape part).2.2 = true ∧ ∃ s, Signed s (part.value t) ∧
    ∀ r, trimStart (part.render pad t ++ r) = s ++ r)
  := by
  by_cases hplaces : part.InPlaces t
  · left
    have hpositive : 0 < part.places := by cases part <;> decide
    obtain ⟨ds, hds, htrim, hlength⟩ :=
      pad.exists_numeral_of_fill part.places (part.value t).natAbs
    rw [← render_eq_fill hplaces] at htrim
    exact ⟨hplaces.1, ds, hds, htrim, fun _ => hlength hpositive hplaces.2⟩
  · cases part with
    | year | weekYear =>
        right
        refine ⟨hplaces, rfl, ?_⟩
        apply pad.exists_signed_of_yearText
        simp only [InPlaces, value, places] at hplaces ⊢
        omega
    | unixSeconds =>
        left
        obtain ⟨ds, hds, htrim, -⟩ := pad.exists_numeral_of_fill 9 t.unixSeconds.natAbs
        rw [← pad.number_eq_fill 9 h] at htrim
        exact ⟨h, ds, hds, htrim, fun hpart => absurd rfl hpart⟩
    | _ => exact absurd h hplaces

/-- Numbers are small enough to be read. -/
theorem natAbs_value_le (h : part.Readable t) :
  (part.value t).natAbs ≤ 9223372036854775807
  := by
  obtain ⟨hfirst, hlast, -, -⟩ := t.date.isDate
  unfold minYear at hfirst
  unfold maxYear at hlast
  cases part with
  | year | weekYear =>
      have := t.date.isoWeek_year_near
      simp only [value]
      omega
  | unixSeconds =>
      have := t.date.number_range
      obtain ⟨hhour, hminute, hsecond, -⟩ := t.time.isTime
      simp only [value, Timestamp.unixSeconds, Timestamp.epochDay, TimeOfDay.seconds]
      omega
  | _ =>
      have := h.2
      simp only [places] at this
      omega

/-- Numbers do not begin with a point. -/
theorem exists_start (h : part.Readable t) (pad : Pad) (r : List Char) :
  ∃ c s, trimStart (part.render pad t ++ r) = c :: s ∧ c ≠ '.'
  := by
  obtain ⟨-, ds, hds, htrim, -⟩ | ⟨-, -, s, hsigned, htrim⟩ := exists_written h pad
  · obtain ⟨c, rest, rfl, hc⟩ := hds.exists_cons
    refine ⟨c, rest ++ r, htrim r, ?_⟩
    rintro rfl
    exact absurd hc (by decide)
  · obtain ⟨c, rest, rfl, hc⟩ := hsigned.exists_cons
    exact ⟨c, rest ++ r, htrim r, hc⟩

end NumberPart

namespace Reading

/-- As many digits are read as there are places, but all of the seconds since 1970. -/
theorem shape_width_eq (part : NumberPart) :
  (shape part).2.1 = if part = .unixSeconds then none else some part.places
  := by cases part <;> rfl

/-- A number is read back if it is filled up with zeros to all places that are read, or no digit
follows. -/
theorem number_append {part : NumberPart} {t : Timestamp} (h : part.Readable t) (pad : Pad)
    {s more : List Char} (hs : trimStart s = trimStart (part.render pad t ++ more))
    (hmore : (part.InPlaces t ∧ part ≠ .unixSeconds ∧ (pad = .zeros ∨ part.places = 1)) ∨
      Apart more) :
  (if (shape part).2.2 then signed? (shape part).2.1 (trimStart s)
    else digits? (shape part).2.1 (trimStart s)) = some (part.value t, more)
  := by
  have hsmall := NumberPart.natAbs_value_le h
  obtain ⟨hnonneg, ds, hds, htrim, hlength⟩ | ⟨hplaces, hsign, s', hsigned, htrim⟩ :=
    NumberPart.exists_written h pad
  · have hread : digits? (shape part).2.1 (ds ++ more) = some (part.value t, more) := by
      rw [← Int.natAbs_of_nonneg hnonneg, shape_width_eq, Int.natAbs_of_nonneg hnonneg]
      split
      · rename_i hpart
        have hapart := hmore.resolve_left fun hfilled => hfilled.2.1 hpart
        rw [hds.digits?_none_append hsmall hapart, Int.natAbs_of_nonneg hnonneg]
      · rename_i hpart
        obtain ⟨hle, hfull⟩ := hlength hpart
        rw [hds.digits?_append hsmall hle (hmore.imp_left fun hfilled => hfull hfilled.2.2),
          Int.natAbs_of_nonneg hnonneg]
    rw [hs, htrim, hds.signed?_append, hread, ite_self]
  · have hapart := hmore.resolve_left fun hfilled => hplaces hfilled.1
    rw [hs, htrim, if_pos hsign, hsigned.signed?_append hsmall hapart]

end Reading

end EntityStore.Calendar
