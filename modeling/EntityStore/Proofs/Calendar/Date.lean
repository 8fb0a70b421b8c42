import EntityStore.Calendar.Date
import Mathlib

/-!
# Dates and their numbers

A date is found again by each of the ways to count its days: by month and day, by the day of
the year, by its number, and by the weeks of a year.
-/

namespace EntityStore

open Calendar

namespace Calendar

/-- The months have as many days as the year. -/
theorem sum_monthLengths (year : Int) :
  (monthLengths year).sum = daysInYear year
  := by
  unfold monthLengths daysInYear
  cases isLeap year <;> rfl

/-- The days before a month are those of the months before it. -/
theorem daysBeforeMonth_eq (year : Int) (month : Nat) :
  daysBeforeMonth year month = ((monthLengths year).take (month - 1)).sum
  := by rw [daysBeforeMonth, List.sum_eq_foldl]

/-- A year has a day more if it is a leap year. -/
theorem daysBeforeYear_succ (year : Int) :
  daysBeforeYear (year + 1) = daysBeforeYear year + daysInYear year
  := by
  unfold daysBeforeYear daysInYear
  cases hleap : isLeap year <;>
    · simp only [isLeap, Bool.and_eq_true, Bool.or_eq_true, Bool.and_eq_false_iff,
        Bool.or_eq_false_iff, decide_eq_true_eq, decide_eq_false_iff_not, ne_eq] at hleap
      simp
      omega

end Calendar

namespace Date

/-! ### Parts of a date -/

/-- The month of a date is one of the twelve, and the day is one of the month. -/
theorem month_day (d : Date) :
  1 ≤ d.month ∧ d.month ≤ 12 ∧ 1 ≤ d.day ∧ d.day ≤ (monthLengths d.year).getD (d.month - 1) 0
  := by
  obtain ⟨-, -, hfirst, hlast⟩ := d.isDate
  unfold daysInMonth at hlast
  split at hlast
  · omega
  · refine ⟨by omega, ?_, hfirst, hlast⟩
    by_contra hmonth
    rw [List.getD_eq_getElem?_getD, List.getElem?_eq_none, Option.getD_none] at hlast
    · omega
    · simp only [monthLengths, List.length_cons, List.length_nil]
      omega

/-- No month has more than 31 days. -/
theorem day_le (d : Date) :
  d.day ≤ 31
  := by
  obtain ⟨-, -, -, hday⟩ := d.month_day
  have hlengths : ∀ n ∈ monthLengths d.year, n ≤ 31 := by
    unfold monthLengths
    cases isLeap d.year <;> simp
  rw [List.getD_eq_getElem?_getD] at hday
  cases hlength : (monthLengths d.year)[d.month - 1]? with
  | none =>
      rw [hlength, Option.getD_none] at hday
      omega
  | some n =>
      rw [hlength, Option.getD_some] at hday
      have := hlengths n (List.mem_of_getElem? hlength)
      omega

/-- A date has the parts it is made of. -/
@[simp] theorem ofYmd?_self (d : Date) :
  ofYmd? d.year d.month d.day = some d
  := by rw [ofYmd?, dif_pos d.isDate]

/-! ### The day of the year -/

/-- Days are counted through months that come one after another. -/
theorem monthAt_sum_take (month : Nat) {lengths : List Nat} {i n : Nat}
    (h : n < lengths.getD i 0) :
  monthAt month lengths ((lengths.take i).sum + n) = (month + i, n + 1)
  := by
  induction lengths generalizing month i with
  | nil =>
      rw [List.getD_nil] at h
      omega
  | cons length lengths ih =>
      cases i with
      | zero =>
          rw [List.getD_cons_zero] at h
          simp [monthAt, h]
      | succ i =>
          rw [List.getD_cons_succ] at h
          have hbehind : ¬ length + (lengths.take i).sum + n < length := by omega
          rw [List.take_succ_cons, List.sum_cons, monthAt, if_neg hbehind, Nat.add_assoc,
            Nat.add_sub_cancel_left, ih (month + 1) h]
          congr 1
          omega

/-- The days before a month and those of the month are days of the year. -/
theorem sum_take_add_getD_le (lengths : List Nat) (i : Nat) :
  (lengths.take i).sum + lengths.getD i 0 ≤ lengths.sum
  := by
  induction lengths generalizing i with
  | nil => simp
  | cons length lengths ih =>
      cases i with
      | zero => simp
      | succ i =>
          have := ih i
          simp only [List.take_succ_cons, List.sum_cons, List.getD_cons_succ]
          omega

/-- The position of a date in its year is one of the year. -/
theorem ordinal_range (d : Date) :
  1 ≤ d.ordinal ∧ d.ordinal ≤ daysInYear d.year
  := by
  obtain ⟨-, -, hfirst, hlast⟩ := d.month_day
  have := sum_take_add_getD_le (monthLengths d.year) (d.month - 1)
  rw [sum_monthLengths, ← daysBeforeMonth_eq] at this
  unfold ordinal
  omega

/-- No year has more than 366 days. -/
theorem ordinal_le (d : Date) :
  d.ordinal ≤ 366
  := by
  have := d.ordinal_range.2
  unfold daysInYear at this
  split at this <;> omega

/-- A date is found by its position in its year. -/
@[simp] theorem ofOrdinal?_ordinal (d : Date) :
  ofOrdinal? d.year d.ordinal = some d
  := by
  obtain ⟨hmonth, -, hfirst, hlast⟩ := d.month_day
  have hposition : d.ordinal - 1 =
      ((monthLengths d.year).take (d.month - 1)).sum + (d.day - 1) := by
    rw [ordinal, daysBeforeMonth_eq]
    omega
  have hat : monthAt 1 (monthLengths d.year) (d.ordinal - 1) = (d.month, d.day) := by
    rw [hposition, monthAt_sum_take 1 (by omega)]
    congr 1 <;> omega
  rw [ofOrdinal?, if_pos d.ordinal_range, hat]
  apply ofYmd?_self

/-! ### The number of a date -/

/-- The year of a leap day is a leap year. -/
theorem isLeap_of_ordinal {d : Date} (h : d.ordinal = 366) :
  isLeap d.year = true
  := by
  have := d.ordinal_range.2
  unfold daysInYear at this
  split at this
  · assumption
  · omega

/-- The numbers of dates are those of the years of the calendar. -/
theorem number_range (d : Date) :
  -100000000 ≤ d.number ∧ d.number ≤ 100000000
  := by
  obtain ⟨hfirst, hlast, -, -⟩ := d.isDate
  have := d.ordinal_le
  unfold minYear at hfirst
  unfold maxYear at hlast
  simp only [number, daysBeforeYear]
  omega

/-- The date whose number is that of day `n` of the year `400 e + 100 c + 4 o + u`, both
counted from 0. -/
theorem ofNumber?_eq {e : Int} {c o u n : Nat} (hc : c ≤ 3) (ho : o ≤ 24) (hu : u ≤ 3)
    (hn : n ≤ 364 ∨ n = 365 ∧ u = 3 ∧ (o ≤ 23 ∨ c = 3)) :
  ofNumber? (146097 * e + (36524 * c + 1461 * o + 365 * u + n : Nat) + 1) =
    ofOrdinal? (400 * e + (100 * c + 4 * o + u : Nat) + 1) (n + 1)
  := by
  have hlast : 365 * u + n < 1461 := by omega
  have hcentury : 1461 * o + (365 * u + n) < 36524 ∨
      1461 * o + (365 * u + n) = 36524 ∧ c = 3 := by omega
  obtain ⟨p, hp⟩ : ∃ p, p = 365 * u + n := ⟨_, rfl⟩
  obtain ⟨q, hq⟩ : ∃ q, q = 1461 * o + p := ⟨_, rfl⟩
  obtain ⟨r, hr⟩ : ∃ r, r = 36524 * c + q := ⟨_, rfl⟩
  rw [show 36524 * c + 1461 * o + 365 * u + n = r by omega]
  rw [← hp] at hlast hcentury
  rw [← hq] at hcentury
  have hera : (146097 * e + (r : Int) + 1 - 1) / 146097 = e := by
    clear hp hq hlast
    omega
  have hday : ((146097 * e + (r : Int) + 1 - 1) % 146097).toNat = r := by
    clear hp hq hlast
    omega
  have hc' : min (r / 36524) 3 = c := by
    clear hp hq hlast
    omega
  have hq' : r - c * 36524 = q := by omega
  have ho' : q / 1461 = o := by omega
  have hp' : q % 1461 = p := by omega
  have hu' : min (p / 365) 3 = u := by
    clear hq hr hcentury
    omega
  have hn' : p - 365 * u + 1 = n + 1 := by omega
  simp only [ofNumber?, hera, hday, hc', hq', ho', hp', hu', hn']

/-- A date is found by its number. -/
@[simp] theorem ofNumber?_number (d : Date) :
  ofNumber? d.number = some d
  := by
  obtain ⟨hfirst, -⟩ := d.ordinal_range
  have hlast := d.ordinal_le
  obtain ⟨y, hy⟩ : ∃ y, y = d.year - 1 := ⟨_, rfl⟩
  obtain ⟨c, hc⟩ : ∃ c : Nat, (c : Int) = y % 400 / 100 := ⟨(y % 400 / 100).toNat, by omega⟩
  obtain ⟨o, ho⟩ : ∃ o : Nat, (o : Int) = y % 100 / 4 := ⟨(y % 100 / 4).toNat, by omega⟩
  obtain ⟨u, hu⟩ : ∃ u : Nat, (u : Int) = y % 4 := ⟨(y % 4).toNat, by omega⟩
  have hyear : d.year = 400 * (y / 400) + (100 * c + 4 * o + u : Nat) + 1 := by omega
  have hdays : daysBeforeYear d.year = 365 * y + y / 4 - y / 100 + y / 400 := by
    rw [hy]
    rfl
  have hnumber : d.number = 146097 * (y / 400) +
      (36524 * c + 1461 * o + 365 * u + (d.ordinal - 1) : Nat) + 1 := by
    rw [number, hdays]
    omega
  -- Only a leap year has a day 366: it ends an olympiad, and its century only if it is the last
  -- of four.
  have hleap : d.ordinal - 1 ≤ 364 ∨ d.ordinal - 1 = 365 ∧ u = 3 ∧ (o ≤ 23 ∨ c = 3) := by
    by_cases h : d.ordinal = 366
    · have hleap := isLeap_of_ordinal h
      simp only [isLeap, Bool.and_eq_true, Bool.or_eq_true, decide_eq_true_eq, ne_eq] at hleap
      omega
    · omega
  rw [hnumber, ofNumber?_eq (by omega) (by omega) (by omega) hleap, ← hyear,
    Nat.sub_add_cancel hfirst]
  apply ofOrdinal?_ordinal

/-! ### Weeks -/

/-- There are seven days of the week. -/
theorem weekday_lt (d : Date) :
  d.weekday < 7
  := by
  unfold weekday
  omega

/-- A year has a week 53 at most. -/
theorem weekFrom_le (d : Date) (start : Nat) :
  d.weekFrom start ≤ 53
  := by
  have := d.ordinal_le
  unfold weekFrom
  omega

/-- The first week of a year of weeks begins three days before the year or later, and with the
fourth day at the latest. -/
theorem weekYearStart_range (year : Int) :
  daysBeforeYear year - 2 ≤ weekYearStart year ∧ weekYearStart year ≤ daysBeforeYear year + 4 ∧
    weekYearStart year % 7 = 1
  := by
  simp only [weekYearStart]
  omega

/-- A date is in the year of weeks it belongs to. -/
theorem isoWeek_year_range (d : Date) :
  weekYearStart d.isoWeek.1 ≤ d.number ∧ d.number < weekYearStart (d.isoWeek.1 + 1)
  := by
  have hyear : ∀ year, daysInYear year = 365 ∨ daysInYear year = 366 := by
    intro year
    unfold daysInYear
    split <;> omega
  obtain ⟨hfirst, hlast⟩ := d.ordinal_range
  have hbefore := daysBeforeYear_succ (d.year - 1)
  have hin := daysBeforeYear_succ d.year
  have hbehind := daysBeforeYear_succ (d.year + 1)
  rw [Int.sub_add_cancel] at hbefore
  have h₁ := weekYearStart_range (d.year - 1)
  have h₂ := weekYearStart_range d.year
  have h₃ := weekYearStart_range (d.year + 1)
  have h₄ := weekYearStart_range (d.year + 1 + 1)
  have := hyear (d.year - 1)
  have := hyear d.year
  have := hyear (d.year + 1)
  have hnumber : d.number = daysBeforeYear d.year + d.ordinal := rfl
  simp only [isoWeek]
  split
  · rw [Int.sub_add_cancel]
    omega
  · split <;> omega

/-- The year of weeks is the year of the date or one beside it. -/
theorem isoWeek_year_near (d : Date) :
  d.year - 1 ≤ d.isoWeek.1 ∧ d.isoWeek.1 ≤ d.year + 1
  := by
  unfold isoWeek
  dsimp only
  split
  · omega
  · split <;> omega

/-- The day of the week counts from the beginning of the week. -/
theorem weekYearStart_add (d : Date) :
  weekYearStart d.isoWeek.1 + 7 * ((d.isoWeek.2 : Int) - 1) + d.weekday = d.number
  := by
  obtain ⟨hfirst, hlast⟩ := d.isoWeek_year_range
  have hstart := (weekYearStart_range d.isoWeek.1).2.2
  have hweek : d.isoWeek.2 = ((d.number - weekYearStart d.isoWeek.1) / 7).toNat + 1 := rfl
  have hweekday : d.weekday = ((d.number - 1) % 7).toNat := rfl
  omega

/-- A year of weeks has 53 weeks at most. -/
theorem isoWeek_week_range (d : Date) :
  1 ≤ d.isoWeek.2 ∧ d.isoWeek.2 ≤ 53
  := by
  obtain ⟨hfirst, hlast⟩ := d.isoWeek_year_range
  have h₁ := weekYearStart_range d.isoWeek.1
  have h₂ := weekYearStart_range (d.isoWeek.1 + 1)
  have hnext := daysBeforeYear_succ d.isoWeek.1
  have hdays : daysInYear d.isoWeek.1 ≤ 366 := by
    unfold daysInYear
    split <;> omega
  have hweek : d.isoWeek.2 = ((d.number - weekYearStart d.isoWeek.1) / 7).toNat + 1 := rfl
  omega

/-- A date is found by its week in its year of weeks. -/
@[simp] theorem ofIsoWeek?_isoWeek (d : Date) :
  ofIsoWeek? d.isoWeek.1 d.isoWeek.2 d.weekday = some d
  := by
  have hadd := d.weekYearStart_add
  have hrange := d.isoWeek_year_range
  have hweek := d.isoWeek_week_range
  rw [ofIsoWeek?, if_pos (by omega), hadd]
  apply ofNumber?_number

/-- The first day of the year of a date is a date. -/
theorem exists_first (d : Date) :
  ∃ first, ofOrdinal? d.year 1 = some first ∧
    (first.weekday : Int) = daysBeforeYear d.year % 7
  := by
  have hdate : IsDate d.year 1 1 := ⟨d.isDate.1, d.isDate.2.1, by decide, by
    simp [daysInMonth, monthLengths]⟩
  let first : Date := ⟨d.year, 1, 1, hdate⟩
  refine ⟨first, ofOrdinal?_ordinal first, ?_⟩
  have hnumber : first.number = daysBeforeYear d.year + 1 := rfl
  unfold weekday
  omega

/-- The position of a date in its year from its week and day of the week, if weeks begin on day
`start` of the week. -/
theorem ordinal_eq (d : Date) {start weekday : Nat} (hstart : start < 7)
    (hfirst : (weekday : Int) = daysBeforeYear d.year % 7) :
  (1 + daysSince start weekday + ((d.weekFrom start : Int) - 1) * 7 +
    daysSince d.weekday start : Int) = d.ordinal
  := by
  obtain ⟨hpositive, -⟩ := d.ordinal_range
  have hweekday : (d.weekday : Int) = (daysBeforeYear d.year + d.ordinal - 1) % 7 := by
    unfold Date.weekday number
    omega
  simp only [weekFrom, daysSince]
  omega

end Date

end EntityStore
