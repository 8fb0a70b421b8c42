import EntityStore.Calendar.Fields
import EntityStore.Proofs.Calendar.Date

/-!
# Fields that are true of a timestamp

Some fields have the numbers that they have in a timestamp, and the others have none.  If they
are enough to determine a date, it is the date of the timestamp, and likewise the time; and if
they are not enough, they never contradict each other.
-/

namespace EntityStore

open Calendar

/-- The number of a field in a timestamp. -/
def Calendar.Field.valueAt (field : Field) (t : Timestamp) : Int :=
  match field with
  | .year => t.date.year
  | .century => t.date.year / 100
  | .yearOfCentury => t.date.year % 100
  | .weekYear => t.date.isoWeek.1
  | .weekYearOfCentury => t.date.isoWeek.1 % 100
  | .quarter => t.date.quarter
  | .month => t.date.month
  | .day => t.date.day
  | .weekFromSunday => t.date.weekFrom 6
  | .weekFromMonday => t.date.weekFrom 0
  | .isoWeek => t.date.isoWeek.2
  | .weekday => t.date.weekday
  | .dayOfYear => t.date.ordinal
  | .half => (t.time.hour / 12 : Nat)
  | .hourOfHalf => (t.time.hour % 12 : Nat)
  | .minute => t.time.minute
  | .second => Timestamp.shownSecond t.time
  | .nanosecond => (t.time.nanosecond % nanosPerSecond : Nat)
  | .unixSeconds => t.unixSeconds
  | .offset => 0

namespace TimeOfDay

/-- A leap second is shown as second 60, any other by its number. -/
theorem shownSecond_cases (t : TimeOfDay) :
  (t.nanosecond < nanosPerSecond ∧ Timestamp.shownSecond t = t.second) ∨
    (nanosPerSecond ≤ t.nanosecond ∧ t.second = 59 ∧ Timestamp.shownSecond t = 60)
  := by
  obtain ⟨-, -, -, hplain | ⟨hleap, hsecond⟩⟩ := t.isTime
  · left
    use hplain
    rw [Timestamp.shownSecond, Nat.div_eq_of_lt hplain, Nat.add_zero]
  · unfold Timestamp.shownSecond
    unfold nanosPerSecond at *
    omega

end TimeOfDay

/-- The number of a field in a timestamp is one that it can have, if a century has two digits. -/
theorem Calendar.Field.valueAt_range (field : Field) (t : Timestamp)
    (h : field = .century → 0 ≤ t.date.year ∧ t.date.year ≤ 9999) :
  field.range.1 ≤ field.valueAt t ∧ field.valueAt t ≤ field.range.2
  := by
  obtain ⟨hfirst, hlast, -, -⟩ := t.date.isDate
  have hmonth := t.date.month_day
  obtain ⟨hhour, hminute, hsecond, -⟩ := t.time.isTime
  unfold minYear at hfirst
  unfold maxYear at hlast
  cases field with
  | year | yearOfCentury | weekYearOfCentury | month | minute | offset =>
      simp only [valueAt, range]
      omega
  | century =>
      have := h rfl
      simp only [valueAt, range]
      omega
  | weekYear =>
      have := t.date.isoWeek_year_near
      simp only [valueAt, range]
      omega
  | quarter =>
      simp only [valueAt, range, Date.quarter]
      omega
  | day =>
      have := t.date.day_le
      simp only [valueAt, range]
      omega
  | weekFromSunday | weekFromMonday =>
      have := t.date.weekFrom_le 6
      have := t.date.weekFrom_le 0
      simp only [valueAt, range]
      omega
  | isoWeek =>
      have := t.date.isoWeek_week_range
      simp only [valueAt, range]
      omega
  | weekday =>
      have := t.date.weekday_lt
      simp only [valueAt, range]
      omega
  | dayOfYear =>
      have := t.date.ordinal_range
      have := t.date.ordinal_le
      simp only [valueAt, range]
      omega
  | half | hourOfHalf =>
      simp only [valueAt, range]
      omega
  | second =>
      have := t.time.shownSecond_cases
      simp only [valueAt, range]
      omega
  | nanosecond =>
      simp only [valueAt, range, nanosPerSecond]
      omega
  | unixSeconds =>
      have := t.date.number_range
      simp only [valueAt, range, Timestamp.unixSeconds, Timestamp.epochDay, TimeOfDay.seconds]
      omega

namespace Calendar

/-- The fields of a list, and no others, have the numbers of a timestamp.  The fraction of the
second may be another one. -/
structure Told (t : Timestamp) (told : List Field) (fields : Fields) : Prop where
  get?_eq : ∀ field ≠ .nanosecond,
    fields.get? field = if field ∈ told then some (field.valueAt t) else none
  nanosecond : ∀ n, fields.get? .nanosecond = some n →
    .nanosecond ∈ told ∧ 0 ≤ n ∧ n ≤ 999999999

/-- The fields of the year are told in such a way that there is no doubt about it: years with
centuries are not negative, and a year of an unknown century lies between 1970 and 2069. -/
structure Clear (t : Timestamp) (told : List Field) : Prop where
  century : .century ∈ told ∨ .yearOfCentury ∈ told → 0 ≤ t.date.year
  ofCentury : .yearOfCentury ∈ told → .year ∈ told ∨ .century ∈ told ∨
    (1970 ≤ t.date.year ∧ t.date.year ≤ 2069)
  weekYear : .weekYearOfCentury ∈ told → .weekYear ∈ told ∧ 0 ≤ t.date.isoWeek.1

/-- Whether fields determine a date. -/
def DateTold (told : List Field) : Prop :=
  (.century ∈ told → .year ∈ told ∨ .yearOfCentury ∈ told) ∧
    (((.year ∈ told ∨ .yearOfCentury ∈ told) ∧
      ((.month ∈ told ∧ .day ∈ told) ∨ .dayOfYear ∈ told ∨
        (.weekFromSunday ∈ told ∧ .weekday ∈ told) ∨
        (.weekFromMonday ∈ told ∧ .weekday ∈ told))) ∨
    (.weekYear ∈ told ∧ .isoWeek ∈ told ∧ .weekday ∈ told))

/-- Whether fields determine the hour and the minute, and the second if there is a fraction. -/
def TimeTold (told : List Field) : Prop :=
  .half ∈ told ∧ .hourOfHalf ∈ told ∧ .minute ∈ told ∧ (.nanosecond ∈ told → .second ∈ told)

instance (told : List Field) : Decidable (DateTold told) :=
  inferInstanceAs (Decidable ((_ → _) ∧ _))

instance (told : List Field) : Decidable (TimeTold told) :=
  inferInstanceAs (Decidable (_ ∧ _ ∧ _ ∧ (_ → _)))

namespace Told

variable {t : Timestamp} {told : List Field} {fields : Fields}

/-- Before anything is told. -/
theorem nil :
  Told t [] []
  := ⟨fun _ _ => rfl, fun _ h => by cases h⟩

/-- The order in which fields are told does not matter. -/
theorem congr (h : Told t told fields) {told' : List Field}
    (hsame : ∀ field, field ∈ told ↔ field ∈ told') :
  Told t told' fields
  := by
  refine ⟨fun field hfield => ?_, fun n hn => ?_⟩
  · rw [h.get?_eq field hfield]
    simp only [hsame field]
  · rw [← hsame]
    apply h.nanosecond n hn

/-- The number of a field that is told. -/
theorem get?_of_mem (h : Told t told fields) {field : Field} (hfield : field ≠ .nanosecond)
    (hmem : field ∈ told) :
  fields.get? field = some (field.valueAt t)
  := by rw [h.get?_eq field hfield, if_pos hmem]

/-- A field that is not told has no number. -/
theorem get?_of_not_mem (h : Told t told fields) {field : Field} (hmem : field ∉ told) :
  fields.get? field = none
  := by
  by_cases hfield : field = .nanosecond
  · subst hfield
    cases hn : fields.get? .nanosecond with
    | none => rfl
    | some n => exact absurd (h.nanosecond n hn).1 hmem
  · rw [h.get?_eq field hfield, if_neg hmem]

/-- The numbers of fields once one of them is stored. -/
theorem get?_of_set? {field : Field} {n : Int} {fields' : Fields}
    (h : fields.set? field n = some fields') (other : Field) :
  fields'.get? other = if other = field then some n else fields.get? other
  := by
  unfold Fields.set? at h
  split at h
  · cases hget : fields.get? field with
    | none =>
        rw [hget] at h
        cases h
        by_cases hother : other = field
        · simp [Fields.get?, List.lookup, hother]
        · have hbeq : (other == field) = false := by simpa using hother
          simp [Fields.get?, List.lookup, hother, hbeq]
    | some m =>
        rw [hget] at h
        dsimp only at h
        split at h
        · cases h
          by_cases hother : other = field
          · simp_all
          · simp [hother]
        · cases h
  · cases h

/-- A field is told with the number of the timestamp. -/
theorem set? (h : Told t told fields) (field : Field) (hfield : field ≠ .nanosecond)
    (hrange : field.range.1 ≤ field.valueAt t ∧ field.valueAt t ≤ field.range.2) :
  ∃ fields', fields.set? field (field.valueAt t) = some fields' ∧ Told t (field :: told) fields'
  := by
  have hset : ∃ fields', fields.set? field (field.valueAt t) = some fields' := by
    unfold Fields.set?
    rw [if_pos hrange, h.get?_eq field hfield]
    split
    · exact ⟨_, rfl⟩
    · rename_i m hm
      split at hm
      · cases hm
        exact ⟨fields, if_pos rfl⟩
      · cases hm
  obtain ⟨fields', hfields'⟩ := hset
  refine ⟨fields', hfields', ?_, ?_⟩
  · intro other hother
    rw [get?_of_set? hfields']
    by_cases hsame : other = field
    · simp [hsame]
    · rw [if_neg hsame, h.get?_eq other hother]
      simp [hsame]
  · intro n hn
    rw [get?_of_set? hfields', if_neg (Ne.symm hfield)] at hn
    obtain ⟨hmem, hn⟩ := h.nanosecond n hn
    exact ⟨List.mem_cons_of_mem _ hmem, hn⟩

/-- A fraction of the second is told, if none was before. -/
theorem set?_nanosecond (h : Told t told fields) (hnone : fields.get? .nanosecond = none) {n : Int}
    (hn : 0 ≤ n ∧ n ≤ 999999999) :
  ∃ fields', fields.set? .nanosecond n = some fields' ∧ Told t (.nanosecond :: told) fields'
  := by
  have hset : fields.set? .nanosecond n = some ((.nanosecond, n) :: fields) := by
    unfold Fields.set?
    rw [hnone, if_pos (by simpa [Field.range] using hn)]
  refine ⟨_, hset, ?_, ?_⟩
  · intro other hother
    rw [get?_of_set? hset, if_neg hother, h.get?_eq other hother]
    simp [hother]
  · intro m hm
    rw [get?_of_set? hset, if_pos rfl] at hm
    cases hm
    exact ⟨List.mem_cons_self, hn⟩

/-! ### Agreement -/

/-- A field agrees with the timestamp. -/
theorem agrees (h : Told t told fields) (field : Field) (hfield : field ≠ .nanosecond) :
  fields.agrees field (field.valueAt t) = true
  := by
  unfold Fields.agrees
  rw [h.get?_eq field hfield]
  by_cases hmem : field ∈ told
  · simp [hmem]
  · simp [hmem]

/-- A field that counts in the century of a year agrees with the timestamp. -/
theorem agreesInCentury (h : Told t told fields) (field : Field) (hfield : field ≠ .nanosecond)
    {year : Int} (hyear : field ∈ told → 0 ≤ year) :
  fields.agreesInCentury field year (field.valueAt t) = true
  := by
  unfold Fields.agreesInCentury
  rw [h.get?_eq field hfield]
  by_cases hmem : field ∈ told
  · simp [hmem, hyear hmem]
  · simp [hmem]

/-- Year, month and day agree. -/
theorem agreesByDay (h : Told t told fields) (hclear : Clear t told) :
  fields.agreesByDay t.date = true
  := by
  have hyear := h.agrees .year (by decide)
  have hcentury := h.agreesInCentury .century (by decide) fun hmem =>
    hclear.century (.inl hmem)
  have hofCentury := h.agreesInCentury .yearOfCentury (by decide) fun hmem =>
    hclear.century (.inr hmem)
  have hmonth := h.agrees .month (by decide)
  have hday := h.agrees .day (by decide)
  simp only [Field.valueAt] at *
  simp only [Fields.agreesByDay, hyear, hcentury, hofCentury, hmonth, hday, Bool.and_self]

/-- The weeks of a year of weeks agree. -/
theorem agreesByWeek (h : Told t told fields) (hclear : Clear t told) :
  fields.agreesByWeek t.date = true
  := by
  have hyear := h.agrees .weekYear (by decide)
  have hofCentury := h.agreesInCentury .weekYearOfCentury (by decide) fun hmem =>
    (hclear.weekYear hmem).2
  have hweek := h.agrees .isoWeek (by decide)
  have hweekday := h.agrees .weekday (by decide)
  simp only [Field.valueAt] at *
  simp only [Fields.agreesByWeek, hyear, hofCentury, hweek, hweekday, Bool.and_self]

/-- The day of the year and the weeks of the year agree. -/
theorem agreesByOrdinal (h : Told t told fields) :
  fields.agreesByOrdinal t.date = true
  := by
  have hday := h.agrees .dayOfYear (by decide)
  have hsunday := h.agrees .weekFromSunday (by decide)
  have hmonday := h.agrees .weekFromMonday (by decide)
  simp only [Field.valueAt] at *
  simp only [Fields.agreesByOrdinal, hday, hsunday, hmonday, Bool.and_self]

/-! ### The date -/

/-- The year, if it is told with or without its century. -/
theorem resolveYear_eq (h : Told t told fields) (hclear : Clear t told) :
  Fields.resolveYear (fields.get? .year) (fields.get? .century) (fields.get? .yearOfCentury) =
    if .year ∈ told ∨ .yearOfCentury ∈ told then .ok (some t.date.year)
    else if .century ∈ told then .error .notEnough
    else .ok none
  := by
  obtain ⟨hcentury, hofCentury, -⟩ := hclear
  rw [h.get?_eq .year (by decide), h.get?_eq .century (by decide),
    h.get?_eq .yearOfCentury (by decide)]
  by_cases hy : Field.year ∈ told <;> by_cases hc : Field.century ∈ told <;>
    by_cases hr : Field.yearOfCentury ∈ told <;>
    simp only [hy, hc, hr, true_or, or_true, or_self, or_false, false_or, if_true, if_false,
      forall_const, Fields.resolveYear, Field.valueAt, Option.getD_some, Option.getD_none] at *
  -- What is left are the cases in which the century has a say.
  · rw [if_pos ⟨hcentury, trivial, trivial⟩]
  · rw [if_pos ⟨hcentury, trivial, trivial⟩]
  · rw [if_pos ⟨hcentury, trivial, trivial⟩]
  · congr 2
    omega
  · congr 2
    split <;> omega

/-- The year of weeks, if it is told. -/
theorem resolveYear_weekYear_eq (h : Told t told fields) (hclear : Clear t told) :
  Fields.resolveYear (fields.get? .weekYear) none (fields.get? .weekYearOfCentury) =
    .ok (if .weekYear ∈ told then some t.date.isoWeek.1 else none)
  := by
  obtain ⟨-, -, hweek⟩ := hclear
  rw [h.get?_eq .weekYear (by decide), h.get?_eq .weekYearOfCentury (by decide)]
  by_cases hr : Field.weekYearOfCentury ∈ told
  · obtain ⟨hy, hnonneg⟩ := hweek hr
    simp [hy, hr, Fields.resolveYear, Field.valueAt, hnonneg]
  · by_cases hy : Field.weekYear ∈ told <;> simp [hy, hr, Fields.resolveYear, Field.valueAt]

/-- The date from a year, month and day. -/
theorem byDay?_eq (h : Told t told fields) :
  fields.byDay? (some t.date.year) =
    if .month ∈ told ∧ .day ∈ told then some (.ok t.date) else none
  := by
  rw [Fields.byDay?, h.get?_eq .month (by decide), h.get?_eq .day (by decide)]
  by_cases hm : Field.month ∈ told <;> by_cases hd : Field.day ∈ told <;>
    simp [hm, hd, Field.valueAt, Fields.orGap]

/-- The date from a year and a day of the year. -/
theorem byOrdinal?_eq (h : Told t told fields) :
  fields.byOrdinal? (some t.date.year) = if .dayOfYear ∈ told then some (.ok t.date) else none
  := by
  rw [Fields.byOrdinal?, h.get?_eq .dayOfYear (by decide)]
  by_cases hd : Field.dayOfYear ∈ told <;> simp [hd, Field.valueAt, Fields.orGap]

/-- The date in the week of its year. -/
theorem ofWeek_eq (d : Date) {start : Nat} (hstart : start < 7) :
  Fields.ofWeek d.year (d.weekFrom start) d.weekday start = .ok d
  := by
  obtain ⟨first, hfirst, hweekday⟩ := d.exists_first
  have hpositive := d.ordinal_range.1
  have hnot : ¬ ((d.ordinal : Int) ≤ 0) := by omega
  rw [Fields.ofWeek, hfirst]
  simp only [Fields.orGap, bind, Except.bind]
  rw [d.ordinal_eq hstart hweekday, if_neg hnot, Int.toNat_natCast, Date.ofOrdinal?_ordinal]

/-- The date from a year, a week and a day of the week. -/
theorem byWeek?_eq (h : Told t told fields) {kind : Field} {start : Nat} (hstart : start < 7)
    (hkind : kind ≠ .nanosecond) (hvalue : kind.valueAt t = t.date.weekFrom start) :
  fields.byWeek? (some t.date.year) kind start =
    if kind ∈ told ∧ .weekday ∈ told then some (.ok t.date) else none
  := by
  rw [Fields.byWeek?, h.get?_eq kind hkind, h.get?_eq .weekday (by decide), hvalue]
  by_cases hk : kind ∈ told <;> by_cases hd : Field.weekday ∈ told <;>
    simp [hk, hd, Field.valueAt, ofWeek_eq t.date hstart]

/-- The date from a year and a count of days or weeks in it. -/
theorem byCount?_eq (h : Told t told fields) :
  ((fields.byOrdinal? (some t.date.year)).orElse fun _ =>
    (fields.byWeek? (some t.date.year) .weekFromSunday 6).orElse fun _ =>
      fields.byWeek? (some t.date.year) .weekFromMonday 0) =
    if .dayOfYear ∈ told ∨ (.weekFromSunday ∈ told ∧ .weekday ∈ told) ∨
        (.weekFromMonday ∈ told ∧ .weekday ∈ told) then some (.ok t.date) else none
  := by
  rw [h.byOrdinal?_eq, h.byWeek?_eq (by decide) (by decide) rfl,
    h.byWeek?_eq (by decide) (by decide) rfl]
  by_cases hordinal : Field.dayOfYear ∈ told
  · simp [hordinal]
  by_cases hsunday : Field.weekFromSunday ∈ told ∧ Field.weekday ∈ told
  · simp [hordinal, hsunday]
  · simp [hordinal, hsunday]

/-- The date from a year of weeks, a week and a day of the week. -/
theorem byIsoWeek?_eq (h : Told t told fields) :
  fields.byIsoWeek? (if .weekYear ∈ told then some t.date.isoWeek.1 else none) =
    if .weekYear ∈ told ∧ .isoWeek ∈ told ∧ .weekday ∈ told then some (.ok t.date) else none
  := by
  rw [Fields.byIsoWeek?, h.get?_eq .isoWeek (by decide), h.get?_eq .weekday (by decide)]
  by_cases hy : Field.weekYear ∈ told <;> by_cases hk : Field.isoWeek ∈ told <;>
    by_cases hd : Field.weekday ∈ told <;> simp [hy, hk, hd, Field.valueAt, Fields.orGap]

/-- Nothing is counted in a year that is not told. -/
theorem byYear?_none (fields : Fields) :
  fields.byDay? none = none ∧
    ((fields.byOrdinal? none).orElse fun _ =>
      (fields.byWeek? none .weekFromSunday 6).orElse fun _ =>
        fields.byWeek? none .weekFromMonday 0) = none
  := ⟨rfl, rfl⟩

/-- The date that is determined is the one of the timestamp; otherwise there is not enough. -/
theorem date_eq (h : Told t told fields) (hclear : Clear t told) :
  fields.date = if DateTold told then .ok t.date else .error .notEnough
  := by
  have hday := h.agreesByDay hclear
  have hweek := h.agreesByWeek hclear
  have hordinal := h.agreesByOrdinal
  have hquarter : fields.agrees .quarter t.date.quarter = true := h.agrees .quarter (by decide)
  rw [Fields.date, h.resolveYear_eq hclear, h.resolveYear_weekYear_eq hclear]
  by_cases hyear : Field.year ∈ told ∨ Field.yearOfCentury ∈ told
  · simp only [if_pos hyear, bind, Except.bind, h.byDay?_eq, h.byCount?_eq, h.byIsoWeek?_eq]
    by_cases hbyDay : Field.month ∈ told ∧ Field.day ∈ told
    · simp [DateTold, hyear, hbyDay, pure, Except.pure, hweek, hordinal, hquarter]
    by_cases hbyCount : Field.dayOfYear ∈ told ∨
        (Field.weekFromSunday ∈ told ∧ Field.weekday ∈ told) ∨
        (Field.weekFromMonday ∈ told ∧ Field.weekday ∈ told)
    · simp [DateTold, hyear, hbyDay, hbyCount, pure, Except.pure, hday, hweek, hordinal, hquarter]
    by_cases hbyWeek : Field.weekYear ∈ told ∧ Field.isoWeek ∈ told ∧ Field.weekday ∈ told
    · have hdate : DateTold told := ⟨fun _ => hyear, .inr hbyWeek⟩
      simp only [if_neg hbyDay, if_neg hbyCount, if_pos hbyWeek, if_pos hdate]
      simp [pure, Except.pure, hday, hordinal, hquarter]
    · simp [DateTold, hyear, hbyDay, hbyCount, hbyWeek]
  · by_cases hcentury : Field.century ∈ told
    · simp [DateTold, hyear, hcentury, bind, Except.bind]
    · simp only [if_neg hyear, if_neg hcentury, bind, Except.bind, byYear?_none, h.byIsoWeek?_eq]
      by_cases hbyWeek : Field.weekYear ∈ told ∧ Field.isoWeek ∈ told ∧ Field.weekday ∈ told
      · simp [DateTold, hcentury, hbyWeek, pure, Except.pure, hday, hordinal, hquarter]
      · simp [DateTold, hyear, hbyWeek]

/-! ### The time -/

/-- The second and the leap of a time from the number that is shown. -/
theorem second_of_shown (time : TimeOfDay) :
  min (Timestamp.shownSecond time) 59 = time.second ∧
    (if Timestamp.shownSecond time = 60 then nanosPerSecond else 0) =
      time.nanosecond / nanosPerSecond * nanosPerSecond
  := by
  obtain ⟨-, -, hsecond, hnano⟩ := time.isTime
  obtain ⟨hplain, hshown⟩ | ⟨hleap, hlast, hshown⟩ := time.shownSecond_cases
  · rw [hshown, Nat.div_eq_of_lt hplain, if_neg (by omega)]
    omega
  · rw [hshown, if_pos rfl]
    unfold nanosPerSecond at *
    omega

/-- The fraction that has been read is below one second. -/
theorem fraction_lt (h : Told t told fields) :
  ((fields.get? .nanosecond).getD 0).toNat < nanosPerSecond
  := by
  cases hn : fields.get? .nanosecond with
  | none => decide
  | some n =>
      have := (h.nanosecond n hn).2
      simp only [Option.getD_some, nanosPerSecond]
      omega

/-- A time that is in the minute of a timestamp, and in its second if that is told.  A leap second
is told apart from the second before it. -/
structure Near (t : Timestamp) (told : List Field) (time : TimeOfDay) : Prop where
  hour : time.hour = t.time.hour
  minute : time.minute = t.time.minute
  second : .second ∈ told → time.second = t.time.second
  nanosecond : .second ∈ told → .nanosecond ∉ told →
    time.nanosecond = t.time.nanosecond / nanosPerSecond * nanosPerSecond

/-- The time with the hour and the minute of a timestamp and the second and fraction that have
been read. -/
theorem ofHmsn?_near (h : Told t told fields)
    (hfraction : fields.get? .second = none → fields.get? .nanosecond = none) :
  let given := ((fields.get? .second).getD 0).toNat
  let leap := if given = 60 then nanosPerSecond else 0
  ∃ time, TimeOfDay.ofHmsn? t.time.hour t.time.minute (min given 59)
    (leap + ((fields.get? .nanosecond).getD 0).toNat) = some time ∧ Near t told time
  := by
  intro given leap
  obtain ⟨hhour, hminute, hsecond, hnano⟩ := t.time.isTime
  have hbelow := h.fraction_lt
  by_cases htold : Field.second ∈ told
  · have hgiven : given = Timestamp.shownSecond t.time := by
      simp [given, h.get?_of_mem (by decide) htold, Field.valueAt]
    obtain ⟨hshown, hleap⟩ := second_of_shown t.time
    have htime : IsTime t.time.hour t.time.minute (min given 59)
        (leap + ((fields.get? .nanosecond).getD 0).toNat) := by
      simp only [leap, hgiven, hshown, hleap]
      refine ⟨hhour, hminute, hsecond, ?_⟩
      unfold nanosPerSecond at *
      omega
    refine ⟨⟨_, _, _, _, htime⟩, dif_pos htime, rfl, rfl, fun _ => ?_, fun _ hnone => ?_⟩
    · dsimp only
      rw [hgiven, hshown]
    · simp only [leap, hgiven, hleap, h.get?_of_not_mem hnone, Option.getD_none, Int.toNat_zero,
        Nat.add_zero]
  · have hgiven : given = 0 := by simp [given, h.get?_of_not_mem htold]
    have hnone := hfraction (h.get?_of_not_mem htold)
    have htime : IsTime t.time.hour t.time.minute (min given 59)
        (leap + ((fields.get? .nanosecond).getD 0).toNat) := by
      simp only [leap, hgiven, hnone]
      exact ⟨hhour, hminute, by decide, by decide⟩
    refine ⟨⟨_, _, _, _, htime⟩, dif_pos htime, rfl, rfl, fun hmem => ?_, fun hmem _ => ?_⟩
    · exact absurd hmem htold
    · exact absurd hmem htold

/-- Either there is not enough to determine a time, or the time is near that of the timestamp. -/
theorem time_cases (h : Told t told fields) :
  (fields.time = .error .notEnough ∧ ¬ TimeTold told) ∨
    ∃ time, fields.time = .ok time ∧ Near t told time ∧ .minute ∈ told
  := by
  by_cases hhour : Field.half ∈ told ∧ Field.hourOfHalf ∈ told ∧ Field.minute ∈ told
  · obtain ⟨hhalf, hofHalf, hminute⟩ := hhour
    have hhours : (12 * Field.half.valueAt t + Field.hourOfHalf.valueAt t).toNat = t.time.hour := by
      simp only [Field.valueAt]
      omega
    have hminutes : (Field.minute.valueAt t).toNat = t.time.minute := by simp [Field.valueAt]
    rw [Fields.time, h.get?_of_mem (by decide) hhalf, h.get?_of_mem (by decide) hofHalf,
      h.get?_of_mem (by decide) hminute]
    dsimp only
    rw [hhours, hminutes]
    split
    · left
      rename_i hgap
      simp only [Bool.and_eq_true, Option.isNone_iff_eq_none, Option.isSome_iff_exists] at hgap
      obtain ⟨hsecond, n, hn⟩ := hgap
      refine ⟨rfl, ?_⟩
      rintro ⟨-, -, -, htold⟩
      rw [h.get?_of_mem (by decide) (htold (h.nanosecond n hn).1)] at hsecond
      cases hsecond
    · right
      rename_i hgap
      have hfraction : fields.get? .second = none → fields.get? .nanosecond = none := by
        intro hsecond
        simpa [hsecond] using hgap
      obtain ⟨time, htime, hnear⟩ := h.ofHmsn?_near hfraction
      rw [htime]
      exact ⟨time, rfl, hnear, hminute⟩
  · left
    refine ⟨?_, fun htime => hhour ⟨htime.1, htime.2.1, htime.2.2.1⟩⟩
    unfold Fields.time
    split
    · rename_i half hour minute hhalf hof hminute
      exfalso
      have hmem : ∀ field ≠ .nanosecond, (fields.get? field).isSome → field ∈ told := by
        intro field hfield hsome
        by_contra hnot
        rw [h.get?_of_not_mem hnot] at hsome
        cases hsome
      apply hhour
      exact ⟨hmem _ (by decide) (by rw [hhalf]; rfl), hmem _ (by decide) (by rw [hof]; rfl),
        hmem _ (by decide) (by rw [hminute]; rfl)⟩
    · rfl

/-! ### The timestamp -/

/-- A date and a time are the timestamp unless the seconds since 1970 are those of another. -/
theorem timestamp?_of_near (h : Told t told fields) {time : TimeOfDay}
    (hdate : fields.date = .ok t.date) (htime : fields.time = .ok time) (hnear : Near t told time)
    (hseconds : .unixSeconds ∈ told → .second ∈ told) :
  fields.timestamp? = some ⟨t.date, time⟩
  := by
  have hagrees : fields.agreesByUnixSeconds ⟨t.date, time⟩ = true := by
    unfold Fields.agreesByUnixSeconds
    by_cases hmem : Field.unixSeconds ∈ told
    · have hsame : Timestamp.unixSeconds ⟨t.date, time⟩ = t.unixSeconds := by
        simp only [Timestamp.unixSeconds, TimeOfDay.seconds, hnear.hour, hnear.minute,
          hnear.second (hseconds hmem)]
      rw [h.get?_of_mem (by decide) hmem, hsame]
      simp [Field.valueAt]
    · rw [h.get?_of_not_mem hmem]
  simp only [Fields.timestamp?, hdate, htime, hagrees, if_true]

/-- Fields that determine a date and a time determine a timestamp. -/
theorem exists_timestamp?_eq (h : Told t told fields) (hclear : Clear t told)
    (hdate : DateTold told) (htime : TimeTold told)
    (hseconds : .unixSeconds ∈ told → .second ∈ told) :
  ∃ time, fields.timestamp? = some ⟨t.date, time⟩ ∧ Near t told time
  := by
  have hd : fields.date = .ok t.date := by rw [h.date_eq hclear, if_pos hdate]
  obtain ⟨-, hnot⟩ | ⟨time, ht, hnear, -⟩ := h.time_cases
  · exact absurd htime hnot
  · exact ⟨time, h.timestamp?_of_near hd ht hnear hseconds, hnear⟩

end Told

end Calendar

/-- The timestamp at the beginning of the second. -/
def Timestamp.whole (t : Timestamp) : Timestamp :=
  ⟨t.date, ⟨t.time.hour, t.time.minute, t.time.second, 0, t.time.isTime.1, t.time.isTime.2.1,
    t.time.isTime.2.2.1, .inl (by decide)⟩⟩

namespace Timestamp

/-- The beginning of a second is found by its number. -/
theorem ofUnixSeconds?_unixSeconds (t : Timestamp) :
  ofUnixSeconds? t.unixSeconds = some t.whole
  := by
  obtain ⟨hhour, hminute, hsecond, -⟩ := t.time.isTime
  have hseconds : t.time.seconds = 3600 * t.time.hour + 60 * t.time.minute + t.time.second := rfl
  have hday : t.unixSeconds / 86400 + epochDay = t.date.number := by
    simp only [unixSeconds, epochDay]
    omega
  have hrest : (t.unixSeconds % 86400).toNat = t.time.seconds := by
    simp only [unixSeconds]
    omega
  have hparts : t.time.seconds / 3600 = t.time.hour ∧ t.time.seconds / 60 % 60 = t.time.minute ∧
      t.time.seconds % 60 = t.time.second := by omega
  have htime : TimeOfDay.ofHmsn? t.time.hour t.time.minute t.time.second 0 = some t.whole.time :=
    dif_pos t.whole.time.isTime
  simp only [ofUnixSeconds?, hday, hrest, Date.ofNumber?_number, hparts, htime]
  rfl

/-- The beginning of a second is no leap second. -/
@[simp] theorem shownSecond_whole (t : Timestamp) :
  shownSecond t.whole.time = t.time.second
  := by simp [shownSecond, whole]

end Timestamp

namespace Calendar.Told

variable {t : Timestamp} {told : List Field} {fields : Fields}

/-- What is true of a timestamp is true of the beginning of its second, unless a leap second is
told. -/
theorem whole (h : Told t told fields) (hleap : fields.get? .second ≠ some 60) :
  Told t.whole told fields
  := by
  refine ⟨fun field hfield => ?_, h.nanosecond⟩
  rw [h.get?_eq field hfield]
  split
  · rename_i hmem
    cases field with
    | second =>
        rw [h.get?_of_mem (by decide) hmem] at hleap
        obtain ⟨-, hshown⟩ | ⟨-, -, hshown⟩ := t.time.shownSecond_cases
        · rw [Field.valueAt, Field.valueAt, hshown, Timestamp.shownSecond_whole]
        · rw [Field.valueAt, hshown] at hleap
          exact absurd rfl hleap
    | nanosecond => exact absurd rfl hfield
    | _ => rfl
  · rfl

/-- A leap second has been told, or else the second can be told. -/
theorem exists_second (h : Told t told fields) :
  ∃ t' fields', Told t' (.second :: told) fields' ∧ t'.whole = t.whole ∧
    ((fields.get? .second = some 60 ∧ t.time.second = 59 ∧ fields' = fields) ∨
      (fields.get? .second ≠ some 60 ∧ fields.set? .second t.time.second = some fields'))
  := by
  by_cases hleap : fields.get? .second = some 60
  · have hmem : Field.second ∈ told := by
      by_contra hnot
      rw [h.get?_of_not_mem hnot] at hleap
      cases hleap
    have hlast : t.time.second = 59 := by
      rw [h.get?_of_mem (by decide) hmem, Field.valueAt] at hleap
      have hshown : (Timestamp.shownSecond t.time : Int) = 60 := Option.some.inj hleap
      have hbelow := t.time.isTime.2.2.1
      obtain ⟨-, hplain⟩ | ⟨-, hlast, -⟩ := t.time.shownSecond_cases
      · omega
      · exact hlast
    have htold : Told t (.second :: told) fields := h.congr (by simpa using hmem)
    exact ⟨t, fields, htold, rfl, .inl ⟨hleap, hlast, rfl⟩⟩
  · obtain ⟨fields', hset, htold⟩ := (h.whole hleap).set? .second (by decide)
      (Field.second.valueAt_range _ nofun)
    rw [Field.valueAt, Timestamp.shownSecond_whole] at hset
    exact ⟨t.whole, fields', htold, rfl, .inr ⟨hleap, hset⟩⟩

/-- The seconds since 1970 complete the fields. -/
theorem exists_completed?_eq (h : Told t told fields) :
  ∃ t' fields', fields.completed? t.unixSeconds = some fields' ∧
    Told t' (.minute :: .hourOfHalf :: .half :: .dayOfYear :: .year :: .second :: told) fields' ∧
    t'.date = t.date
  := by
  obtain ⟨t', f₀, h₀, hwhole, hsecond⟩ := h.exists_second
  have hdate : t'.date = t.whole.date := congrArg (fun s => s.date) hwhole
  have hhour : t'.time.hour = t.whole.time.hour := congrArg (fun s => s.time.hour) hwhole
  have hminute : t'.time.minute = t.whole.time.minute := congrArg (fun s => s.time.minute) hwhole
  obtain ⟨f₁, hset₁, h₁⟩ := h₀.set? .year (by decide) (Field.valueAt_range _ _ nofun)
  obtain ⟨f₂, hset₂, h₂⟩ := h₁.set? .dayOfYear (by decide) (Field.valueAt_range _ _ nofun)
  obtain ⟨f₃, hset₃, h₃⟩ := h₂.set? .half (by decide) (Field.valueAt_range _ _ nofun)
  obtain ⟨f₄, hset₄, h₄⟩ := h₃.set? .hourOfHalf (by decide) (Field.valueAt_range _ _ nofun)
  obtain ⟨f₅, hset₅, h₅⟩ := h₄.set? .minute (by decide) (Field.valueAt_range _ _ nofun)
  simp only [Field.valueAt, hdate, hhour, hminute] at hset₁ hset₂ hset₃ hset₄ hset₅
  refine ⟨t', f₅, ?_, h₅, hdate⟩
  have hlast : t.whole.time.second = t.time.second := rfl
  rw [Fields.completed?, Timestamp.ofUnixSeconds?_unixSeconds]
  obtain ⟨hleap, hsecond, rfl⟩ | ⟨hleap, hset₀⟩ := hsecond
  · simp only [Option.bind_eq_bind, Option.bind_some, if_pos hleap, hlast, if_pos hsecond, hset₁,
      hset₂, hset₃, hset₄, hset₅]
  · simp only [Option.bind_eq_bind, Option.bind_some, if_neg hleap, hlast, hset₀, Option.map_some,
      hset₁, hset₂, hset₃, hset₄, hset₅]

/-- Fields with the seconds since 1970 determine the date, whatever else is told, unless the minute
is told and the second is not. -/
theorem exists_timestamp?_of_unixSeconds (h : Told t told fields) (hclear : Clear t told)
    (hmem : .unixSeconds ∈ told) (hseconds : .minute ∈ told → .second ∈ told) :
  ∃ t', fields.timestamp? = some t' ∧ t'.date = t.date
  := by
  have hget := h.get?_of_mem (by decide) hmem
  obtain ⟨t', f, hcompleted, hf, hdate⟩ := h.exists_completed?_eq
  have hboth : ∃ time, f.both? = some ⟨t.date, time⟩ := by
    have hclear' : Clear t'
        (.minute :: .hourOfHalf :: .half :: .dayOfYear :: .year :: .second :: told) := by
      refine ⟨?_, fun _ => ?_, ?_⟩
      · rw [hdate]
        simpa using hclear.century
      · simp
      · rw [hdate]
        simpa using hclear.weekYear
    have hfdate : f.date = .ok t.date := by
      rw [hf.date_eq hclear', if_pos (by simp [DateTold]), hdate]
    obtain ⟨-, hnot⟩ | ⟨time, htime, -⟩ := hf.time_cases
    · exact absurd (by simp [TimeTold]) hnot
    · exact ⟨time, by simp [Fields.both?, hfdate, htime]⟩
  obtain ⟨time, hboth⟩ := hboth
  obtain ⟨htime, -⟩ | ⟨near, htime, hnear, hminute⟩ := h.time_cases
  · refine ⟨⟨t.date, time⟩, ?_, rfl⟩
    rw [Fields.timestamp?, h.date_eq hclear, htime]
    by_cases htold : DateTold told <;>
      simp [htold, hget, Field.valueAt, Fields.timestamp?.insufficient, hcompleted, hboth]
  · by_cases htold : DateTold told
    · have hfdate : fields.date = .ok t.date := by rw [h.date_eq hclear, if_pos htold]
      exact ⟨_, h.timestamp?_of_near hfdate htime hnear fun _ => hseconds hminute, rfl⟩
    · refine ⟨⟨t.date, time⟩, ?_, rfl⟩
      rw [Fields.timestamp?, h.date_eq hclear, if_neg htold]
      simp [hget, Field.valueAt, Fields.timestamp?.insufficient, hcompleted, hboth, htime]

end Calendar.Told

end EntityStore
