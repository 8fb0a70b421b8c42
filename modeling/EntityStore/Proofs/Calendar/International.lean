import EntityStore.Proofs.Calendar.Legible

/-!
# International texts

Date functions of the database read a date, perhaps with a time behind it, whose parts are in the
order and between the signs of the international standard.  Reading goes by fields.  Here the
texts that are read as a timestamp are described by themselves.
-/

namespace EntityStore.Calendar

open Text

/-- Date functions of the database read a text as the date, the hour and the minute of a timestamp,
or as its date. -/
def ReadsBack (t : Timestamp) (text : String) : Prop :=
  (∃ f ∈ databaseFormats, ∃ p ∈ Timestamp.read? f text, sameMinute t p) ∨
    Date.read? dateFormat text = some t.date

instance (t : Timestamp) (text : String) : Decidable (ReadsBack t text) :=
  inferInstanceAs (Decidable (_ ∨ _))

/-! ### Texts -/

/-- A text begins with a number of at most two digits, perhaps behind blanks. -/
def Shows (s : List Char) (n : Nat) (rest : List Char) : Prop :=
  Reading.digits? (some 2) (trimStart s) = some ((n : Int), rest)

/-- A text begins with the date of a timestamp. -/
def ShowsDate (t : Timestamp) (s rest : List Char) : Prop :=
  ∃ r₁ r₂, Reading.signed? (some 4) (trimStart s) = some (t.date.year, '-' :: r₁) ∧
    Shows r₁ t.date.month ('-' :: r₂) ∧ Shows r₂ t.date.day rest

/-- A text begins with the hour and the minute of a timestamp. -/
def ShowsMinute (t : Timestamp) (s rest : List Char) : Prop :=
  ∃ r, Shows s t.time.hour (':' :: r) ∧ Shows r t.time.minute rest

/-- Blanks before a number make no difference. -/
theorem showsMinute_trimStart {t : Timestamp} {s rest : List Char} :
  ShowsMinute t (trimStart s) rest ↔ ShowsMinute t s rest
  := by simp only [ShowsMinute, Shows, trimStart_trimStart]

/-- A text is a second, perhaps with a fraction. -/
def IsSecond (s : List Char) : Prop :=
  ∃ n rest, Shows s n rest ∧ n ≤ 60 ∧
    (rest = [] ∨ ∃ ds, rest = '.' :: ds ∧ ds ≠ [] ∧ ∀ c ∈ ds, c.isDigit)

/-- A text is nothing, or a second behind a colon. -/
def IsSecondOrNothing (s : List Char) : Prop :=
  s = [] ∨ ∃ r, s = ':' :: r ∧ IsSecond r

/-- A text is the time of a timestamp, which may lack the second. -/
def IsTimeText (t : Timestamp) (s : List Char) : Prop :=
  ∃ rest, ShowsMinute t s rest ∧ IsSecondOrNothing rest

/-- A text is nothing, or the time of a timestamp, perhaps behind a letter. -/
def IsTimeOrNothing (t : Timestamp) (s : List Char) : Prop :=
  s = [] ∨ (∃ r, s = 'T' :: r ∧ IsTimeText t r) ∨ IsTimeText t s

/-- A text is the date of a timestamp, perhaps with the time behind it. -/
def IsInternationalText (t : Timestamp) (s : List Char) : Prop :=
  ∃ rest, ShowsDate t s rest ∧ IsTimeOrNothing t rest

/-! ### Reading one item after another -/

section

variable {s : List Char} {fields fields' : Fields} {items : List Item} {reading : Reading}

/-- Digits write a natural number. -/
theorem exists_natCast_of_digits? {width : Option Nat} {n : Int} {rest : List Char}
    (h : Reading.digits? width s = some (n, rest)) :
  ∃ k : Nat, n = k
  := by
  dsimp only [Reading.digits?] at h
  obtain ⟨-, heq⟩ := Option.ite_none_left_eq_some.mp h
  cases heq
  exact ⟨_, rfl⟩

theorem items?_literal_cons {c : Char} :
  Reading.items? ⟨s, fields⟩ (.literal c :: items) = some reading ↔
    ∃ rest, s = c :: rest ∧ Reading.items? ⟨rest, fields⟩ items = some reading
  := by
  cases s with
  | nil => simp [Reading.items?, Reading.item?, Reading.simple?]
  | cons d rest =>
      by_cases hd : d = c <;> simp [Reading.items?, Reading.item?, Reading.simple?, hd]

theorem items?_blank_cons {c : Char} :
  Reading.items? ⟨s, fields⟩ (.blank c :: items) = Reading.items? ⟨trimStart s, fields⟩ items
  := rfl

/-- A year is read with its sign. -/
theorem items?_year_cons {pad : Pad} :
  Reading.items? ⟨s, fields⟩ (.number .year pad :: items) = some reading ↔
    ∃ n rest fields', Reading.signed? (some 4) (trimStart s) = some (n, rest) ∧
      fields.set? .year n = some fields' ∧
      Reading.items? ⟨rest, fields'⟩ items = some reading
  := by
  simp only [Reading.items?, Reading.item?, Reading.simple?, Reading.shape, Reading.store?,
    Option.bind_eq_bind, Option.bind_eq_some_iff, Option.pure_def, if_true, Prod.exists]
  grind

/-- A number of two places is read from a text that shows one. -/
theorem items?_two_cons {part : NumberPart} {pad : Pad}
    (hpart : part ∈ [NumberPart.month, .day, .hour, .minute, .second]) :
  Reading.items? ⟨s, fields⟩ (.number part pad :: items) = some reading ↔
    ∃ n rest fields', Shows s n rest ∧ Reading.store? part n fields = some fields' ∧
      Reading.items? ⟨rest, fields'⟩ items = some reading
  := by
  have hshape : (Reading.shape part).2 = (some 2, false) := by
    revert hpart
    cases part <;> decide
  simp only [Reading.items?, Reading.item?, Reading.simple?, hshape, Option.bind_eq_bind,
    Option.bind_eq_some_iff, Option.pure_def, Prod.exists, Shows, Bool.false_eq_true, if_false]
  constructor
  · rintro ⟨reading', ⟨n, rest, hread, fields', hstore, heq⟩, hitems⟩
    cases heq
    obtain ⟨k, rfl⟩ := exists_natCast_of_digits? hread
    exact ⟨k, rest, fields', hread, hstore, hitems⟩
  · rintro ⟨n, rest, fields', hread, hstore, hitems⟩
    exact ⟨_, ⟨n, rest, hread, fields', hstore, rfl⟩, hitems⟩

/-- A number is stored in a field that has none. -/
theorem set?_eq_some_iff {field : Field} {n : Int} (h : fields.get? field = none) :
  fields.set? field n = some fields' ↔
    field.range.1 ≤ n ∧ n ≤ field.range.2 ∧ fields' = (field, n) :: fields
  := by
  unfold Fields.set?
  rw [h]
  split
  · next hrange => simp [hrange, eq_comm]
  · next hrange =>
      simp only [false_iff, reduceCtorEq]
      exact fun ⟨hfirst, hlast, _⟩ => hrange ⟨hfirst, hlast⟩

/-! ### Parts of a text -/

/-- The fields of a date. -/
def dateFields (y : Int) (m d : Nat) : Fields :=
  [(.day, d), (.month, m), (.year, y)]

/-- The fields of an hour and a minute besides others. -/
def minuteFields (h n : Nat) (fields : Fields) : Fields :=
  (.minute, n) :: (.hourOfHalf, h % 12) :: (.half, h / 12) :: fields

/-- The items of the international form of an hour and a minute. -/
def minuteItems : List Item :=
  [.number .hour .zeros, .literal ':', .number .minute .zeros]

/-- The items of the international form of a second behind a minute. -/
def secondItems : List Item :=
  [.literal ':', .number .second .zeros, .fixed .fraction]

/-- A date is read as its fields. -/
theorem items?_dateItems_append :
  Reading.items? ⟨s, []⟩ (dateItems ++ items) = some reading ↔
    ∃ y m d r₁ r₂ rest, Reading.signed? (some 4) (trimStart s) = some (y, '-' :: r₁) ∧
      Shows r₁ m ('-' :: r₂) ∧ Shows r₂ d rest ∧
      (-2147483648 ≤ y ∧ y ≤ 2147483647) ∧ (1 ≤ m ∧ m ≤ 12) ∧ (1 ≤ d ∧ d ≤ 31) ∧
      Reading.items? ⟨rest, dateFields y m d⟩ items = some reading
  := by
  simp only [dateItems, List.cons_append, List.nil_append, items?_year_cons, items?_literal_cons,
    items?_two_cons, List.mem_cons, true_or, or_true, Reading.store?, Reading.shape]
  constructor
  · rintro ⟨y, _, f₁, hy, hset₁, r₁, rfl, m, _, f₂, hm, hset₂, r₂, rfl, d, rest, f₃, hd, hset₃, h⟩
    obtain ⟨hy₁, hy₂, rfl⟩ := (set?_eq_some_iff rfl).mp hset₁
    obtain ⟨hm₁, hm₂, rfl⟩ := (set?_eq_some_iff rfl).mp hset₂
    obtain ⟨hd₁, hd₂, rfl⟩ := (set?_eq_some_iff rfl).mp hset₃
    simp only [Field.range] at hy₁ hy₂ hm₁ hm₂ hd₁ hd₂
    exact ⟨y, m, d, r₁, r₂, rest, hy, hm, hd, ⟨hy₁, hy₂⟩, by omega, by omega, h⟩
  · rintro ⟨y, m, d, r₁, r₂, rest, hy, hm, hd, ⟨hy₁, hy₂⟩, hmonth, hday, h⟩
    refine ⟨y, _, _, hy, (set?_eq_some_iff rfl).mpr ⟨hy₁, hy₂, rfl⟩, r₁, rfl, m, _, _, hm,
      (set?_eq_some_iff rfl).mpr ⟨?_, ?_, rfl⟩, r₂, rfl, d, rest, _, hd,
      (set?_eq_some_iff rfl).mpr ⟨?_, ?_, rfl⟩, h⟩
    all_goals
      simp only [Field.range]
      omega

/-- An hour and a minute are read as their fields. -/
theorem items?_minuteItems_append (hhalf : fields.get? .half = none)
    (hhour : fields.get? .hourOfHalf = none) (hminute : fields.get? .minute = none) :
  Reading.items? ⟨s, fields⟩ (minuteItems ++ items) = some reading ↔
    ∃ h n r rest, Shows s h (':' :: r) ∧ Shows r n rest ∧ h < 24 ∧ n < 60 ∧
      Reading.items? ⟨rest, minuteFields h n fields⟩ items = some reading
  := by
  simp only [minuteItems, List.cons_append, List.nil_append, items?_literal_cons,
    items?_two_cons, List.mem_cons, true_or, or_true, Reading.store?, Reading.shape,
    Option.bind_eq_bind, Option.bind_eq_some_iff]
  have hhour' : ∀ k, Fields.get? ((.half, k) :: fields) .hourOfHalf = none := fun k => hhour
  have hminute' : ∀ k l, Fields.get? ((.hourOfHalf, l) :: (.half, k) :: fields) .minute = none :=
    fun k l => hminute
  constructor
  · rintro ⟨h, _, _, hh, ⟨_, hset₁, hset₂⟩, r, rfl, n, rest, _, hn, hset₃, hitems⟩
    obtain ⟨hhalf₁, hhalf₂, rfl⟩ := (set?_eq_some_iff hhalf).mp hset₁
    obtain ⟨-, -, rfl⟩ := (set?_eq_some_iff (hhour' _)).mp hset₂
    obtain ⟨hn₁, hn₂, rfl⟩ := (set?_eq_some_iff (hminute' _ _)).mp hset₃
    simp only [Field.range] at hhalf₁ hhalf₂ hn₁ hn₂
    exact ⟨h, n, r, rest, hh, hn, by omega, by omega, hitems⟩
  · rintro ⟨h, n, r, rest, hh, hn, hhour, hminute, hitems⟩
    refine ⟨h, _, _, hh, ⟨_, (set?_eq_some_iff hhalf).mpr ⟨?_, ?_, rfl⟩,
      (set?_eq_some_iff (hhour' _)).mpr ⟨?_, ?_, rfl⟩⟩, r, rfl, n, rest, _, hn,
      (set?_eq_some_iff (hminute' _ _)).mpr ⟨?_, ?_, rfl⟩, hitems⟩
    all_goals
      simp only [Field.range]
      omega

/-- Fields have besides others at most a second, and a fraction only with it. -/
structure Fields.Seconded (fields fields' : Fields) : Prop where
  others : ∀ field, field ≠ .second → field ≠ .nanosecond →
    fields'.get? field = fields.get? field
  nanosecond : ∀ n ∈ fields'.get? .nanosecond,
    (fields'.get? .second).isSome ∧ 0 ≤ n ∧ n ≤ 999999999

/-- A fraction is read from digits and nothing else. -/
theorem fraction?_nil_iff {ds : List Char} :
  (∃ n, Reading.fraction? ds = some (n, [])) ↔ ds ≠ [] ∧ ∀ c ∈ ds, c.isDigit
  := by
  rw [← List.takeWhile_eq_self_iff]
  constructor
  · rintro ⟨n, h⟩
    dsimp only [Reading.fraction?] at h
    obtain ⟨hne, heq⟩ := Option.ite_none_left_eq_some.mp h
    have hrest : ds.drop (ds.takeWhile Char.isDigit).length = [] := congrArg Prod.snd
      (Option.some.inj heq)
    have hall := (List.takeWhile_prefix Char.isDigit).eq_of_length_le
      (List.drop_eq_nil_iff.mp hrest)
    refine ⟨?_, hall⟩
    rintro rfl
    exact hne rfl
  · rintro ⟨hne, hall⟩
    have hwritten : (ds.take 9).isEmpty = false := by simpa using hne
    simp only [Reading.fraction?, hall, hwritten, List.drop_length, Bool.false_eq_true, if_false]
    exact ⟨_, rfl⟩

/-- A fraction is below one second. -/
theorem fraction?_range {ds rest : List Char} {n : Int}
    (h : Reading.fraction? ds = some (n, rest)) :
  0 ≤ n ∧ n ≤ 999999999
  := by
  dsimp only [Reading.fraction?] at h
  obtain ⟨hne, heq⟩ := Option.ite_none_left_eq_some.mp h
  cases heq
  have hdigits : ∀ c ∈ (ds.takeWhile Char.isDigit).take 9, c.isDigit = true := by
    intro c hc
    exact List.mem_takeWhile_imp (List.mem_of_mem_take hc)
  obtain ⟨k, hk, -⟩ := Numeral.of_isDigit (by simpa using hne) hdigits
  have hrange := Reading.fraction_range hk (List.length_take_le _ _)
  rw [hk.value_eq, Nat.pow_eq]
  exact_mod_cast hrange

/-- A fraction is read, or nothing. -/
theorem items?_fraction_iff (hnano : fields.get? .nanosecond = none) :
  Reading.items? ⟨s, fields⟩ [.fixed .fraction] = some ⟨[], fields'⟩ ↔
    (s = [] ∧ fields' = fields) ∨
      ∃ ds n, s = '.' :: ds ∧ Reading.fraction? ds = some (n, []) ∧
        fields' = (.nanosecond, n) :: fields
  := by
  have hput : ∀ ds, Reading.items? ⟨'.' :: ds, fields⟩ [.fixed .fraction] =
      Reading.put? ⟨'.' :: ds, fields⟩ .nanosecond (Reading.fraction? ds) :=
    fun ds => Option.bind_fun_some _
  cases s with
  | nil => simp [Reading.items?, Reading.item?, Reading.simple?, eq_comm]
  | cons c ds =>
      by_cases hc : c = '.'
      · subst hc
        rw [hput]
        constructor
        · intro h
          obtain ⟨⟨n, rest⟩, hread, hset⟩ := Option.bind_eq_some_iff.mp h
          obtain ⟨f, hset, heq⟩ := Option.bind_eq_some_iff.mp hset
          cases heq
          obtain ⟨-, -, rfl⟩ := (set?_eq_some_iff hnano).mp hset
          exact .inr ⟨ds, n, rfl, hread, rfl⟩
        · rintro (⟨hnil, -⟩ | ⟨ds, n, heq, hread, rfl⟩)
          · cases hnil
          · cases heq
            obtain ⟨hfirst, hlast⟩ := fraction?_range hread
            have hset := (set?_eq_some_iff hnano).mpr ⟨hfirst, hlast, rfl⟩
            rw [Reading.put?, hread]
            simp [hset]
      · have hnone : Reading.items? ⟨c :: ds, fields⟩ [.fixed .fraction] =
            some ⟨c :: ds, fields⟩ := by
          simp [Reading.items?, Reading.item?, Reading.simple?, hc]
        simp [hnone, hc]

/-- A second behind a minute is read as its fields. -/
theorem items?_secondItems_iff (hsecond : fields.get? .second = none)
    (hnano : fields.get? .nanosecond = none) :
  Reading.items? ⟨s, fields⟩ secondItems = some ⟨[], fields'⟩ ↔
    ∃ r n rest, s = ':' :: r ∧ Shows r n rest ∧ n ≤ 60 ∧
      ((rest = [] ∧ fields' = (.second, (n : Int)) :: fields) ∨
        ∃ ds k, rest = '.' :: ds ∧ Reading.fraction? ds = some (k, []) ∧
          fields' = (.nanosecond, k) :: (.second, (n : Int)) :: fields)
  := by
  simp only [secondItems, items?_literal_cons, items?_two_cons, List.mem_cons, true_or, or_true,
    Reading.store?, Reading.shape]
  have hnano' : ∀ n, Fields.get? ((.second, n) :: fields) .nanosecond = none := fun _ => hnano
  constructor
  · rintro ⟨r, rfl, n, rest, f, hn, hset, hitems⟩
    obtain ⟨-, hlast, rfl⟩ := (set?_eq_some_iff hsecond).mp hset
    exact ⟨r, n, rest, rfl, hn, by simpa [Field.range] using hlast,
      (items?_fraction_iff (hnano' _)).mp hitems⟩
  · rintro ⟨r, n, rest, rfl, hn, hlast, hrest⟩
    exact ⟨r, rfl, n, rest, _, hn,
      (set?_eq_some_iff hsecond).mpr ⟨by simp [Field.range], by simpa [Field.range] using hlast,
        rfl⟩, (items?_fraction_iff (hnano' _)).mpr hrest⟩

/-- A second and its fraction are in range. -/
theorem seconded_of_items? (hsecond : fields.get? .second = none)
    (hnano : fields.get? .nanosecond = none)
    (h : Reading.items? ⟨s, fields⟩ secondItems = some ⟨[], fields'⟩) :
  fields.Seconded fields'
  := by
  have hcons : ∀ (field : Field) (n : Int) (fields : Fields) (other : Field),
      Fields.get? ((field, n) :: fields) other =
        if other = field then some n else fields.get? other := by
    intro field n fields other
    rw [Fields.get?, List.lookup_cons]
    split <;> simp_all [Fields.get?]
  obtain ⟨r, n, rest, -, -, -, ⟨-, rfl⟩ | ⟨ds, k, -, hread, rfl⟩⟩ :=
    (items?_secondItems_iff hsecond hnano).mp h
  · refine ⟨fun field h₁ h₂ => ?_, fun m hm => ?_⟩
    · rw [hcons, if_neg h₁]
    · rw [hcons, if_neg (by decide), hnano] at hm
      cases hm
  · have hrange := fraction?_range hread
    refine ⟨fun field h₁ h₂ => ?_, fun m hm => ?_⟩
    · rw [hcons, if_neg h₂, hcons, if_neg h₁]
    · rw [hcons, if_pos rfl] at hm
      cases hm
      exact ⟨rfl, hrange⟩

/-- A second behind a minute is read from a text that is one. -/
theorem exists_items?_secondItems_iff (hsecond : fields.get? .second = none)
    (hnano : fields.get? .nanosecond = none) :
  (∃ fields', Reading.items? ⟨s, fields⟩ secondItems = some ⟨[], fields'⟩) ↔
    ∃ r, s = ':' :: r ∧ IsSecond r
  := by
  simp only [items?_secondItems_iff hsecond hnano, IsSecond, ← fraction?_nil_iff]
  constructor
  · rintro ⟨f, r, n, rest, rfl, hn, hlast, ⟨rfl, -⟩ | ⟨ds, k, rfl, hread, -⟩⟩
    · exact ⟨r, rfl, n, _, hn, hlast, .inl rfl⟩
    · exact ⟨r, rfl, n, _, hn, hlast, .inr ⟨ds, rfl, k, hread⟩⟩
  · rintro ⟨r, rfl, n, rest, hn, hlast, rfl | ⟨ds, rfl, k, hread⟩⟩
    · exact ⟨_, r, n, _, rfl, hn, hlast, .inl ⟨rfl, rfl⟩⟩
    · exact ⟨_, r, n, _, rfl, hn, hlast, .inr ⟨ds, k, rfl, hread, rfl⟩⟩

/-! ### Timestamps -/

/-- The date of fields that tell a date and nothing else about it. -/
theorem date_eq_orGap {y : Int} {m d : Nat} {fields : Fields}
    (hyear : fields.get? .year = some y) (hmonth : fields.get? .month = some (m : Int))
    (hday : fields.get? .day = some (d : Int))
    (hothers : ∀ field ∈ [Field.century, .yearOfCentury, .weekYear, .weekYearOfCentury, .quarter,
      .weekFromSunday, .weekFromMonday, .isoWeek, .weekday, .dayOfYear],
      fields.get? field = none) :
  fields.date = Fields.orGap (Date.ofYmd? y m d) .outOfRange
  := by
  simp only [List.forall_mem_cons, List.not_mem_nil, false_implies, implies_true, and_true]
    at hothers
  obtain ⟨hcentury, hofCentury, hweekYear, hweekOfCentury, hquarter, hsunday, hmonday, hweek,
    hweekday, hordinal⟩ := hothers
  have hbyDay : fields.byDay? (some y) = some (Fields.orGap (Date.ofYmd? y m d) .outOfRange) := by
    simp [Fields.byDay?, hmonth, hday]
  have hbyWeek : ∀ date, fields.agreesByWeek date := by
    simp [Fields.agreesByWeek, Fields.agrees, Fields.agreesInCentury, *]
  have hbyOrdinal : ∀ date, fields.agreesByOrdinal date := by
    simp [Fields.agreesByOrdinal, Fields.agrees, *]
  have hbyQuarter : ∀ n, fields.agrees .quarter n := by
    simp [Fields.agrees, hquarter]
  rw [Fields.date, hyear, hcentury, hofCentury, hweekYear, hweekOfCentury]
  simp only [Fields.resolveYear, bind, Except.bind, hbyDay]
  cases Fields.orGap (Date.ofYmd? y m d) .outOfRange with
  | error gap => rfl
  | ok date => simp [hbyWeek, hbyOrdinal, hbyQuarter, pure, Except.pure]

/-- The time of fields that tell an hour and a minute, and perhaps a second. -/
theorem exists_time_eq {h n : Nat} {fields : Fields} (hh : h < 24) (hn : n < 60)
    (hhalf : fields.get? .half = some ((h : Int) / 12))
    (hhour : fields.get? .hourOfHalf = some ((h : Int) % 12))
    (hminute : fields.get? .minute = some (n : Int))
    (hnano : ∀ k ∈ fields.get? .nanosecond,
      (fields.get? .second).isSome ∧ 0 ≤ k ∧ k ≤ 999999999) :
  ∃ time, fields.time = .ok time ∧ time.hour = h ∧ time.minute = n
  := by
  have hguard : ((fields.get? .second).isNone && (fields.get? .nanosecond).isSome) = false := by
    cases hk : fields.get? .nanosecond with
    | none => simp
    | some k => simp [(hnano k hk).1]
  have htime : IsTime (12 * ((h : Int) / 12) + (h : Int) % 12).toNat (n : Int).toNat
      (min ((fields.get? .second).getD 0).toNat 59)
      ((if ((fields.get? .second).getD 0).toNat = 60 then nanosPerSecond else 0) +
        ((fields.get? .nanosecond).getD 0).toNat) := by
    have hfraction : ((fields.get? .nanosecond).getD 0).toNat < nanosPerSecond := by
      unfold nanosPerSecond
      cases hk : fields.get? .nanosecond with
      | none => simp
      | some k =>
          have := hnano k hk
          simp only [Option.getD_some]
          omega
    refine ⟨by omega, by omega, by omega, ?_⟩
    split <;> omega
  have hof : (12 * ((h : Int) / 12) + (h : Int) % 12).toNat = h := by omega
  unfold Fields.time
  rw [hhalf, hhour, hminute]
  simp only [hguard, Bool.false_eq_true, if_false, TimeOfDay.ofHmsn?, dif_pos htime]
  exact ⟨_, rfl, hof, rfl⟩

/-- Fields without the seconds since 1970 determine a timestamp if they determine a date and a
time. -/
theorem timestamp?_eq_both? {fields : Fields} (h : fields.get? .unixSeconds = none) :
  fields.timestamp? = fields.both?
  := by
  unfold Fields.timestamp? Fields.both?
  cases fields.date <;> cases fields.time <;> simp [h, Fields.agreesByUnixSeconds]

/-- A date is made of its year, month and day. -/
theorem ofYmd?_eq_some_iff {y : Int} {m d : Nat} {date : Date} :
  Date.ofYmd? y m d = some date ↔ y = date.year ∧ m = date.month ∧ d = date.day
  := by
  constructor
  · intro h
    obtain ⟨hisDate, heq⟩ := Option.dite_none_right_eq_some.mp h
    cases heq
    exact ⟨rfl, rfl, rfl⟩
  · rintro ⟨rfl, rfl, rfl⟩
    apply Date.ofYmd?_self

/-- What is read of a timestamp to the minute is that timestamp. -/
theorem sameMinute_of_fields {y : Int} {m d h n : Nat} {fields : Fields} {t : Timestamp}
    (hh : h < 24) (hn : n < 60)
    (hfields : (minuteFields h n (dateFields y m d)).Seconded fields) :
  (∃ p ∈ fields.timestamp?, sameMinute t p) ↔
    y = t.date.year ∧ m = t.date.month ∧ d = t.date.day ∧ h = t.time.hour ∧ n = t.time.minute
  := by
  obtain ⟨hothers, hnano⟩ := hfields
  have hget : ∀ field, field ≠ .second → field ≠ .nanosecond → fields.get? field =
      (minuteFields h n (dateFields y m d)).get? field := hothers
  have hdate := @date_eq_orGap y m d fields (hget _ (by decide) (by decide))
    (hget _ (by decide) (by decide)) (hget _ (by decide) (by decide)) (by
      intro field hfield
      fin_cases hfield <;> exact hget _ (by decide) (by decide))
  obtain ⟨time, htime, hhour, hminute⟩ := exists_time_eq hh hn (hget _ (by decide) (by decide))
    (hget _ (by decide) (by decide)) (hget _ (by decide) (by decide)) hnano
  rw [timestamp?_eq_both? (hget _ (by decide) (by decide)), Fields.both?, hdate, htime]
  constructor
  · rintro ⟨p, hp, hsame⟩
    cases hymd : Date.ofYmd? y m d with
    | none =>
        rw [hymd] at hp
        cases hp
    | some date =>
        rw [hymd] at hp
        cases hp
        obtain ⟨rfl, rfl, rfl⟩ := ofYmd?_eq_some_iff.mp hymd
        simp only [sameMinute, Bool.and_eq_true, decide_eq_true_eq] at hsame
        obtain ⟨⟨hday, hsameHour⟩, hsameMinute⟩ := hsame
        rw [hday, hsameHour, hsameMinute]
        exact ⟨rfl, rfl, rfl, hhour.symm, hminute.symm⟩
  · rintro ⟨rfl, rfl, rfl, rfl, rfl⟩
    rw [Date.ofYmd?_self]
    exact ⟨_, rfl, by simp [sameMinute, hhour, hminute]⟩

/-! ### Formats of the database -/

/-- The items of a form with a time: a letter or blanks before it, and with a second or without. -/
def databaseItems (letter second : Bool) : List Item :=
  dateItems ++ (if letter then .literal 'T' else .blank ' ') ::
    (minuteItems ++ if second then secondItems else [])

/-- These are the forms that date functions of the database can read. -/
theorem mem_databaseFormats_iff :
  (∀ f ∈ databaseFormats, ∃ letter second, items? f = some (databaseItems letter second)) ∧
    ∀ letter second, ∃ f ∈ databaseFormats, items? f = some (databaseItems letter second)
  := by decide +kernel

/-- What comes between a date and a time. -/
def IsBetween (letter : Bool) (s clock : List Char) : Prop :=
  if letter then s = 'T' :: clock else clock = trimStart s

/-- What comes behind a minute. -/
def IsBehind (second : Bool) (s : List Char) : Prop :=
  if second then ∃ r, s = ':' :: r ∧ IsSecond r else s = []

theorem items?_between {letter : Bool} :
  Reading.items? ⟨s, fields⟩ ((if letter then .literal 'T' else .blank ' ') :: items) =
      some reading ↔
    ∃ clock, IsBetween letter s clock ∧ Reading.items? ⟨clock, fields⟩ items = some reading
  := by
  cases letter with
  | true => exact items?_literal_cons
  | false => simp [IsBetween, items?_blank_cons]

theorem items?_behind {second : Bool} (hsecond : fields.get? .second = none)
    (hnano : fields.get? .nanosecond = none)
    (h : Reading.items? ⟨s, fields⟩ (if second then secondItems else []) = some ⟨[], fields'⟩) :
  IsBehind second s ∧ fields.Seconded fields'
  := by
  cases second with
  | true =>
      exact ⟨(exists_items?_secondItems_iff hsecond hnano).mp ⟨_, h⟩,
        seconded_of_items? hsecond hnano h⟩
  | false =>
      cases h
      exact ⟨rfl, fun _ _ _ => rfl, by simp [hnano]⟩

theorem exists_items?_behind {second : Bool} (hsecond : fields.get? .second = none)
    (hnano : fields.get? .nanosecond = none) (h : IsBehind second s) :
  ∃ fields', Reading.items? ⟨s, fields⟩ (if second then secondItems else []) =
    some ⟨[], fields'⟩
  := by
  cases second with
  | true => exact (exists_items?_secondItems_iff hsecond hnano).mpr h
  | false =>
      obtain rfl : s = [] := h
      exact ⟨_, rfl⟩

/-- A whole text is read. -/
theorem fields?_eq_some_iff {format text : String} (hformat : items? format = some items) :
  fields? format text = some fields ↔
    Reading.items? ⟨text.toList, []⟩ items = some ⟨[], fields⟩
  := by
  simp only [fields?, hformat, Option.bind_eq_bind, Option.bind_some]
  cases Reading.items? ⟨text.toList, []⟩ items with
  | none => simp
  | some reading =>
      obtain ⟨rest, fields'⟩ := reading
      cases rest <;> simp

/-- A timestamp is read to the minute from a text in a form with a time. -/
theorem read?_iff {letter second : Bool} {format text : String} {t : Timestamp}
    (hformat : items? format = some (databaseItems letter second)) :
  (∃ p ∈ Timestamp.read? format text, sameMinute t p) ↔
    ∃ rest clock after, ShowsDate t text.toList rest ∧ IsBetween letter rest clock ∧
      ShowsMinute t clock after ∧ IsBehind second after
  := by
  have hmonth := t.date.month_day
  have hday := t.date.day_le
  obtain ⟨hfirstYear, hlastYear, -, -⟩ := t.date.isDate
  obtain ⟨hhour, hminute, -, -⟩ := t.time.isTime
  constructor
  · rintro ⟨p, hp, hsame⟩
    obtain ⟨fields, hfields, hp⟩ := Option.bind_eq_some_iff.mp hp
    have hread := (fields?_eq_some_iff hformat).mp hfields
    obtain ⟨y, m, d, r₁, r₂, rest, hy, hm, hd, -, -, -, hread⟩ :=
      items?_dateItems_append.mp hread
    obtain ⟨clock, hclock, hread⟩ := items?_between.mp hread
    obtain ⟨h, n, r, after, hh, hn, hlast, hlast', hread⟩ :=
      (items?_minuteItems_append rfl rfl rfl).mp hread
    obtain ⟨hafter, hseconded⟩ := items?_behind rfl rfl hread
    obtain ⟨rfl, rfl, rfl, rfl, rfl⟩ :=
      (sameMinute_of_fields hlast hlast' hseconded).mp ⟨p, hp, hsame⟩
    exact ⟨rest, clock, after, ⟨r₁, r₂, hy, hm, hd⟩, hclock, ⟨r, hh, hn⟩, hafter⟩
  · rintro ⟨rest, clock, after, ⟨r₁, r₂, hy, hm, hd⟩, hclock, ⟨r, hh, hn⟩, hafter⟩
    obtain ⟨fields, hfields⟩ := @exists_items?_behind after (minuteFields t.time.hour t.time.minute
      (dateFields t.date.year t.date.month t.date.day)) second rfl rfl hafter
    have hread : Reading.items? ⟨text.toList, []⟩ (databaseItems letter second) =
        some ⟨[], fields⟩ := by
      unfold minYear at hfirstYear
      unfold maxYear at hlastYear
      exact items?_dateItems_append.mpr ⟨_, _, _, r₁, r₂, rest, hy, hm, hd, by omega, by omega,
        by omega, items?_between.mpr ⟨clock, hclock, (items?_minuteItems_append rfl rfl rfl).mpr
          ⟨_, _, r, after, hh, hn, hhour, hminute, hfields⟩⟩⟩
    obtain ⟨-, hseconded⟩ := items?_behind rfl rfl hfields
    obtain ⟨p, hp, hsame⟩ :=
      (sameMinute_of_fields hhour hminute hseconded).mpr ⟨rfl, rfl, rfl, rfl, rfl⟩
    refine ⟨p, ?_, hsame⟩
    exact Option.bind_eq_some_iff.mpr ⟨fields, (fields?_eq_some_iff hformat).mpr hread, hp⟩

/-- A date is read from a text in the international form of a date. -/
theorem readDate?_iff {text : String} {t : Timestamp} :
  Date.read? dateFormat text = some t.date ↔ ShowsDate t text.toList []
  := by
  have hmonth := t.date.month_day
  have hday := t.date.day_le
  obtain ⟨hfirstYear, hlastYear, -, -⟩ := t.date.isDate
  have hformat : items? dateFormat = some (dateItems ++ []) := by decide +kernel
  have hdate : ∀ y m d, (dateFields y m d).date = Fields.orGap (Date.ofYmd? y m d) .outOfRange :=
    fun y m d => date_eq_orGap rfl rfl rfl (by
      intro field hfield
      fin_cases hfield <;> rfl)
  constructor
  · intro h
    obtain ⟨fields, hfields, hdate'⟩ := Option.bind_eq_some_iff.mp h
    obtain ⟨y, m, d, r₁, r₂, rest, hy, hm, hd, -, -, -, hread⟩ :=
      items?_dateItems_append.mp ((fields?_eq_some_iff hformat).mp hfields)
    cases hread
    rw [hdate] at hdate'
    cases hymd : Date.ofYmd? y m d with
    | none =>
        rw [hymd] at hdate'
        cases hdate'
    | some date =>
        rw [hymd] at hdate'
        cases hdate'
        obtain ⟨rfl, rfl, rfl⟩ := ofYmd?_eq_some_iff.mp hymd
        exact ⟨r₁, r₂, hy, hm, hd⟩
  · rintro ⟨r₁, r₂, hy, hm, hd⟩
    unfold minYear at hfirstYear
    unfold maxYear at hlastYear
    have hread : Reading.items? ⟨text.toList, []⟩ (dateItems ++ []) =
        some ⟨[], dateFields t.date.year t.date.month t.date.day⟩ :=
      items?_dateItems_append.mpr ⟨_, _, _, r₁, r₂, [], hy, hm, hd, by omega, by omega, by omega,
        rfl⟩
    refine Option.bind_eq_some_iff.mpr ⟨_, (fields?_eq_some_iff hformat).mpr hread, ?_⟩
    rw [hdate, Date.ofYmd?_self]
    rfl

/-- Date functions of the database read a timestamp back exactly from its international texts. -/
theorem readsBack_iff {t : Timestamp} {text : String} :
  ReadsBack t text ↔ IsInternationalText t text.toList
  := by
  obtain ⟨hformats, hall⟩ := mem_databaseFormats_iff
  have htime : (∃ f ∈ databaseFormats, ∃ p ∈ Timestamp.read? f text, sameMinute t p) ↔
      ∃ letter second rest clock after, ShowsDate t text.toList rest ∧
        IsBetween letter rest clock ∧ ShowsMinute t clock after ∧ IsBehind second after := by
    constructor
    · rintro ⟨f, hf, hread⟩
      obtain ⟨letter, second, hformat⟩ := hformats f hf
      exact ⟨letter, second, (read?_iff hformat).mp hread⟩
    · rintro ⟨letter, second, hread⟩
      obtain ⟨f, hf, hformat⟩ := hall letter second
      exact ⟨f, hf, (read?_iff hformat).mpr hread⟩
  rw [ReadsBack, htime, readDate?_iff]
  constructor
  · rintro (⟨letter, second, rest, clock, after, hdate, hclock, hminute, hafter⟩ | hdate)
    · have hrest : IsSecondOrNothing after := by
        cases second with
        | true => exact .inr hafter
        | false => exact .inl hafter
      refine ⟨rest, hdate, .inr ?_⟩
      cases letter with
      | true => exact .inl ⟨clock, hclock, after, hminute, hrest⟩
      | false =>
          obtain rfl : clock = trimStart rest := hclock
          exact .inr ⟨after, showsMinute_trimStart.mp hminute, hrest⟩
    · exact ⟨[], hdate, .inl rfl⟩
  · rintro ⟨rest, hdate, rfl | hclock⟩
    · exact .inr hdate
    left
    have hbehind : ∀ after, IsSecondOrNothing after → ∃ second, IsBehind second after := by
      rintro after (hnil | hsecond)
      · exact ⟨false, hnil⟩
      · exact ⟨true, hsecond⟩
    rcases hclock with ⟨clock, rfl, after, hminute, hrest⟩ | ⟨after, hminute, hrest⟩
    · obtain ⟨second, hafter⟩ := hbehind after hrest
      exact ⟨true, second, _, clock, after, hdate, rfl, hminute, hafter⟩
    · obtain ⟨second, hafter⟩ := hbehind after hrest
      exact ⟨false, second, rest, _, after, hdate, rfl, showsMinute_trimStart.mpr hminute, hafter⟩

end

end EntityStore.Calendar
