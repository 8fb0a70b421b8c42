import EntityStore.Proofs.Calendar.Fields
import EntityStore.Proofs.Calendar.Numeral

/-!
# Items that are told apart

The text of an item can be told from the texts of the items behind it if it ends where no
reader would go on: a number has all the places that are read, or no digit follows.  Items that
are told apart are read one after another, and what they tell is true of the timestamp.
-/

namespace EntityStore.Calendar

open Text

/-! ### What items tell -/

/-- The fields that an item tells. -/
def Item.told : Item → List Field
  | .literal _ | .blank _ => []
  | .number .hour _ => [.half, .hourOfHalf]
  | .number part _ => [(Reading.shape part).1]
  | .fixed .shortMonth | .fixed .longMonth => [.month]
  | .fixed .shortWeekday | .fixed .longWeekday => [.weekday]
  | .fixed .lowerHalf | .fixed .upperHalf => [.half]
  | .fixed .fraction | .fixed (.fractionDigits _) | .fixed (.bareDigits _) => [.nanosecond]
  | .fixed .zoneName | .fixed .zoneOffset | .fixed .looseOffset | .fixed .standard => []

/-- The fields that items tell. -/
def toldBy (items : List Item) : List Field :=
  items.flatMap Item.told

/-! ### What stands behind an item -/

/-- Whether the text of items begins with no digit. -/
def noDigit : List Item → Bool
  | [] => true
  | .literal c :: _ => !c.isDigit
  | .blank _ :: _ => true
  | .number _ _ :: _ => false
  | .fixed .fraction :: items => noDigit items
  | .fixed (.bareDigits _) :: _ => false
  | .fixed _ :: _ => true

/-- Whether the text of items begins with no point, not even behind blanks. -/
def noPoint : List Item → Bool
  | [] => true
  | .literal c :: _ => c ≠ '.'
  | .blank _ :: items => noPoint items
  | .number _ _ :: _ => true
  | .fixed .fraction :: _ => false
  | .fixed (.fractionDigits _) :: _ => false
  | .fixed _ :: _ => true

/-- Whether a number has all the places that are read, for years from `first` to `last`. -/
def NumberPart.filled (first last : Int) (part : NumberPart) (pad : Pad) : Bool :=
  match part with
  | .unixSeconds => false
  | .year => pad = .zeros && 0 ≤ first && last ≤ 9999
  | .weekYear => pad = .zeros && 1 ≤ first && last ≤ 9998
  | part => pad = .zeros || part.places = 1

/-- Whether a number can be read, for years from `first` to `last`: centuries have two digits, and
the seconds since 1970 are not negative. -/
def NumberPart.inSpan (first last : Int) (part : NumberPart) : Bool :=
  match part with
  | .century => 0 ≤ first && last ≤ 9999
  | .unixSeconds => 1970 ≤ first
  | _ => true

/-- Whether an item is told apart from those behind it, for years from `first` to `last`. -/
def Item.separate (first last : Int) (item : Item) (behind : List Item) : Bool :=
  match item with
  | .literal c => !isBlank c
  | .blank c => isBlank c
  | .number part pad =>
    part.inSpan first last && (part.filled first last pad || noDigit behind)
  | .fixed .fraction => noDigit behind && noPoint behind
  | .fixed (.fractionDigits digits) | .fixed (.bareDigits digits) => 0 < digits && digits ≤ 9
  | .fixed .zoneName | .fixed .zoneOffset | .fixed .looseOffset | .fixed .standard => false
  | .fixed _ => true

/-- Whether every item is told apart from those behind it. -/
def separate (first last : Int) : List Item → Bool
  | [] => true
  | item :: items => item.separate first last items && separate first last items

theorem separate_cons {first last : Int} {item : Item} {items : List Item} :
  separate first last (item :: items) = true ↔
    item.separate first last items = true ∧ separate first last items = true
  := by rw [separate, Bool.and_eq_true]

/-! ### Names -/

namespace Reading

/-- The first three letters of a name are read as its position. -/
theorem shortName?_append {names : List String} {i : Nat} {start : List Char}
    (hlength : start.length = 3)
    (hfind : names.findIdx? (fun name =>
      (name.toList.take 3).map Char.toLower == start.map Char.toLower) = some i)
    (more : List Char) :
  shortName? names (start ++ more) = some (i, more)
  := by
  have htake : (start ++ more).take 3 = start := by rw [← hlength, List.take_left]
  have hdrop : (start ++ more).drop 3 = more := by rw [← hlength, List.drop_left]
  simp only [shortName?, htake, hdrop, hfind, Option.map_some]

/-- A name is read as its position. -/
theorem longName?_append {names : List String} {i : Nat} {start : List Char}
    (hlength : start.length = 3)
    (hfind : names.findIdx? (fun name =>
      (name.toList.take 3).map Char.toLower == start.map Char.toLower) = some i)
    (more : List Char) :
  longName? names (start ++ (names.getD i "").toList.drop 3 ++ more) = some (i, more)
  := by
  rw [longName?, List.append_assoc, shortName?_append hlength hfind]
  simp

/-- The months are known by their first three letters. -/
theorem exists_month {month : Nat} (h : 1 ≤ month ∧ month ≤ 12) :
  let name := (monthNames.getD (month - 1) "").toList
  (name.take 3).length = 3 ∧ monthNames.findIdx? (fun other =>
    (other.toList.take 3).map Char.toLower == (name.take 3).map Char.toLower) = some (month - 1)
  := by
  have hall : ∀ i : Fin 12,
      let name := (monthNames.getD i "").toList
      (name.take 3).length = 3 ∧ monthNames.findIdx? (fun other =>
        (other.toList.take 3).map Char.toLower == (name.take 3).map Char.toLower) = some i.val := by
    decide +kernel
  apply hall ⟨month - 1, by omega⟩

/-- The days of the week are known by their first three letters. -/
theorem exists_weekday {weekday : Nat} (h : weekday < 7) :
  let name := (weekdayNames.getD weekday "").toList
  (name.take 3).length = 3 ∧ weekdayNames.findIdx? (fun other =>
    (other.toList.take 3).map Char.toLower == (name.take 3).map Char.toLower) = some weekday
  := by
  have hall : ∀ i : Fin 7,
      let name := (weekdayNames.getD i "").toList
      (name.take 3).length = 3 ∧ weekdayNames.findIdx? (fun other =>
        (other.toList.take 3).map Char.toLower == (name.take 3).map Char.toLower) =
          some i.val := by
    decide +kernel
  apply hall ⟨weekday, h⟩

/-! ### Fractions -/

/-- Digits of a fraction that no digit follows are read. -/
theorem fraction?_append {ds more : List Char} {n : Nat} (h : Numeral ds n)
    (hlength : ds.length ≤ 9) (hmore : Apart more) :
  fraction? (ds ++ more) = some (((n * 10 ^ (9 - ds.length) : Nat) : Int), more)
  := by
  have hwritten : (ds ++ more).takeWhile Char.isDigit = ds := by
    rw [List.takeWhile_append_of_pos h.isDigit, hmore.takeWhile_eq, List.append_nil]
  have hempty : ds.isEmpty = false := by simpa using h.ne_nil
  simp [fraction?, hwritten, List.take_of_length_le hlength, hempty, h.value_eq, Nat.pow_eq]

/-- So many digits of a fraction are read. -/
theorem fixedFraction?_append {ds more : List Char} {n : Nat} (h : Numeral ds n) :
  fixedFraction? ds.length (ds ++ more) =
    some (((n * 10 ^ (9 - ds.length) : Nat) : Int), more)
  := by
  have hwritten : ((ds ++ more).take ds.length).takeWhile Char.isDigit = ds := by
    rw [List.take_left, h.takeWhile_eq]
  simp only [fixedFraction?, hwritten, h.value_eq, List.drop_left, if_true]
  simp

/-- A fraction is below one second. -/
theorem fraction_range {ds : List Char} {n : Nat} (h : Numeral ds n) (hlength : ds.length ≤ 9) :
  0 ≤ ((n * 10 ^ (9 - ds.length) : Nat) : Int) ∧
    ((n * 10 ^ (9 - ds.length) : Nat) : Int) ≤ 999999999
  := by
  have hlt : n * 10 ^ (9 - ds.length) < 10 ^ 9 := by
    calc
      n * 10 ^ (9 - ds.length) < 10 ^ ds.length * 10 ^ (9 - ds.length) :=
        Nat.mul_lt_mul_of_pos_right h.lt_pow (Nat.pow_pos (by decide))
      _ = 10 ^ 9 := by rw [← Nat.pow_add, Nat.add_sub_cancel' hlength]
  omega

end Reading

/-! ### Texts of items -/

/-- Characters of names: they are neither blank nor digits nor points. -/
def Letters (s : List Char) : Prop :=
  s ≠ [] ∧ ∀ c ∈ s, isBlank c = false ∧ c.isDigit = false ∧ c ≠ '.'

instance (s : List Char) : Decidable (Letters s) :=
  @instDecidableAnd _ _ inferInstance (List.decidableBAll _ s)

theorem Letters.exists_cons {s : List Char} (h : Letters s) :
  ∃ c rest, s = c :: rest ∧ isBlank c = false ∧ c.isDigit = false ∧ c ≠ '.'
  := by
  obtain ⟨hne, hletters⟩ := h
  obtain ⟨c, rest, rfl⟩ := List.exists_cons_of_ne_nil hne
  exact ⟨c, rest, rfl, hletters c List.mem_cons_self⟩

/-- Whether a part is written as a name. -/
def FixedPart.named : FixedPart → Bool
  | .shortMonth | .longMonth | .shortWeekday | .longWeekday | .lowerHalf | .upperHalf => true
  | _ => false

/-- Names are made of letters. -/
theorem FixedPart.letters_of_named {part : FixedPart} (h : part.named = true) {t : Timestamp}
    {text : List Char} (htext : part.render? t = some text) :
  Letters text
  := by
  have hmonths : ∀ i : Fin 12, Letters (monthNames.getD i "").toList ∧
      Letters ((monthNames.getD i "").toList.take 3) := by decide +kernel
  have hweekdays : ∀ i : Fin 7, Letters (weekdayNames.getD i "").toList ∧
      Letters ((weekdayNames.getD i "").toList.take 3) := by decide +kernel
  have hmonth : t.date.month - 1 < 12 := by
    have := t.date.month_day
    omega
  have hweekday := t.date.weekday_lt
  cases part with
  | shortMonth =>
      cases htext
      exact (hmonths ⟨_, hmonth⟩).2
  | longMonth =>
      cases htext
      exact (hmonths ⟨_, hmonth⟩).1
  | shortWeekday =>
      cases htext
      exact (hweekdays ⟨_, hweekday⟩).2
  | longWeekday =>
      cases htext
      exact (hweekdays ⟨_, hweekday⟩).1
  | lowerHalf | upperHalf =>
      cases htext
      split <;> decide
  | _ => cases h

/-- A number with zeros on its left. -/
theorem numeral_padded (width n : Nat) :
  Numeral (Timestamp.padded width n) n
  := (Numeral.decimalDigits n).padLeft width

/-- A number below a power of ten is filled up to as many places. -/
theorem length_padded {width n : Nat} (hwidth : 0 < width) (h : n < 10 ^ width) :
  (Timestamp.padded width n).length = width
  := by
  have : (decimalDigits n).length ≤ width :=
    (Nat.length_toDigits_le_iff (by decide) hwidth).mpr h
  rw [Timestamp.padded, padLeft, List.length_append, List.length_replicate]
  omega

/-- A fraction of a second is written with a point and at most nine digits, or not at all. -/
theorem fractionText_cases {nanos : Nat} (h : nanos < nanosPerSecond) :
  Timestamp.fractionText nanos = [] ∨
    ∃ ds n, Timestamp.fractionText nanos = '.' :: ds ∧ Numeral ds n ∧ ds.length ≤ 9
  := by
  have hpadded {width n : Nat} (hwidth : 0 < width ∧ width ≤ 9) (hn : n < 10 ^ width) :
      (Timestamp.padded width n).length ≤ 9 := by
    rw [length_padded hwidth.1 hn]
    exact hwidth.2
  unfold nanosPerSecond at h
  unfold Timestamp.fractionText
  split
  · left; rfl
  right
  split
  · exact ⟨_, _, rfl, numeral_padded _ _, hpadded (by decide) (by omega)⟩
  split
  · exact ⟨_, _, rfl, numeral_padded _ _, hpadded (by decide) (by omega)⟩
  · exact ⟨_, _, rfl, numeral_padded _ _, hpadded (by decide) h⟩

/-- The first digits of a fraction of a second. -/
theorem exists_fractionStart {digits : Nat} (h : 0 < digits ∧ digits ≤ 9) (time : TimeOfDay) :
  (fractionStart digits time).length = digits ∧ ∃ n, Numeral (fractionStart digits time) n
  := by
  have hnine : (Timestamp.padded 9 (time.nanosecond % nanosPerSecond)).length = 9 := by
    apply length_padded (by decide)
    apply Nat.mod_lt _ (by decide)
  have hlength : (fractionStart digits time).length = digits := by
    rw [fractionStart, List.length_take, hnine]
    omega
  have hne : fractionStart digits time ≠ [] := by
    rw [← List.length_pos_iff]
    omega
  have hdigits : ∀ c ∈ fractionStart digits time, c.isDigit = true := by
    intro c hc
    apply (numeral_padded 9 _).isDigit c (List.mem_of_mem_take hc)
  obtain ⟨n, hn, -⟩ := Numeral.of_isDigit hne hdigits
  exact ⟨hlength, n, hn⟩

/-- The text of items is that of the first before that of the others. -/
theorem exists_of_renderItems? {t : Timestamp} {item : Item} {items : List Item} {text : List Char}
    (h : renderItems? t (item :: items) = some text) :
  ∃ start more, item.render? t = some start ∧ renderItems? t items = some more ∧
    text = start ++ more
  := by
  simp only [renderItems?, Option.bind_eq_bind, Option.bind_eq_some_iff] at h
  obtain ⟨start, hstart, more, hmore, htext⟩ := h
  exact ⟨start, more, hstart, hmore, (Option.some.inj htext).symm⟩

section Span

variable {first last : Int} {t : Timestamp}

/-- A number can be read in the years that are allowed. -/
theorem NumberPart.readable {part : NumberPart} (h : part.inSpan first last = true)
    (hfirst : first ≤ t.date.year) (hlast : t.date.year ≤ last) :
  part.Readable t
  := by
  have hmonth := t.date.month_day
  obtain ⟨hhour, hminute, hsecond, -⟩ := t.time.isTime
  cases part with
  | year | weekYear => trivial
  | century =>
      simp only [inSpan, Bool.and_eq_true, decide_eq_true_eq] at h
      simp only [Readable, InPlaces, value, places, centuryByte]
      omega
  | unixSeconds =>
      have hpositive := t.date.ordinal_range
      simp only [inSpan, decide_eq_true_eq] at h
      simp only [Readable, Timestamp.unixSeconds, Timestamp.epochDay, Date.number, daysBeforeYear]
      omega
  | yearOfCentury | weekYearOfCentury | month | hour | minute | dayFromSunday =>
      simp only [Readable, InPlaces, value, places]
      omega
  | quarter =>
      simp only [Readable, InPlaces, value, places, Date.quarter]
      omega
  | day =>
      have := t.date.day_le
      simp only [Readable, InPlaces, value, places]
      omega
  | weekFromSunday | weekFromMonday =>
      have := t.date.weekFrom_le 6
      have := t.date.weekFrom_le 0
      simp only [Readable, InPlaces, value, places]
      omega
  | isoWeek =>
      have := t.date.isoWeek_week_range
      simp only [Readable, InPlaces, value, places]
      omega
  | dayFromMonday =>
      have := t.date.weekday_lt
      simp only [Readable, InPlaces, value, places]
      omega
  | dayOfYear =>
      have := t.date.ordinal_le
      simp only [Readable, InPlaces, value, places]
      omega
  | hour12 =>
      simp only [Readable, InPlaces, value, places, halfDayHour]
      split <;> omega
  | second =>
      have := t.time.shownSecond_cases
      simp only [Readable, InPlaces, value, places]
      omega
  | nanosecond =>
      simp only [Readable, InPlaces, value, places, nanosPerSecond]
      omega

/-- A number has all the places that are read. -/
theorem NumberPart.inPlaces_of_filled {part : NumberPart} {pad : Pad}
    (h : part.filled first last pad = true) (hreadable : part.Readable t)
    (hfirst : first ≤ t.date.year) (hlast : t.date.year ≤ last) :
  part.InPlaces t ∧ part ≠ .unixSeconds ∧ (pad = .zeros ∨ part.places = 1)
  := by
  have hnear := t.date.isoWeek_year_near
  cases part with
  | unixSeconds => cases h
  | year | weekYear =>
      simp only [filled, Bool.and_eq_true, decide_eq_true_eq] at h
      refine ⟨?_, by decide, .inl h.1.1⟩
      simp only [InPlaces, value, places]
      omega
  | _ =>
      simp only [filled, Bool.or_eq_true, decide_eq_true_eq] at h
      exact ⟨hreadable, by decide, h⟩

/-- No digit is at the beginning of the text of items that begin with none. -/
theorem apart_of_noDigit {items : List Item} (h : noDigit items = true)
    (hseparate : separate first last items = true) {text : List Char}
    (htext : renderItems? t items = some text) :
  Apart text
  := by
  induction items generalizing text with
  | nil =>
      cases htext
      intro c hc
      cases hc
  | cons item items ih =>
      obtain ⟨hitem, hitems⟩ := separate_cons.mp hseparate
      obtain ⟨start, more, hstart, hmore, rfl⟩ := exists_of_renderItems? htext
      cases item with
      | literal c =>
          cases hstart
          rintro _ ⟨⟩
          simpa [noDigit] using h
      | blank c =>
          cases hstart
          rintro _ ⟨⟩
          by_contra hdigit
          have hblank := isBlank_of_isDigit (by simpa using hdigit)
          rw [Item.separate, hblank] at hitem
          cases hitem
      | number => cases h
      | fixed part =>
          by_cases hnamed : part.named = true
          · obtain ⟨c, rest, rfl, -, hdigit, -⟩ := (part.letters_of_named hnamed hstart).exists_cons
            rintro _ ⟨⟩
            exact hdigit
          · cases part with
            | fraction =>
                cases hstart
                obtain hnone | ⟨ds, n, hds, -⟩ :=
                  fractionText_cases (Nat.mod_lt t.time.nanosecond (by decide))
                · rw [hnone]
                  apply ih h hitems hmore
                · rw [hds]
                  rintro _ ⟨⟩
                  decide
            | fractionDigits digits =>
                cases hstart
                rintro _ ⟨⟩
                decide
            | bareDigits => cases h
            | zoneName | zoneOffset | looseOffset | standard => cases hstart
            | _ => exact absurd rfl hnamed

/-- No point is at the beginning of the text of items that begin with none. -/
theorem head?_ne_of_noPoint {items : List Item} (h : noPoint items = true)
    (hseparate : separate first last items = true) (hfirst : first ≤ t.date.year)
    (hlast : t.date.year ≤ last) {text : List Char} (htext : renderItems? t items = some text) :
  (trimStart text).head? ≠ some '.'
  := by
  induction items generalizing text with
  | nil =>
      cases htext
      decide
  | cons item items ih =>
      obtain ⟨hitem, hitems⟩ := separate_cons.mp hseparate
      obtain ⟨start, more, hstart, hmore, rfl⟩ := exists_of_renderItems? htext
      cases item with
      | literal c =>
          cases hstart
          rw [List.singleton_append, trimStart_cons (by simpa [Item.separate] using hitem)]
          simpa [noPoint] using h
      | blank c =>
          cases hstart
          rw [List.singleton_append, trimStart_cons_of_isBlank hitem]
          apply ih h hitems hmore
      | number part pad =>
          cases hstart
          have hspan : part.inSpan first last = true := by
            simp only [Item.separate, Bool.and_eq_true] at hitem
            exact hitem.1
          obtain ⟨c, s, hc, hpoint⟩ :=
            NumberPart.exists_start (NumberPart.readable hspan hfirst hlast) pad more
          rw [hc]
          simpa using hpoint
      | fixed part =>
          by_cases hnamed : part.named = true
          · obtain ⟨c, rest, rfl, hblank, -, hpoint⟩ :=
              (part.letters_of_named hnamed hstart).exists_cons
            rw [List.cons_append, trimStart_cons hblank]
            simpa using hpoint
          · cases part with
            | fraction | fractionDigits => cases h
            | bareDigits digits =>
                cases hstart
                obtain ⟨-, n, hn⟩ :=
                  exists_fractionStart (by simpa [Item.separate] using hitem) t.time
                obtain ⟨c, rest, hcons, hc⟩ := hn.exists_cons
                rw [hn.trimStart_append, hcons]
                rintro ⟨⟩
                exact absurd hc (by decide)
            | zoneName | zoneOffset | looseOffset | standard => cases hstart
            | _ => exact absurd rfl hnamed

/-! ### Reading one item -/

/-- How far a text has been read: what is left is a text, perhaps without the blanks before it, and
the fields that have been told are those of a timestamp. -/
structure Stage (t : Timestamp) (told : List Field) (text : List Char) (reading : Reading) :
    Prop where
  rest : reading.rest = text ∨ reading.rest = trimStart text
  fields : Told t told reading.fields

variable {told : List Field} {reading : Reading} {start more : List Char}

/-- Blanks before what is left do not matter. -/
theorem Stage.trimStart_eq (h : Stage t told start reading) :
  trimStart reading.rest = trimStart start
  := by
  obtain hrest | hrest := h.rest <;> simp [hrest]

/-- What does not begin with a blank is left as it is. -/
theorem Stage.rest_eq {c : Char} (h : Stage t told (c :: start) reading)
    (hc : isBlank c = false) :
  reading.rest = c :: start
  := by
  obtain hrest | hrest := h.rest
  · exact hrest
  · rw [hrest, trimStart_cons hc]

/-- The number of a part is stored. -/
theorem Told.exists_store? {fields : Fields} (h : Told t told fields) {part : NumberPart}
    (hcentury : part = .century → 0 ≤ t.date.year ∧ t.date.year ≤ 9999)
    (honce : part = .nanosecond → .nanosecond ∉ told) (pad : Pad) :
  ∃ fields', Reading.store? part (part.value t) fields = some fields' ∧
    Told t ((Item.number part pad).told ++ told) fields'
  := by
  have hweekday := t.date.weekday_lt
  have hset (field : Field) (hnano : field ≠ .nanosecond) (hplain : field ≠ .century) :
      ∃ fields', fields.set? field (field.valueAt t) = some fields' ∧
        Told t (field :: told) fields' := by
    apply h.set? field hnano (field.valueAt_range t fun hfield => absurd hfield hplain)
  cases part with
  | century =>
      obtain ⟨hfirst, hlast⟩ := hcentury rfl
      have hvalue : NumberPart.century.value t = Field.century.valueAt t := by
        simp only [NumberPart.value, Field.valueAt, centuryByte]
        omega
      rw [hvalue]
      apply h.set? .century (by decide) (Field.century.valueAt_range t fun _ => ⟨hfirst, hlast⟩)
  | dayFromSunday =>
      have hvalue : (((t.date.weekday + 1) % 7 : Nat) + 6 : Int) % 7 = t.date.weekday := by omega
      have hrange : (((t.date.weekday + 1) % 7 : Nat) : Int) ≤ 6 := by omega
      rw [Reading.store?, NumberPart.value, if_pos hrange, hvalue]
      apply hset .weekday (by decide) (by decide)
  | dayFromMonday =>
      have hvalue : ((t.date.weekday + 1 : Nat) : Int) - 1 = t.date.weekday := by omega
      rw [Reading.store?, NumberPart.value, hvalue]
      apply hset .weekday (by decide) (by decide)
  | hour =>
      obtain ⟨f₁, hset₁, h₁⟩ := hset .half (by decide) (by decide)
      have hrange := Field.hourOfHalf.valueAt_range t fun hfield => absurd hfield (by decide)
      obtain ⟨f₂, hset₂, h₂⟩ := h₁.set? .hourOfHalf (by decide) hrange
      refine ⟨f₂, ?_, h₂.congr (by simp [Item.told, or_left_comm])⟩
      have hhalf : Field.half.valueAt t = (t.time.hour : Int) / 12 := Int.natCast_ediv _ _
      have hofHalf : Field.hourOfHalf.valueAt t = (t.time.hour : Int) % 12 := Int.natCast_emod _ _
      rw [hhalf] at hset₁
      rw [hofHalf] at hset₂
      simp only [Reading.store?, NumberPart.value, hset₁, Option.bind_eq_bind, Option.bind_some,
        hset₂]
  | hour12 =>
      have hvalue : (halfDayHour t.time.hour : Int) % 12 = (t.time.hour % 12 : Nat) := by
        unfold halfDayHour
        split <;> omega
      have hrange : 1 ≤ (halfDayHour t.time.hour : Int) ∧ (halfDayHour t.time.hour : Int) ≤ 12 := by
        unfold halfDayHour
        split <;> omega
      rw [Reading.store?, NumberPart.value, if_pos hrange, hvalue]
      apply hset .hourOfHalf (by decide) (by decide)
  | nanosecond =>
      apply h.set?_nanosecond (h.get?_of_not_mem (honce rfl))
      simp only [NumberPart.value, nanosPerSecond]
      omega
  | _ => exact hset _ (by decide) (by decide)

/-- A number is read and stored. -/
theorem Stage.number {part : NumberPart} {pad : Pad}
    (h : Stage t told (part.render pad t ++ more) reading) (hreadable : part.Readable t)
    (hmore : (part.InPlaces t ∧ part ≠ .unixSeconds ∧ (pad = .zeros ∨ part.places = 1)) ∨
      Apart more)
    (hcentury : part = .century → 0 ≤ t.date.year ∧ t.date.year ≤ 9999)
    (honce : part = .nanosecond → .nanosecond ∉ told) :
  ∃ reading', reading.item? (.number part pad) = some reading' ∧
    Stage t ((Item.number part pad).told ++ told) more reading'
  := by
  have hread := Reading.number_append hreadable pad h.trimStart_eq hmore
  obtain ⟨fields', hstore, htold⟩ := h.fields.exists_store? hcentury honce pad
  refine ⟨⟨more, fields'⟩, ?_, .inl rfl, htold⟩
  cases hsign : (Reading.shape part).2.2 <;>
    · simp only [hsign, if_true, Bool.false_eq_true, if_false] at hread
      simp [Reading.item?, Reading.simple?, hsign, hread, hstore]

/-- A number of a field is put into it. -/
theorem Stage.put {field : Field} (h : Told t told reading.fields) (hnano : field ≠ .nanosecond)
    (hcentury : field ≠ .century) {read : Option (Int × List Char)}
    (hread : read = some (field.valueAt t, more)) :
  ∃ reading', reading.put? field read = some reading' ∧ Stage t (field :: told) more reading'
  := by
  obtain ⟨fields', hset, htold⟩ :=
    h.set? field hnano (field.valueAt_range t fun hfield => absurd hfield hcentury)
  refine ⟨⟨more, fields'⟩, ?_, .inl rfl, htold⟩
  simp only [Reading.put?, hread, Option.bind_eq_bind, Option.bind_some, hset, Option.pure_def]

/-- A fraction of the second is put into its field. -/
theorem Stage.putFraction (h : Told t told reading.fields) (honce : .nanosecond ∉ told)
    {ds : List Char} {n : Nat} (hds : Numeral ds n) (hlength : ds.length ≤ 9)
    {read : Option (Int × List Char)}
    (hread : read = some (((n * 10 ^ (9 - ds.length) : Nat) : Int), more)) :
  ∃ reading', reading.put? .nanosecond read = some reading' ∧
    Stage t (.nanosecond :: told) more reading'
  := by
  obtain ⟨fields', hset, htold⟩ :=
    h.set?_nanosecond (h.get?_of_not_mem honce) (Reading.fraction_range hds hlength)
  refine ⟨⟨more, fields'⟩, ?_, .inl rfl, htold⟩
  simp only [Reading.put?, hread, Option.bind_eq_bind, Option.bind_some, hset, Option.pure_def]

/-- A name is read. -/
theorem Stage.named {part : FixedPart} (hnamed : part.named = true)
    (htext : part.render? t = some start) (h : Stage t told (start ++ more) reading) :
  ∃ reading', reading.item? (.fixed part) = some reading' ∧
    Stage t ((Item.fixed part).told ++ told) more reading'
  := by
  have hrest : reading.rest = start ++ more := by
    obtain ⟨c, rest, rfl, hblank, -⟩ := (part.letters_of_named hnamed htext).exists_cons
    apply h.rest_eq hblank
  have hmonth : 1 ≤ t.date.month ∧ t.date.month ≤ 12 := ⟨t.date.month_day.1, t.date.month_day.2.1⟩
  obtain ⟨hmonthLength, hmonthFind⟩ := Reading.exists_month hmonth
  obtain ⟨hweekdayLength, hweekdayFind⟩ := Reading.exists_weekday t.date.weekday_lt
  cases part with
  | shortMonth =>
      cases htext
      apply Stage.put h.fields (by decide) (by decide)
      rw [hrest, Reading.shortName?_append hmonthLength hmonthFind]
      simp only [Option.map_some, Field.valueAt]
      congr 2
      omega
  | longMonth =>
      cases htext
      apply Stage.put h.fields (by decide) (by decide)
      rw [hrest, ← List.take_append_drop 3 (monthNames.getD (t.date.month - 1) "").toList,
        Reading.longName?_append hmonthLength hmonthFind]
      simp only [Option.map_some, Field.valueAt]
      congr 2
      omega
  | shortWeekday =>
      cases htext
      apply Stage.put h.fields (by decide) (by decide)
      rw [hrest, Reading.shortName?_append hweekdayLength hweekdayFind]
      rfl
  | longWeekday =>
      cases htext
      apply Stage.put h.fields (by decide) (by decide)
      rw [hrest, ← List.take_append_drop 3 (weekdayNames.getD t.date.weekday "").toList,
        Reading.longName?_append hweekdayLength hweekdayFind]
      rfl
  | lowerHalf | upperHalf =>
      cases htext
      obtain ⟨hhour, -⟩ := t.time.isTime
      have hput (half : Int) (hhalf : half = Field.half.valueAt t) :
          ∃ reading', reading.put? .half (some (half, more)) = some reading' ∧
            Stage t (.half :: told) more reading' := by
        apply Stage.put h.fields (by decide) (by decide)
        rw [hhalf]
      by_cases hmorning : t.time.hour < 12
      · rw [if_pos hmorning] at hrest
        simp only [Reading.item?, Reading.simple?, hrest]
        apply hput 0
        simp only [Field.valueAt]
        omega
      · rw [if_neg hmorning] at hrest
        simp only [Reading.item?, Reading.simple?, hrest]
        apply hput 1
        simp only [Field.valueAt]
        omega
  | _ => cases hnamed

/-- Whether a fraction is told makes no difference to what else is told. -/
theorem Told.cons_nanosecond {fields : Fields} (h : Told t told fields) :
  Told t (.nanosecond :: told) fields
  := by
  refine ⟨fun field hfield => ?_, fun n hn => ?_⟩
  · rw [h.get?_eq field hfield]
    simp [hfield]
  · obtain ⟨hmem, hrange⟩ := h.nanosecond n hn
    exact ⟨List.mem_cons_of_mem _ hmem, hrange⟩

/-- A fraction behind a point is read, or its absence is noticed. -/
theorem Stage.fraction
    (h : Stage t told
      (Timestamp.fractionText (t.time.nanosecond % nanosPerSecond) ++ more) reading)
    (hdigit : Apart more) (hpoint : (trimStart more).head? ≠ some '.')
    (honce : .nanosecond ∉ told) :
  ∃ reading', reading.item? (.fixed .fraction) = some reading' ∧
    Stage t (.nanosecond :: told) more reading'
  := by
  obtain hnone | ⟨ds, n, hds, hnumeral, hlength⟩ :=
    fractionText_cases (Nat.mod_lt t.time.nanosecond (show 0 < nanosPerSecond by decide))
  · rw [hnone, List.nil_append] at h
    refine ⟨reading, ?_, h.rest, h.fields.cons_nanosecond⟩
    rw [← h.trimStart_eq] at hpoint
    cases hrest : reading.rest with
    | nil => simp [Reading.item?, Reading.simple?, hrest]
    | cons c rest =>
        have hc : c ≠ '.' := by
          rintro rfl
          apply hpoint
          rw [hrest, trimStart_cons (by decide), List.head?_cons]
        simp [Reading.item?, Reading.simple?, hrest, hc]
  · rw [hds, List.cons_append] at h
    have hrest := h.rest_eq (by decide)
    simp only [Reading.item?, Reading.simple?, hrest]
    apply Stage.putFraction h.fields honce hnumeral hlength
    apply Reading.fraction?_append hnumeral hlength hdigit

/-- A fraction of so many digits is read. -/
theorem Stage.fixedFraction {digits : Nat} (hdigits : 0 < digits ∧ digits ≤ 9)
    (h : Told t told reading.fields) (honce : .nanosecond ∉ told) :
  ∃ reading', reading.put? .nanosecond
      (Reading.fixedFraction? digits (fractionStart digits t.time ++ more)) = some reading' ∧
    Stage t (.nanosecond :: told) more reading'
  := by
  obtain ⟨hlength, n, hn⟩ := exists_fractionStart hdigits t.time
  have hread := @Reading.fixedFraction?_append _ more _ hn
  rw [hlength] at hread
  apply Stage.putFraction h honce hn (by omega)
  rw [hread, hlength]

/-- An item that is told apart from those behind it is read. -/
theorem Stage.item {item : Item} {items : List Item} (hstart : item.render? t = some start)
    (hmore : renderItems? t items = some more) (hitem : item.separate first last items = true)
    (hitems : separate first last items = true) (hfirst : first ≤ t.date.year)
    (hlast : t.date.year ≤ last) (honce : .nanosecond ∈ item.told → .nanosecond ∉ told)
    (h : Stage t told (start ++ more) reading) :
  ∃ reading', reading.item? item = some reading' ∧ Stage t (item.told ++ told) more reading'
  := by
  cases item with
  | literal c =>
      cases hstart
      have hrest : reading.rest = c :: more := h.rest_eq (by simpa [Item.separate] using hitem)
      refine ⟨⟨more, reading.fields⟩, ?_, .inl rfl, h.fields⟩
      simp [Reading.item?, Reading.simple?, hrest]
  | blank c =>
      cases hstart
      refine ⟨⟨trimStart reading.rest, reading.fields⟩, rfl, ?_, h.fields⟩
      right
      rw [h.trimStart_eq, List.singleton_append, trimStart_cons_of_isBlank hitem]
  | number part pad =>
      cases hstart
      simp only [Item.separate, Bool.and_eq_true, Bool.or_eq_true] at hitem
      obtain ⟨hspan, hapart⟩ := hitem
      have hreadable := NumberPart.readable hspan hfirst hlast
      apply h.number hreadable
      · apply hapart.imp
        · intro hfilled
          apply NumberPart.inPlaces_of_filled hfilled hreadable hfirst hlast
        · intro hdigit
          apply apart_of_noDigit hdigit hitems hmore
      · rintro rfl
        simp only [NumberPart.inSpan, Bool.and_eq_true, decide_eq_true_eq] at hspan
        omega
      · rintro rfl
        apply honce List.mem_cons_self
  | fixed part =>
      by_cases hnamed : part.named = true
      · apply Stage.named hnamed hstart h
      cases part with
      | fraction =>
          cases hstart
          simp only [Item.separate, Bool.and_eq_true] at hitem
          apply h.fraction (apart_of_noDigit hitem.1 hitems hmore)
            (head?_ne_of_noPoint hitem.2 hitems hfirst hlast hmore) (honce List.mem_cons_self)
      | fractionDigits digits =>
          cases hstart
          have hrest := h.rest_eq (by decide)
          simp only [Reading.item?, Reading.simple?, hrest]
          apply Stage.fixedFraction (by simpa [Item.separate] using hitem) h.fields
            (honce List.mem_cons_self)
      | bareDigits digits =>
          cases hstart
          have hdigits : 0 < digits ∧ digits ≤ 9 := by simpa [Item.separate] using hitem
          obtain ⟨-, n, hn⟩ := exists_fractionStart hdigits t.time
          have hrest : reading.rest = fractionStart digits t.time ++ more := by
            obtain hrest | hrest := h.rest
            · exact hrest
            · rw [hrest, hn.trimStart_append]
          simp only [Reading.item?, Reading.simple?, hrest]
          apply Stage.fixedFraction hdigits h.fields (honce List.mem_cons_self)
      | zoneName | zoneOffset | looseOffset | standard => cases hitem
      | _ => exact absurd rfl hnamed

/-! ### Reading all items -/

/-- Items that are told apart are read one after another. -/
theorem Stage.items {items : List Item} {text : List Char}
    (htext : renderItems? t items = some text)
    (hseparate : separate first last items = true) (hfirst : first ≤ t.date.year)
    (hlast : t.date.year ≤ last) (honce : (toldBy items ++ told).count .nanosecond ≤ 1)
    (h : Stage t told text reading) :
  ∃ reading', reading.items? items = some reading' ∧ reading'.rest = [] ∧
    Told t (toldBy items ++ told) reading'.fields
  := by
  induction items generalizing told text reading with
  | nil =>
      cases htext
      refine ⟨reading, rfl, ?_, h.fields⟩
      obtain hrest | hrest := h.rest
      · exact hrest
      · exact hrest
  | cons item items ih =>
      obtain ⟨hitem, hitems⟩ := separate_cons.mp hseparate
      obtain ⟨start, more, hstart, hmore, rfl⟩ := exists_of_renderItems? htext
      have hcount : (toldBy (item :: items) ++ told).count .nanosecond =
          (toldBy items ++ (item.told ++ told)).count .nanosecond := by
        simp only [toldBy, List.flatMap_cons, List.count_append]
        omega
      have hfree : .nanosecond ∈ item.told → .nanosecond ∉ told := by
        intro hmem hmem'
        have := List.count_pos_iff.mpr hmem
        have := List.count_pos_iff.mpr hmem'
        simp only [toldBy, List.flatMap_cons, List.count_append] at honce
        omega
      obtain ⟨next, hnext, hstage⟩ := h.item hstart hmore hitem hitems hfirst hlast hfree
      obtain ⟨reading', hread, hrest, htold⟩ := ih hmore hitems (hcount ▸ honce) hstage
      refine ⟨reading', ?_, hrest, htold.congr fun field => ?_⟩
      · rw [Reading.items?, hnext]
        exact hread
      · simp only [toldBy, List.flatMap_cons, List.mem_append]
        tauto

/-- Items that are told apart have a text. -/
theorem exists_renderItems?_eq {items : List Item} (h : separate first last items = true)
    (t : Timestamp) :
  ∃ text, renderItems? t items = some text
  := by
  induction items with
  | nil => exact ⟨[], rfl⟩
  | cons item items ih =>
      obtain ⟨hitem, hitems⟩ := separate_cons.mp h
      obtain ⟨more, hmore⟩ := ih hitems
      obtain ⟨start, hstart⟩ : ∃ start, item.render? t = some start := by
        cases item with
        | fixed part =>
            cases part with
            | zoneName | zoneOffset | looseOffset | standard => cases hitem
            | _ => exact ⟨_, rfl⟩
        | _ => exact ⟨_, rfl⟩
      exact ⟨start ++ more, by simp [renderItems?, hstart, hmore]⟩

end Span

end EntityStore.Calendar
