import EntityStore.Calendar.Stored
import EntityStore.Proofs.Calendar.Separate

/-!
# Legible formats

A format is legible if its items are told apart and tell enough to determine a timestamp.  What
a timestamp is written as in a legible format is read back as a timestamp of the same date.
A format that can be written need not be legible.
-/

namespace EntityStore.Calendar

open Text

/-- Fields determine a timestamp of the years from `first` to `last`: there is no doubt about the
year, and either the seconds since 1970 are told or both a date and a time. -/
structure Determined (first last : Int) (told : List Field) : Prop where
  century : .century ∈ told ∨ .yearOfCentury ∈ told → 0 ≤ first
  ofCentury : .yearOfCentury ∈ told → .year ∈ told ∨ .century ∈ told ∨
    (1970 ≤ first ∧ last ≤ 2069)
  weekYear : .weekYearOfCentury ∈ told → .weekYear ∈ told ∧ 1 ≤ first
  second : .unixSeconds ∈ told → .minute ∈ told → .second ∈ told
  enough : .unixSeconds ∈ told ∨ (DateTold told ∧ TimeTold told)

/-- The items of the international form of a date. -/
def dateItems : List Item :=
  [.number .year .zeros, .literal '-', .number .month .zeros, .literal '-', .number .day .zeros]

/-- Items are legible if they are told apart, tell one fraction of the second at most, and determine
a timestamp. -/
structure LegibleItems (first last : Int) (items : List Item) : Prop where
  separate : separate first last items = true
  once : (toldBy items).count .nanosecond ≤ 1
  determined : Determined first last (toldBy items)

/-- A format is legible for the years from `first` to `last` if its items are, or it is the
international form of a date. -/
def Legible (first last : Int) (format : String) : Prop :=
  ∃ items ∈ items? format, items = dateItems ∨ LegibleItems first last items

instance (first last : Int) (told : List Field) : Decidable (Determined first last told) :=
  decidable_of_iff (_ ∧ _ ∧ _ ∧ _ ∧ _)
    ⟨fun ⟨h₁, h₂, h₃, h₄, h₅⟩ => ⟨h₁, h₂, h₃, h₄, h₅⟩,
      fun ⟨h₁, h₂, h₃, h₄, h₅⟩ => ⟨h₁, h₂, h₃, h₄, h₅⟩⟩

instance (first last : Int) (items : List Item) : Decidable (LegibleItems first last items) :=
  decidable_of_iff (_ ∧ _ ∧ _) ⟨fun ⟨h₁, h₂, h₃⟩ => ⟨h₁, h₂, h₃⟩, fun ⟨h₁, h₂, h₃⟩ => ⟨h₁, h₂, h₃⟩⟩

instance (first last : Int) (format : String) : Decidable (Legible first last format) :=
  inferInstanceAs (Decidable (∃ items ∈ items? format, _))

variable {first last : Int} {t : Timestamp} {format : String} {items : List Item}

/-! ### Reading a text by its format -/

/-- What is determined for some years is clear in each of them. -/
theorem Determined.clear {told : List Field} (h : Determined first last told)
    (hfirst : first ≤ t.date.year) (hlast : t.date.year ≤ last) :
  Clear t told
  := by
  refine ⟨fun hmem => ?_, fun hmem => ?_, fun hmem => ?_⟩
  · have := h.century hmem
    omega
  · apply (h.ofCentury hmem).imp_right (Or.imp_right _)
    omega
  · obtain ⟨hweek, hpositive⟩ := h.weekYear hmem
    have := t.date.isoWeek_year_near
    exact ⟨hweek, by omega⟩

/-- A timestamp has a text in a format whose items are told apart, and the fields that are read
from it are those of the timestamp. -/
theorem exists_fields?_eq (hformat : items? format = some items)
    (hseparate : separate first last items = true)
    (honce : (toldBy items).count .nanosecond ≤ 1) (hfirst : first ≤ t.date.year)
    (hlast : t.date.year ≤ last) :
  ∃ text reading, write t format = .ok text ∧
    Reading.items? ⟨text.toList, []⟩ items = some reading ∧ reading.rest = [] ∧
    Told t (toldBy items) reading.fields
  := by
  obtain ⟨text, htext⟩ := exists_renderItems?_eq hseparate t
  have hstage : Stage t [] text ⟨text, []⟩ := ⟨.inl rfl, .nil⟩
  obtain ⟨reading, hread, hrest, htold⟩ :=
    hstage.items htext hseparate hfirst hlast (by simpa using honce)
  rw [List.append_nil] at htold
  refine ⟨String.ofList text, reading, ?_, by simpa using hread, hrest, htold⟩
  simp [write, Timestamp.render?, hformat, htext]

/-- The timestamp of the fields that are read from a whole text. -/
theorem read?_eq {text : String} (hformat : items? format = some items) {reading : Reading}
    (hread : Reading.items? ⟨text.toList, []⟩ items = some reading) (hrest : reading.rest = []) :
  Timestamp.read? format text = reading.fields.timestamp?
  := by simp [Timestamp.read?, fields?, hformat, hread, hrest]

/-- A timestamp that is read by the format itself is the stored one. -/
theorem readStored?_of_read? {text : String} (h : Timestamp.read? format text = some t) :
  readStored? text format = some t
  := by simp [readStored?, List.findSome?, h]

/-- What is written in legible items is read as a timestamp of the same date. -/
theorem LegibleItems.exists_readStored?_eq (h : LegibleItems first last items)
    (hformat : items? format = some items) (hfirst : first ≤ t.date.year)
    (hlast : t.date.year ≤ last) :
  ∃ text, write t format = .ok text ∧ ∃ t', readStored? text format = some t' ∧ t'.date = t.date
  := by
  obtain ⟨text, reading, hwrite, hread, hrest, htold⟩ :=
    exists_fields?_eq hformat h.separate h.once hfirst hlast
  have hclear := h.determined.clear hfirst hlast
  obtain ⟨t', ht', hdate⟩ : ∃ t', reading.fields.timestamp? = some t' ∧ t'.date = t.date := by
    by_cases hseconds : Field.unixSeconds ∈ toldBy items
    · apply htold.exists_timestamp?_of_unixSeconds hclear hseconds (h.determined.second hseconds)
    · obtain ⟨hdate, htime⟩ := h.determined.enough.resolve_left hseconds
      obtain ⟨time, htimestamp, -⟩ := htold.exists_timestamp?_eq hclear hdate htime fun hmem =>
        absurd hmem hseconds
      exact ⟨_, htimestamp, rfl⟩
  refine ⟨text, hwrite, t', ?_, hdate⟩
  apply readStored?_of_read?
  rw [read?_eq hformat hread hrest, ht']

/-- What is written in legible items with the date and the time to the second is read as the same
timestamp, if it has no fraction. -/
theorem LegibleItems.exists_readStored?_self (h : LegibleItems first last items)
    (hformat : items? format = some items) (hdate : DateTold (toldBy items))
    (htime : TimeTold (toldBy items)) (hsecond : .second ∈ toldBy items)
    (hnone : .nanosecond ∉ toldBy items) (hfirst : first ≤ t.date.year)
    (hlast : t.date.year ≤ last) (hwhole : t.time.nanosecond % nanosPerSecond = 0) :
  ∃ text, write t format = .ok text ∧ readStored? text format = some t
  := by
  obtain ⟨text, reading, hwrite, hread, hrest, htold⟩ :=
    exists_fields?_eq hformat h.separate h.once hfirst hlast
  have hclear := h.determined.clear hfirst hlast
  obtain ⟨time, htimestamp, hnear⟩ :=
    htold.exists_timestamp?_eq hclear hdate htime fun _ => hsecond
  have hsame : time = t.time := by
    have hnano : time.nanosecond = t.time.nanosecond := by
      rw [hnear.nanosecond hsecond hnone, Nat.div_mul_cancel (Nat.dvd_of_mod_eq_zero hwhole)]
    obtain ⟨hour, minute, second, nanosecond, hisTime⟩ := time
    obtain ⟨date, ⟨hour', minute', second', nanosecond', hisTime'⟩⟩ := t
    obtain ⟨rfl, rfl, hsec, -⟩ := hnear
    obtain rfl := hsec hsecond
    obtain rfl : nanosecond = nanosecond' := hnano
    rfl
  refine ⟨text, hwrite, ?_⟩
  apply readStored?_of_read?
  rw [read?_eq hformat hread hrest, htimestamp, hsame]

/-! ### Dates without a time -/

/-- Items are read behind others. -/
theorem items?_append (reading : Reading) (items items' : List Item) :
  reading.items? (items ++ items') = (reading.items? items).bind fun next => next.items? items'
  := by
  induction items generalizing reading with
  | nil => rfl
  | cons item items ih =>
      rw [List.cons_append, Reading.items?, Reading.items?]
      cases reading.item? item with
      | none => rfl
      | some next => apply ih

/-- The international forms of a timestamp go on behind the date. -/
theorem exists_items?_of_fallback {format : String} (h : format ∈ fallbackFormats) :
  ∃ more, items? format = some (dateItems ++ more) ∧
    ∀ fields, Reading.items? ⟨[], fields⟩ more = none
  := by
  have hclock : ∀ f ∈ fallbackFormats,
      items? f = some (dateItems ++ .blank ' ' :: Item.clock ++ [.fixed .fraction]) ∨
      items? f = some (dateItems ++ .literal 'T' :: Item.clock ++ [.fixed .fraction]) ∨
      items? f = some
        (dateItems ++ .literal 'T' :: Item.clock ++ [.fixed .fraction, .literal 'Z']) := by
    decide +kernel
  obtain hitems | hitems | hitems := hclock format h <;>
    · rw [List.append_assoc] at hitems
      exact ⟨_, hitems, fun fields => rfl⟩

/-- A timestamp has a text in the international form of a date, and is read as the beginning of
its day. -/
theorem exists_readStored?_of_dateItems (hformat : items? format = some dateItems) (t : Timestamp) :
  ∃ text, write t format = .ok text ∧ readStored? text format = some ⟨t.date, .midnight⟩
  := by
  have hsame : items? format = items? dateFormat := by
    rw [hformat]
    decide +kernel
  obtain ⟨hfirst, hlast, -, -⟩ := t.date.isDate
  obtain ⟨text, reading, hwrite, hread, hrest, htold⟩ :=
    @exists_fields?_eq minYear maxYear t format dateItems hformat (by decide) (by decide) hfirst
      hlast
  have hclear : Clear t (toldBy dateItems) := by
    refine ⟨fun hmem => ?_, fun hmem => ?_, fun hmem => ?_⟩ <;> exact absurd hmem (by decide)
  have hdate : reading.fields.date = .ok t.date := by
    rw [htold.date_eq hclear, if_pos (by decide)]
  have htimestamp : reading.fields.timestamp? = none := by
    obtain ⟨htime, -⟩ | ⟨time, -, -, hminute⟩ := htold.time_cases
    · have hseconds : reading.fields.get? .unixSeconds = none := htold.get?_of_not_mem (by decide)
      simp [Fields.timestamp?, hdate, htime, hseconds]
    · exact absurd hminute (by decide)
  refine ⟨text, hwrite, ?_⟩
  have hown : Timestamp.read? format text = none := by
    rw [read?_eq hformat hread hrest, htimestamp]
  have hfallback : ∀ f ∈ fallbackFormats, Timestamp.read? f text = none := by
    intro f hf
    obtain ⟨more, hitems, hmore⟩ := exists_items?_of_fallback hf
    obtain ⟨rest, fields⟩ := reading
    obtain rfl : rest = [] := hrest
    simp [Timestamp.read?, fields?, hitems, items?_append, hread, hmore]
  have hday : Date.read? dateFormat text = some t.date := by
    simp [Date.read?, fields?, ← hsame, hformat, hread, hrest, hdate, Except.toOption]
  have hnone : (format :: fallbackFormats).findSome? (fun f => Timestamp.read? f text) = none := by
    rw [List.findSome?_eq_none_iff]
    intro f hf
    obtain rfl | hf := List.mem_cons.mp hf
    · exact hown
    · exact hfallback f hf
  rw [readStored?, hnone, hday]
  rfl

/-! ### Legible formats -/

/-- A format whose items are told apart is accepted. -/
theorem check_eq_ok (hformat : items? format = some items)
    (hseparate : separate first last items = true) :
  check format = .ok ()
  := by
  obtain ⟨text, htext⟩ := exists_renderItems?_eq hseparate sample
  have hwrite : write sample format = .ok (String.ofList text) := by
    simp [write, Timestamp.render?, hformat, htext]
  rw [check, hwrite]
  rfl

/-- A legible format is accepted.  In it every timestamp of its years has a text, and the text is
read back as a timestamp of the same date. -/
theorem readable_of_legible (h : Legible first last format) (hfirst : first ≤ t.date.year)
    (hlast : t.date.year ≤ last) :
  check format = .ok () ∧ ∃ text, write t format = .ok text ∧
    ∃ t', readStored? text format = some t' ∧ t'.date = t.date
  := by
  obtain ⟨items, hformat, rfl | hitems⟩ := h
  · have hseparate : separate minYear maxYear dateItems = true := by decide
    obtain ⟨text, hwrite, hread⟩ := exists_readStored?_of_dateItems hformat t
    exact ⟨check_eq_ok hformat hseparate, text, hwrite, _, hread, rfl⟩
  · exact ⟨check_eq_ok hformat hitems.separate,
      hitems.exists_readStored?_eq hformat hfirst hlast⟩

/-- Names, a year without its century, an hour of the half day and a fraction. -/
theorem readable_half_day :
  let format := "%a %e %B %y, %l:%M:%S%.f %p"
  let t : Timestamp := ⟨⟨2004, 2, 29, by decide⟩, ⟨23, 59, 59, 500000000, by decide⟩⟩
  let text := "Sun 29 February 04, 11:59:59.500 PM"
  Legible 1970 2069 format ∧ write t format = .ok text ∧
    ∃ t', readStored? text format = some t' ∧ t'.date = t.date
  := by
  intro format t text
  have hlegible : Legible 1970 2069 format := by decide +kernel
  have hwrite : write t format = .ok text := by decide +kernel
  obtain ⟨-, text', hwrite', t', hread, hdate⟩ :=
    readable_of_legible (t := t) hlegible (by decide) (by decide)
  obtain rfl : text' = text := Except.ok.inj (hwrite'.symm.trans hwrite)
  exact ⟨hlegible, hwrite, t', hread, hdate⟩

/-- A format without a time is accepted, but what is written in it cannot be read back, unless it is
the international form of a date. -/
theorem unreadable_without_time :
  let format := "%d.%m.%Y"
  check format = .ok () ∧ write sample format = .ok "03.02.2001" ∧
    readStored? "03.02.2001" format = none
  := by decide +kernel

end EntityStore.Calendar
