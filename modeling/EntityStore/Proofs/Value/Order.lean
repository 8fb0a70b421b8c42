import EntityStore.Proofs.Calendar.Separate
import EntityStore.Proofs.Number.Integer
import EntityStore.Proofs.Value.RoundTrip
import EntityStore.Value.Operation
import Mathlib.Data.List.Induction

/-!
# The order of values

Two values can be compared at once, or as the database compares them once they are stored.

* Identifiers and timestamps are stored as texts.  The texts of identifiers have the order of the
  identifiers.  The texts that timestamps have in the default format have the order of what they
  show, the date and the time to the second, for years that are written with four digits.
* Null aside, both ways to compare agree on values of one kind, apart from timestamps, and on truth
  values and integers.  Timestamps are compared by their texts, and values of different kinds are
  the same if their texts are.
-/

namespace EntityStore

open Text Calendar

/-! ### Texts -/

/-- A list of characters comes first in the order of lists. -/
theorem compare_chars_eq_lt_iff {as bs : List Char} :
  compare as bs = .lt ↔ as < bs
  := by
  induction as generalizing bs with
  | nil => cases bs <;> simp
  | cons a as ih =>
      cases bs with
      | nil => simp
      | cons b bs =>
          rw [List.compare_cons_cons, Ordering.then_eq_lt, ih, List.cons_lt_cons_iff,
            compare_lt_iff_lt, compare_eq_iff_eq]

/-- Texts have the order of their characters. -/
theorem compare_eq_toList (s t : String) :
  compare s t = compare s.toList t.toList
  := by
  have hlt {s t : String} (h : compare s.toList t.toList = .lt) : compare s t = .lt :=
    compare_lt_iff_lt.mpr (String.lt_iff_toList_lt.mpr (compare_chars_eq_lt_iff.mp h))
  cases h : compare s.toList t.toList with
  | lt => exact hlt h
  | eq =>
      rw [String.toList_inj.mp (Std.compare_eq_iff_eq.mp h)]
      exact Std.compare_self
  | gt => exact Std.OrientedCmp.gt_of_lt (hlt (Std.OrientedCmp.lt_of_gt h))

/-- Parts of one length are compared before what follows them. -/
theorem compare_append {α : Type} [Ord α] {as bs : List α} (h : as.length = bs.length)
    (as' bs' : List α) :
  compare (as ++ as') (bs ++ bs') = (compare as bs).then (compare as' bs')
  := by
  induction as generalizing bs with
  | nil =>
      obtain rfl := List.length_eq_zero_iff.mp h.symm
      rfl
  | cons a as ih =>
      cases bs with
      | nil => cases h
      | cons b bs =>
          have hlength : as.length = bs.length := Nat.succ.inj h
          rw [List.cons_append, List.cons_append, List.compare_cons_cons, List.compare_cons_cons,
            ih hlength, Ordering.then_assoc]

/-- Numbers have the order of their quotients, and of their remainders where these are equal. -/
theorem compare_div_mod (k m n : Nat) :
  (compare (m / k) (n / k)).then (compare (m % k) (n % k)) = compare m n
  := by
  have hm := Nat.div_add_mod m k
  have hn := Nat.div_add_mod n k
  have hless {a b : Nat} (h : a / k < b / k) : a < b := by
    by_contra hle
    exact Nat.not_le_of_lt h (Nat.div_le_div_right (Nat.le_of_not_lt hle))
  obtain h | h | h := Nat.lt_trichotomy (m / k) (n / k)
  · rw [Nat.compare_eq_lt.mpr h, Nat.compare_eq_lt.mpr (hless h)]
    rfl
  · rw [h] at hm
    rw [h, Nat.compare_eq_eq.mpr rfl, Ordering.eq_then]
    obtain h' | rfl | h' := Nat.lt_trichotomy m n
    · rw [Nat.compare_eq_lt.mpr h', Nat.compare_eq_lt]
      omega
    · rw [Nat.compare_eq_eq.mpr rfl, Nat.compare_eq_eq.mpr rfl]
    · rw [Nat.compare_eq_gt.mpr h', Nat.compare_eq_gt]
      omega
  · rw [Nat.compare_eq_gt.mpr h, Nat.compare_eq_gt.mpr (hless h)]
    rfl

/-- Numbers are compared with others where the first two are equal. -/
theorem compare_then (m n k l : Nat) :
  (compare m n).then (compare k l) =
    if m < n ∨ m = n ∧ k < l then .lt else if n < m ∨ m = n ∧ l < k then .gt else .eq
  := by
  rw [Nat.compare_eq_ite_lt, Nat.compare_eq_ite_lt]
  split_ifs <;> simp <;> omega

/-! ### Identifiers -/

namespace Uuid

/-- Hexadecimal digits have the order of their values. -/
theorem compare_hexDigit {m n : Nat} (hm : m < 16) (hn : n < 16) :
  compare (hexDigit m) (hexDigit n) = compare m n
  := by
  have hall : ∀ i j : Fin 16, compare (hexDigit i) (hexDigit j) = compare i.val j.val := by decide
  exact hall ⟨m, hm⟩ ⟨n, hn⟩

/-- Bytes have the order of their digits. -/
theorem compare_byteText (a b : UInt8) :
  compare (byteText a) (byteText b) = compare a b
  := by
  have ha : a.toNat < 256 := a.toNat_lt_size
  have hb : b.toNat < 256 := b.toNat_lt_size
  have hcompare : compare a b = compare a.toNat b.toNat := by
    simp [compare, compareOfLessAndEq, UInt8.lt_iff_toNat_lt, UInt8.toNat_inj]
  rw [hcompare, ← compare_div_mod 16 a.toNat, byteText, byteText,
    List.compare_cons_cons, List.compare_cons_cons, compare_hexDigit (by omega) (by omega),
    compare_hexDigit (by omega) (by omega)]
  simp

/-- Bytes one after the other have the order of their digits. -/
theorem compare_flatMap {as bs : List UInt8} (h : as.length = bs.length) :
  compare (as.flatMap byteText) (bs.flatMap byteText) = compare as bs
  := by
  induction as generalizing bs with
  | nil =>
      obtain rfl := List.length_eq_zero_iff.mp h.symm
      rfl
  | cons a as ih =>
      cases bs with
      | nil => cases h
      | cons b bs =>
          have hdigits : (byteText a).length = (byteText b).length := rfl
          rw [List.flatMap_cons, List.flatMap_cons, compare_append hdigits, compare_byteText,
            ih (Nat.succ.inj h), List.compare_cons_cons]

/-- Bytes in groups have the order of their digits. -/
theorem compare_hyphenated {n : Nat} {groups : List Nat} {as bs : List UInt8}
    (ha : as.length = (n :: groups).sum) (hb : bs.length = (n :: groups).sum) :
  compare (hyphenated (n :: groups) as) (hyphenated (n :: groups) bs) = compare as bs
  := by
  induction groups generalizing n as bs with
  | nil =>
      have hlength : as.length = n ∧ bs.length = n := by simpa using And.intro ha hb
      rw [hyphenated, hyphenated, List.take_of_length_le (by omega),
        List.take_of_length_le (by omega), compare_flatMap (by omega)]
  | cons m groups ih =>
      rw [List.sum_cons] at ha hb
      have hfirst : (as.take n).length = (bs.take n).length := by
        rw [List.length_take, List.length_take]
        omega
      have hdigits : ((as.take n).flatMap byteText).length = ((bs.take n).flatMap byteText).length
        := by rw [length_flatMap_byteText, length_flatMap_byteText, hfirst]
      have hrest : (as.drop n).length = (m :: groups).sum ∧ (bs.drop n).length = (m :: groups).sum
        := by
        rw [List.length_drop, List.length_drop]
        omega
      have hgroups (bytes : List UInt8) : hyphenated (n :: m :: groups) bytes =
          (bytes.take n).flatMap byteText ++ '-' :: hyphenated (m :: groups) (bytes.drop n) := rfl
      rw [hgroups, hgroups, compare_append hdigits, compare_flatMap hfirst, List.compare_cons_cons,
        Std.compare_self, Ordering.eq_then, ih hrest.1 hrest.2,
        ← compare_append hfirst, List.take_append_drop, List.take_append_drop]

/-- Identifiers have the order of their texts. -/
theorem compare_text (u w : Uuid) :
  compare u.text w.text = compare u.bytes w.bytes
  := by
  rw [compare_eq_toList, text, text, String.toList_ofList, String.toList_ofList, groups,
    compare_hyphenated u.length_eq w.length_eq]

end Uuid

/-! ### Timestamps -/

namespace Calendar

/-- Digits have the order of their values. -/
theorem compare_digit? {c d : Char} {m n : Nat} (hc : digit? c = some m) (hd : digit? d = some n) :
  compare c d = compare m n
  := by
  have hvalue {c : Char} {m : Nat} (hc : digit? c = some m) : c.toNat = m + 48 := by
    obtain ⟨⟨hfirst, -⟩, heq⟩ := Option.ite_none_right_eq_some.mp hc
    cases heq
    exact (Nat.sub_add_cancel hfirst).symm
  have hm := hvalue hc
  have hn := hvalue hd
  have hless {c d : Char} (h : c.toNat < d.toNat) : c < d := h
  obtain h | rfl | h := Nat.lt_trichotomy m n
  · rw [Nat.compare_eq_lt.mpr h, compare_lt_iff_lt]
    exact hless (by omega)
  · rw [Char.toNat_inj.mp (hm.trans hn.symm), Std.compare_self, Std.compare_self]
  · rw [Nat.compare_eq_gt.mpr h, compare_gt_iff_gt]
    exact hless (by omega)

/-- Digits in as many places have the order of their numbers. -/
theorem compare_digits {ds es : List Char} (hds : ∀ c ∈ ds, c.isDigit = true)
    (hes : ∀ c ∈ es, c.isDigit = true) (h : ds.length = es.length) :
  compare ds es = compare (ofDigits (ds.filterMap digit?)) (ofDigits (es.filterMap digit?))
  := by
  induction ds using List.reverseRecOn generalizing es with
  | nil =>
      obtain rfl := List.length_eq_zero_iff.mp h.symm
      rfl
  | append_singleton ds c ih =>
      obtain rfl | ⟨es, d, rfl⟩ := List.eq_nil_or_concat' es
      · simp at h
      · rw [List.length_append, List.length_append] at h
        obtain ⟨m, hm, hc⟩ := Numeral.exists_digit?_eq (hds c (by simp))
        obtain ⟨n, hn, hd⟩ := Numeral.exists_digit?_eq (hes d (by simp))
        have hdigit : compare [c] [d] = compare m n := by
          rw [List.compare_cons_cons, compare_digit? hc hd, Std.compare_self, Ordering.then_eq]
        have hbefore := ih (fun c hc => hds c (by simp [hc]))
          (fun c hc => hes c (by simp [hc])) (Nat.add_right_cancel h)
        rw [compare_append (Nat.add_right_cancel h), hbefore, hdigit, List.filterMap_append,
          List.filterMap_append, List.filterMap_cons, List.filterMap_cons, hc, hd,
          List.filterMap_nil, Numeral.ofDigits_append_singleton,
          Numeral.ofDigits_append_singleton, ← compare_div_mod 10 (_ * 10 + m)]
        congr 2 <;> omega

/-- Numerals of as many places have the order of their numbers. -/
theorem Numeral.compare_eq {ds es : List Char} {m n : Nat} (hds : Numeral ds m)
    (hes : Numeral es n) (h : ds.length = es.length) :
  compare ds es = compare m n
  := by rw [compare_digits hds.isDigit hes.isDigit h, hds.value_eq, hes.value_eq]

/-- Numbers filled up to a number of places have the order of the numbers. -/
theorem compare_padded {width m n : Nat} (hwidth : 0 < width) (hm : m < 10 ^ width)
    (hn : n < 10 ^ width) :
  compare (Timestamp.padded width m) (Timestamp.padded width n) = compare m n
  := by
  apply (numeral_padded width m).compare_eq (numeral_padded width n)
  rw [length_padded hwidth hm, length_padded hwidth hn]

end Calendar

namespace Timestamp

/-- The characters of a timestamp in the default format. -/
def defaultText (t : Timestamp) : List Char :=
  Pad.zeros.yearText t.date.year ++ '-' :: (Pad.zeros.twoPlaces t.date.month ++ '-' ::
    (Pad.zeros.twoPlaces t.date.day ++ ' ' :: (Pad.zeros.twoPlaces t.time.hour ++ ':' ::
      (Pad.zeros.twoPlaces t.time.minute ++ ':' :: Pad.zeros.twoPlaces (shownSecond t.time)))))

/-- Every timestamp is written in the default format. -/
theorem write_default (t : Timestamp) :
  write t defaultFormat = .ok (String.ofList t.defaultText)
  := by
  let items : List Item := [.number .year .zeros, .literal '-', .number .month .zeros,
    .literal '-', .number .day .zeros, .blank ' ', .number .hour .zeros, .literal ':',
    .number .minute .zeros, .literal ':', .number .second .zeros]
  have hformat : items? defaultFormat = some items := by decide +kernel
  have hrender : renderItems? t items = some t.defaultText := by
    simp [items, renderItems?, Item.render?, NumberPart.render, defaultText]
  rw [write, Timestamp.render?]
  simp [hformat, hrender]

/-- The order of what timestamps show: the date and the time to the second. -/
def compareShown (s t : Timestamp) : Ordering :=
  (s.date.compare t.date).then ((Ord.compare s.time.hour t.time.hour).then
    ((Ord.compare s.time.minute t.time.minute).then
      (Ord.compare (shownSecond s.time) (shownSecond t.time))))

/-- The years that are written with four digits. -/
def InFourDigits (t : Timestamp) : Prop :=
  0 ≤ t.date.year ∧ t.date.year ≤ 9999

variable {s t : Timestamp}

/-- A year in four digits is a number filled up to four places. -/
theorem yearText_eq_padded {year : Int} (h : 0 ≤ year ∧ year ≤ 9999) :
  Pad.zeros.yearText year = padded 4 year.natAbs
  := by
  rw [Pad.yearText, if_pos h, Pad.number_eq_fill _ _ h.1]
  rfl

/-- In four digits years have the order of their texts. -/
theorem compare_yearText {m n : Int} (hm : 0 ≤ m ∧ m ≤ 9999) (hn : 0 ≤ n ∧ n ≤ 9999) :
  Ord.compare (Pad.zeros.yearText m) (Pad.zeros.yearText n) = Ord.compare m n
  := by
  have hnat : Ord.compare m.natAbs n.natAbs = Ord.compare m n := by
    obtain ⟨m, rfl⟩ := Int.eq_ofNat_of_zero_le hm.1
    obtain ⟨n, rfl⟩ := Int.eq_ofNat_of_zero_le hn.1
    simp [Ord.compare, compareOfLessAndEq]
  rw [yearText_eq_padded hm, yearText_eq_padded hn,
    compare_padded (by decide) (by omega) (by omega), hnat]

/-- Two places have the order of their numbers. -/
theorem compare_twoPlaces {m n : Nat} (hm : m < 100) (hn : n < 100) :
  Ord.compare (Pad.zeros.twoPlaces m) (Pad.zeros.twoPlaces n) = Ord.compare m n
  := by
  rw [Pad.twoPlaces_eq_fill _ hm, Pad.twoPlaces_eq_fill _ hn]
  exact compare_padded (by decide) hm hn

/-- Two places are compared before what follows behind one more character. -/
theorem compare_twoPlaces_append {m n : Nat} (hm : m < 100) (hn : n < 100) (c : Char)
    (as bs : List Char) :
  Ord.compare (Pad.zeros.twoPlaces m ++ c :: as) (Pad.zeros.twoPlaces n ++ c :: bs) =
    (Ord.compare m n).then (Ord.compare as bs)
  := by
  have hlength (n : Nat) : (Pad.zeros.twoPlaces n).length = 2 := by
    unfold Pad.twoPlaces
    dsimp only
    split <;> rfl
  rw [compare_append ((hlength m).trans (hlength n).symm), compare_twoPlaces hm hn,
    List.compare_cons_cons, Std.compare_self, Ordering.eq_then]

/-- The numbers in a timestamp have two digits at most. -/
theorem lt_hundred (t : Timestamp) :
  t.date.month < 100 ∧ t.date.day < 100 ∧ t.time.hour < 100 ∧ t.time.minute < 100 ∧
    shownSecond t.time < 100
  := by
  obtain ⟨-, hmonth, -, -⟩ := t.date.month_day
  have hday := t.date.day_le
  obtain ⟨hhour, hminute, hsecond, -⟩ := t.time.isTime
  have hshown := t.time.shownSecond_cases
  omega

/-- The texts of timestamps in the default format have the order of what they show, if the years
are written with four digits. -/
theorem compare_defaultText (hs : s.InFourDigits) (ht : t.InFourDigits) :
  Ord.compare s.defaultText t.defaultText = s.compareShown t
  := by
  have hyears : (Pad.zeros.yearText s.date.year).length = (Pad.zeros.yearText t.date.year).length
    := by
    obtain ⟨hs, hs'⟩ := hs
    obtain ⟨ht, ht'⟩ := ht
    rw [yearText_eq_padded ⟨hs, hs'⟩, yearText_eq_padded ⟨ht, ht'⟩,
      length_padded (by decide) (by omega), length_padded (by decide) (by omega)]
  obtain ⟨hmonth, hday, hhour, hminute, hsecond⟩ := s.lt_hundred
  obtain ⟨hmonth', hday', hhour', hminute', hsecond'⟩ := t.lt_hundred
  rw [defaultText, defaultText, compare_append hyears, compare_yearText hs ht,
    List.compare_cons_cons, Std.compare_self, Ordering.eq_then,
    compare_twoPlaces_append hmonth hmonth', compare_twoPlaces_append hday hday',
    compare_twoPlaces_append hhour hhour', compare_twoPlaces_append hminute hminute',
    compare_twoPlaces hsecond hsecond', compareShown, Date.compare, Ordering.then_assoc,
    Ordering.then_assoc]

end Timestamp

namespace TimeOfDay

/-- Seconds since midnight have the order of hours, minutes and seconds. -/
theorem compare_seconds (a b : TimeOfDay) :
  Ord.compare a.seconds b.seconds = (Ord.compare a.hour b.hour).then
    ((Ord.compare a.minute b.minute).then (Ord.compare a.second b.second))
  := by
  have hparts (t : TimeOfDay) : t.seconds / 3600 = t.hour ∧ t.seconds % 3600 / 60 = t.minute ∧
      t.seconds % 3600 % 60 = t.second := by
    obtain ⟨hhour, hminute, hsecond, -⟩ := t.isTime
    unfold seconds
    omega
  obtain ⟨ha, ha', ha''⟩ := hparts a
  obtain ⟨hb, hb', hb''⟩ := hparts b
  rw [← compare_div_mod 3600 a.seconds, ← compare_div_mod 60 (a.seconds % 3600), ha, ha', ha'', hb,
    hb', hb'']

/-- Without fractions, seconds have the order of what is shown of them. -/
theorem compare_shownSecond {a b : TimeOfDay} (ha : a.nanosecond % nanosPerSecond = 0)
    (hb : b.nanosecond % nanosPerSecond = 0) :
  Ord.compare (Timestamp.shownSecond a) (Timestamp.shownSecond b) =
    (Ord.compare a.second b.second).then (Ord.compare a.nanosecond b.nanosecond)
  := by
  have hshown {t : TimeOfDay} (h : t.nanosecond % nanosPerSecond = 0) :
      t.second < 60 ∧ (t.nanosecond = 0 ∧ Timestamp.shownSecond t = t.second ∨
        t.nanosecond = 1000000000 ∧ t.second = 59 ∧ Timestamp.shownSecond t = 60) := by
    obtain ⟨-, -, hsecond, hnano⟩ := t.isTime
    have hcases := t.shownSecond_cases
    unfold nanosPerSecond at *
    omega
  have ha := hshown ha
  have hb := hshown hb
  rw [compare_then, Nat.compare_eq_ite_lt]
  congr 1
  · rw [eq_iff_iff]
    omega
  · congr 1
    rw [eq_iff_iff]
    omega

end TimeOfDay

/-- Without fractions of a second, timestamps have the order of what they show. -/
theorem Timestamp.compareShown_eq {s t : Timestamp} (hs : s.time.nanosecond % nanosPerSecond = 0)
    (ht : t.time.nanosecond % nanosPerSecond = 0) :
  s.compareShown t = s.compare t
  := by
  rw [compareShown, compare, TimeOfDay.compare, TimeOfDay.compare_seconds,
    TimeOfDay.compare_shownSecond hs ht, Ordering.then_assoc, Ordering.then_assoc]

/-! ### Values as they are stored -/

namespace Value

/-- The value as it is stored if timestamps are written in the default format. -/
def kept : Value → Value
  | bool b => int (if b then 1 else 0)
  | double x => if x.isNaN then null else double x
  | uuid u => text u.text
  | timestamp t => text (String.ofList t.defaultText)
  | v => v

/-- In the default format every value is stored. -/
theorem stored?_default (v : Value) :
  v.stored? defaultFormat = some v.kept
  := by
  cases v with
  | timestamp t => simp [stored?, kept, t.write_default, Except.toOption]
  | _ => rfl

/-- Whether a value is a double-precision number. -/
def isDouble : Value → Bool
  | double _ => true
  | _ => false

variable {v w : Value}

/-! ### Values before they are stored -/

/-- Whether two values of different kinds are stored as the same text. -/
def SameText (v w : Value) : Prop :=
  v.kind ≠ w.kind ∧ ∃ s, v.kept = text s ∧ w.kept = text s

/-- Values that are stored as different kinds are not the same. -/
theorem apart_of_rank (h : v.kept.rank ≠ w.kept.rank) :
  v.kept.storedOrder w.kept ≠ .eq ∧ ¬ SameText v w
  := by
  constructor
  · unfold storedOrder
    split
    · next heq heq' => simp [heq, heq', rank] at h
    · next heq heq' => simp [heq, heq', rank] at h
    · rw [if_neg h]
      intro heq
      exact h (Nat.compare_eq_eq.mp heq)
  · rintro ⟨-, s, hv, hw⟩
    rw [hv, hw] at h
    exact h rfl

/-- Values of different kinds that are stored as texts are the same if the texts are. -/
theorem same_iff_sameText (hkinds : v.kind ≠ w.kind) {s t : String} (hv : v.kept = text s)
    (hw : w.kept = text t) :
  v.kept.storedOrder w.kept = .eq ↔ SameText v w
  := by
  have horder : v.kept.storedOrder w.kept = compare s t := by
    rw [hv, hw]
    rfl
  rw [horder, Std.compare_eq_iff_eq]
  constructor
  · rintro rfl
    exact ⟨hkinds, s, hv, hw⟩
  · rintro ⟨-, u, hv', hw'⟩
    obtain rfl := text.inj (hv.symm.trans hv')
    obtain rfl := text.inj (hw.symm.trans hw')
    rfl

/-- Truth values and integers have the order of the integers that are stored for them. -/
theorem compare?_bool (b : Bool) (n : Int64) :
  (bool b).compare? (int n) = some ((bool b).kept.storedOrder (int n).kept) ∧
    (int n).compare? (bool b) = some ((int n).kept.storedOrder (bool b).kept) ∧
    ∀ c, (bool b).compare? (bool c) = some ((bool b).kept.storedOrder (bool c).kept)
  := by
  have htruth (b : Bool) : (if b then 1 else 0 : Int) = 0 ∨ (if b then 1 else 0 : Int) = 1 := by
    cases b <;> decide
  have hint (b : Bool) : (if b then 1 else 0 : Int64).toInt = if b then 1 else 0 := by
    cases b <;> rfl
  have horder (m n : Int64) : (int m).storedOrder (int n) = compare m.toInt n.toInt := rfl
  obtain ⟨hleft, hright⟩ := Binary64.compare?_ofInt (htruth b) n.toInt
  refine ⟨?_, ?_, fun c => ?_⟩
  · rw [kept, kept, horder, hint]
    · exact hleft
    all_goals simp
  · rw [kept, kept, horder, hint]
    · exact hright
    all_goals simp
  · rw [kept, kept, horder, hint, hint]
    exact (Binary64.compare?_ofInt (htruth b) (if c then 1 else 0)).1

/-- Values that are stored as different kinds have no order. -/
theorem compare?_of_rank (hv : v.isDouble = false) (hw : w.isDouble = false)
    (h : v.kept.rank ≠ w.kept.rank) :
  v.compare? w = none
  := by
  cases v with
  | double x => cases hv
  | _ => cases w <;> first | contradiction | rfl

/-- How two values are compared at once: as the database does it, unless they are timestamps, or
not at all if they are stored as different kinds or as texts of different kinds of values. -/
theorem compare?_cases (hv : v ≠ null) (hv' : v.isDouble = false) (hw' : w.isDouble = false) :
  (∃ s t, v = timestamp s ∧ w = timestamp t) ∨
    (v.compare? w = some (v.kept.storedOrder w.kept) ∧ ¬ SameText v w) ∨
    (v.compare? w = none ∧ (v.kept.storedOrder w.kept = .eq ↔ SameText v w))
  := by
  have hsame {v w : Value} (h : v.compare? w = some (v.kept.storedOrder w.kept))
      (hkinds : v.kind = w.kind ∨ ∀ s, v.kept ≠ text s) :
      v.compare? w = some (v.kept.storedOrder w.kept) ∧ ¬ SameText v w := by
    refine ⟨h, ?_⟩
    rintro ⟨hkinds', s, hs, -⟩
    obtain hkind | htext := hkinds
    · exact hkinds' hkind
    · exact htext s hs
  have hkinds {v w : Value} {s t : String} (h : v.compare? w = none) (hkinds : v.kind ≠ w.kind)
      (hv : v.kept = text s) (hw : w.kept = text t) :
      v.compare? w = none ∧ (v.kept.storedOrder w.kept = .eq ↔ SameText v w) :=
    ⟨h, same_iff_sameText hkinds hv hw⟩
  by_cases hrank : v.kept.rank = w.kept.rank
  -- Values that are stored as one kind are numbers, texts or bytes.
  · cases v with
    | null => exact absurd rfl hv
    | double x => cases hv'
    | bool b =>
        cases w with
        | double x => cases hw'
        | bool c => exact .inr (.inl (hsame ((compare?_bool b 0).2.2 c) (.inl rfl)))
        | int n => exact .inr (.inl (hsame (compare?_bool b n).1 (.inr (by simp [kept]))))
        | _ => cases hrank
    | int n =>
        cases w with
        | double x => cases hw'
        | bool b => exact .inr (.inl (hsame (compare?_bool b n).2.1 (.inr (by simp [kept]))))
        | int m => exact .inr (.inl (hsame rfl (.inl rfl)))
        | _ => cases hrank
    | text s =>
        cases w with
        | double x => cases hw'
        | text t => exact .inr (.inl (hsame rfl (.inl rfl)))
        | uuid u => exact .inr (.inr (hkinds rfl (by simp [kind]) rfl rfl))
        | timestamp t => exact .inr (.inr (hkinds rfl (by simp [kind]) rfl rfl))
        | _ => cases hrank
    | bytes b =>
        cases w with
        | double x => cases hw'
        | bytes c => exact .inr (.inl (hsame rfl (.inl rfl)))
        | _ => cases hrank
    | uuid u =>
        cases w with
        | double x => cases hw'
        | uuid u' => exact .inr (.inl (hsame (congrArg some (u.compare_text u').symm) (.inl rfl)))
        | text t => exact .inr (.inr (hkinds rfl (by simp [kind]) rfl rfl))
        | timestamp t => exact .inr (.inr (hkinds rfl (by simp [kind]) rfl rfl))
        | _ => cases hrank
    | timestamp s =>
        cases w with
        | double x => cases hw'
        | timestamp t => exact .inl ⟨s, t, rfl, rfl⟩
        | text t => exact .inr (.inr (hkinds rfl (by simp [kind]) rfl rfl))
        | uuid u => exact .inr (.inr (hkinds rfl (by simp [kind]) rfl rfl))
        | _ => cases hrank
  · obtain ⟨horder, htext⟩ := apart_of_rank hrank
    exact .inr (.inr ⟨compare?_of_rank hv' hw' hrank, iff_of_false horder htext⟩)

end Value

end EntityStore
