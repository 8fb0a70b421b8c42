import EntityStore.Proofs.Calendar.Legible
import EntityStore.Value.Coerce
import EntityStore.Value.Stored
import EntityStore.Value.Uuid
import Mathlib

/-!
# Stored values are read back

A value that fits the type of its column is stored in such a way that reading the column gives
it back.
-/

namespace EntityStore

open Calendar Text

/-! ### Identifiers -/

namespace Text

/-- The digit of a number below sixteen is read as that number, and is no brace. -/
theorem hexDigit?_hexDigit {n : Nat} (h : n < 16) :
  hexDigit? (hexDigit n) = some n ∧ hexDigit n ≠ '\x7b'
  := by
  have hall : ∀ i : Fin 16, hexDigit? (hexDigit i) = some i.val ∧ hexDigit i ≠ '\x7b' := by decide
  apply hall ⟨n, h⟩

end Text

namespace Uuid

/-- Every byte has two digits. -/
theorem length_flatMap_byteText (bytes : List UInt8) :
  (bytes.flatMap byteText).length = 2 * bytes.length
  := by
  induction bytes with
  | nil => rfl
  | cons b bytes ih =>
      rw [List.flatMap_cons, List.length_append, ih, List.length_cons]
      simp only [byteText, List.length_cons, List.length_nil]
      omega

/-- Bytes are read from their digits. -/
theorem bytesOfHex?_flatMap (bytes : List UInt8) :
  bytesOfHex? (bytes.flatMap byteText) = some bytes
  := by
  induction bytes with
  | nil => rfl
  | cons b bytes ih =>
      have hbyte : b.toNat < 256 := b.toNat_lt_size
      have hhigh := (hexDigit?_hexDigit (show b.toNat / 16 < 16 by omega)).1
      have hlow := (hexDigit?_hexDigit (show b.toNat % 16 < 16 by omega)).1
      have hvalue : 16 * (b.toNat / 16) + b.toNat % 16 = b.toNat := by omega
      simp only [List.flatMap_cons, byteText, List.cons_append, List.nil_append, bytesOfHex?, hhigh,
        hlow, ih, Option.bind_eq_bind, Option.bind_some, hvalue, UInt8.ofNat_toNat, Option.pure_def]

/-- Bytes in groups are read from their digits. -/
theorem bytesOfHyphenated?_hyphenated {groups : List Nat} (hgroups : groups ≠ [])
    {bytes : List UInt8} (h : bytes.length = groups.sum) :
  bytesOfHyphenated? groups (hyphenated groups bytes) = some bytes
  := by
  induction groups generalizing bytes with
  | nil => exact absurd rfl hgroups
  | cons n groups ih =>
      rw [List.sum_cons] at h
      cases groups with
      | nil =>
          have hlength : bytes.length = n := by simpa using h
          have hdigits := length_flatMap_byteText bytes
          rw [hyphenated, List.take_of_length_le (by omega), bytesOfHyphenated?,
            if_pos (by omega), bytesOfHex?_flatMap]
      | cons m groups =>
          have hfirst : ((bytes.take n).flatMap byteText).length = 2 * n := by
            rw [length_flatMap_byteText, List.length_take]
            omega
          have hrest : (bytes.drop n).length = (m :: groups).sum := by
            rw [List.length_drop]
            omega
          have hread := ih (by simp) hrest
          have hdrop (more : List Char) :
              ((bytes.take n).flatMap byteText ++ more).drop (2 * n) = more := by
            rw [← hfirst, List.drop_left]
          have htake (more : List Char) :
              ((bytes.take n).flatMap byteText ++ more).take (2 * n) =
                (bytes.take n).flatMap byteText := by
            rw [← hfirst, List.take_left]
          rw [hyphenated, bytesOfHyphenated?, hdrop]
          · simp only [htake, bytesOfHex?_flatMap, hread, Option.bind_eq_bind, Option.bind_some,
              Option.pure_def, List.take_append_drop]
          · simp
          · simp

/-- The digits of all groups with a hyphen between any two. -/
theorem length_hyphenated {n : Nat} {groups : List Nat} {bytes : List UInt8}
    (h : bytes.length = (n :: groups).sum) :
  (hyphenated (n :: groups) bytes).length = 2 * bytes.length + groups.length
  := by
  induction groups generalizing n bytes with
  | nil =>
      have hlength : bytes.length = n := by simpa using h
      rw [hyphenated, List.take_of_length_le (by omega), length_flatMap_byteText]
      rfl
  | cons m groups ih =>
      rw [List.sum_cons] at h
      have hrest : (bytes.drop n).length = (m :: groups).sum := by
        rw [List.length_drop]
        omega
      rw [hyphenated, List.length_append, List.length_cons, ih hrest, length_flatMap_byteText,
        List.length_take, List.length_drop, List.length_cons]
      · omega
      · simp

/-- There are 36 characters in the text of an identifier. -/
theorem length_text (u : Uuid) :
  (hyphenated groups u.bytes).length = 36
  := by rw [groups, length_hyphenated u.length_eq, u.length_eq]; rfl

/-- The text of an identifier begins with a digit. -/
theorem exists_text_eq_cons (u : Uuid) :
  ∃ c rest, hyphenated groups u.bytes = c :: rest ∧ c ≠ '\x7b'
  := by
  obtain ⟨bytes, hlength⟩ := u
  cases bytes with
  | nil => cases hlength
  | cons b bytes =>
      have hbyte : b.toNat < 256 := b.toNat_lt_size
      exact ⟨hexDigit (b.toNat / 16), _, rfl, (hexDigit?_hexDigit (by omega)).2⟩

/-- Nothing stands around the text of an identifier. -/
theorem unwrapped_text (u : Uuid) :
  unwrapped (hyphenated groups u.bytes) = hyphenated groups u.bytes
  := by
  have hlength := u.length_text
  obtain ⟨c, rest, htext, hc⟩ := u.exists_text_eq_cons
  rw [htext] at hlength ⊢
  unfold unwrapped
  split
  · rename_i hcons
    cases hcons
    exact absurd rfl hc
  · rw [hlength]
    rfl

/-- The text of an identifier is read as the identifier. -/
@[simp] theorem ofText?_text (u : Uuid) :
  ofText? u.text = some u
  := by
  have hread : bytesOfHyphenated? groups (hyphenated groups u.bytes) = some u.bytes :=
    bytesOfHyphenated?_hyphenated (by decide) u.length_eq
  have hnot : ¬ (36 = 32) := by decide
  simp only [ofText?, text, String.toList_ofList, unwrapped_text, length_text, if_neg hnot, hread,
    Option.bind_some, ofBytes?, dif_pos u.length_eq]

end Uuid

/-! ### Timestamps -/

namespace Calendar

/-- The items of the default format. -/
def defaultItems : List Item :=
  dateItems ++ .blank ' ' :: Item.clock

/-- A timestamp without a fraction of a second is read back from the default format. -/
theorem exists_readStored?_default {t : Timestamp} (h : t.time.nanosecond % nanosPerSecond = 0) :
  ∃ text, write t defaultFormat = .ok text ∧ readStored? text defaultFormat = some t
  := by
  have hformat : items? defaultFormat = some defaultItems := by decide +kernel
  have hlegible : LegibleItems minYear maxYear defaultItems := by decide
  obtain ⟨hfirst, hlast, -, -⟩ := t.date.isDate
  apply hlegible.exists_readStored?_self hformat (by decide) (by decide) (by decide) (by decide)
    hfirst hlast h

end Calendar

/-! ### Values -/

namespace Value

/-- The values that a column of a type holds, where timestamps are written in a format.  What is no
number is not held by a column of numbers, and fractions of a second are not written in the
default format. -/
inductive Fits : Value → ColumnType → String → Prop
  | uuid (u : Uuid) (format : String) : Fits (.uuid u) .guid format
  | bool (b : Bool) (format : String) : Fits (.bool b) .boolean format
  | int (n : Int64) (format : String) : Fits (.int n) .integer format
  | double {x : Binary64} (h : x.isNaN = false) (format : String) : Fits (.double x) .real format
  | text (s : String) (format : String) : Fits (.text s) .text format
  | bytes (b : List UInt8) (format : String) : Fits (.bytes b) .blob format
  | timestamp {t : Timestamp} (h : t.time.nanosecond % nanosPerSecond = 0) :
      Fits (.timestamp t) .dateTime defaultFormat

/-- A value that fits its column is stored, and the column means it again. -/
theorem coerce_of_stored {v : Value} {type : ColumnType} {format : String}
    (h : v.Fits type format) :
  ∃ s, v.stored? format = some s ∧ s.coerce type format = .ok v
  := by
  cases h with
  | uuid u => exact ⟨_, rfl, by simp [coerce, meaning?]⟩
  | bool b => cases b <;> exact ⟨_, rfl, rfl⟩
  | int | text | bytes => exact ⟨_, rfl, rfl⟩
  | double hx => exact ⟨.double _, by simp [stored?, hx], rfl⟩
  | timestamp hwhole =>
      obtain ⟨text, hwrite, hread⟩ := exists_readStored?_default hwhole
      exact ⟨.text text, by simp [stored?, hwrite, Except.toOption],
        by simp [coerce, meaning?, hread]⟩

/-- The last second of the year 9999. -/
theorem coerce_of_stored_last :
  let t : Timestamp := ⟨⟨9999, 12, 31, by decide⟩, ⟨23, 59, 59, 0, by decide⟩⟩
  (timestamp t).Fits .dateTime defaultFormat ∧
    (timestamp t).stored? defaultFormat = some (.text "9999-12-31 23:59:59") ∧
    coerce (.text "9999-12-31 23:59:59") .dateTime defaultFormat = .ok (.timestamp t)
  := by
  intro t
  have hfits : (timestamp t).Fits .dateTime defaultFormat := .timestamp (by decide)
  have hstored : (timestamp t).stored? defaultFormat = some (.text "9999-12-31 23:59:59") := by
    decide +kernel
  obtain ⟨s, hs, hread⟩ := coerce_of_stored hfits
  obtain rfl := Option.some.inj (hs.symm.trans hstored)
  exact ⟨hfits, hstored, hread⟩

end Value

end EntityStore
