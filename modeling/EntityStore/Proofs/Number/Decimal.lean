import EntityStore.Number.Text
import EntityStore.Text.Ascii
import Mathlib.Data.List.Induction
import Mathlib.Tactic.Common

/-!
# Decimal numerals

The digits of a natural number determine it, longer digits belong to greater numbers,
and what is left of a numeral when digits are taken off its end is a numeral again.
Digits have no case.
-/

namespace EntityStore

open Text

/-- The characters of the text of a natural number are its digits. -/
@[simp] theorem toList_decimalText (n : Nat) :
  (decimalText n).toList = decimalDigits n
  := by
  have h : ¬ ((n : Int) < 0) := by omega
  simp [decimalText, h]

namespace Text

/-- A number is known by its digits. -/
theorem decimalDigits_injective {m n : Nat} (h : decimalDigits m = decimalDigits n) :
  m = n
  := by
  calc
    m = Nat.ofDigitChars 10 (decimalDigits m) 0 := Nat.ofDigitChars_ten_toDigits.symm
    _ = Nat.ofDigitChars 10 (decimalDigits n) 0 := by rw [h]
    _ = n := Nat.ofDigitChars_ten_toDigits

/-- Every character of a numeral is a digit. -/
theorem isDigit_of_mem_decimalDigits {n : Nat} {c : Char} (h : c ∈ decimalDigits n) :
  c.isDigit = true
  := by
  apply Nat.isDigit_of_mem_toDigits (by decide) (by decide) h

/-- The digits of a number of two digits or more, the last apart. -/
theorem decimalDigits_of_ten_le {n : Nat} (h : 10 ≤ n) :
  decimalDigits n = decimalDigits (n / 10) ++ [(n % 10).digitChar]
  := by
  apply Nat.toDigits_of_base_le (by decide) h

/-- A number of one digit. -/
theorem decimalDigits_of_lt_ten {n : Nat} (h : n < 10) :
  decimalDigits n = [n.digitChar]
  := by
  apply Nat.toDigits_of_lt_base h

/-- A digit written behind a positive number. -/
theorem decimalDigits_append {n d : Nat} (hn : 0 < n) (hd : d < 10) :
  decimalDigits n ++ decimalDigits d = decimalDigits (10 * n + d)
  := by
  apply Nat.toDigits_append_toDigits (by decide) hn hd

/-- A smaller number has no more digits. -/
theorem length_decimalDigits_le {m n : Nat} (h : m ≤ n) :
  (decimalDigits m).length ≤ (decimalDigits n).length
  := by
  have hpos : 0 < (decimalDigits n).length := Nat.length_toDigits_pos
  have hn : n < 10 ^ (decimalDigits n).length :=
    (Nat.length_toDigits_le_iff (by decide) hpos).mp (Nat.le_refl _)
  apply (Nat.length_toDigits_le_iff (by decide) hpos).mpr
  omega

/-- What stands before the last digits of a positive number is itself the numeral of a
positive number, unless nothing does. -/
theorem exists_decimalDigits_of_append {n : Nat} (hn : 0 < n) (before after : List Char)
    (hbefore : before ≠ []) (h : decimalDigits n = before ++ after) :
  ∃ k, 0 < k ∧ before = decimalDigits k
  := by
  induction after using List.reverseRecOn generalizing n with
  | nil => exact ⟨n, hn, by simpa using h.symm⟩
  | append_singleton after c ih =>
    have hten : 10 ≤ n := by
      by_contra hlt
      have hlength := congrArg List.length h
      have := List.length_pos_iff.mpr hbefore
      rw [decimalDigits_of_lt_ten (by omega)] at hlength
      simp only [List.length_append, List.length_cons, List.length_nil] at hlength
      omega
    rw [decimalDigits_of_ten_le hten, ← List.append_assoc] at h
    have hshorter := List.append_inj_left' h (by simp)
    apply ih (by omega) hshorter

/-- A number is read back up to what is no digit. -/
theorem takeWhile_decimalDigits {n : Nat} {c : Char} (hc : c.isDigit = false) (rest : List Char) :
  (decimalDigits n ++ c :: rest).takeWhile Char.isDigit = decimalDigits n
  := by
  rw [List.takeWhile_append_of_pos fun d hd => isDigit_of_mem_decimalDigits hd,
    List.takeWhile_cons_of_neg (by simp [hc]), List.append_nil]

/-- What begins with a number and goes on with no digit is known by both. -/
theorem decimalDigits_append_inj {m n : Nat} {c : Char} (hc : c.isDigit = false)
    {a b : List Char} (h : decimalDigits m ++ c :: a = decimalDigits n ++ c :: b) :
  m = n ∧ a = b
  := by
  have hdigits := congrArg (List.takeWhile Char.isDigit) h
  rw [takeWhile_decimalDigits hc, takeWhile_decimalDigits hc] at hdigits
  obtain rfl := decimalDigits_injective hdigits
  exact ⟨rfl, (List.cons.inj (List.append_cancel_left h)).2⟩

/-- A smaller number behind a text makes what a greater one behind another makes exactly if the
first text goes on with a number, behind which the smaller one makes the greater. -/
theorem append_decimalDigits_eq_iff {a b : List Char} {m n : Nat} (hmn : m < n) :
  a ++ decimalDigits m = b ++ decimalDigits n ↔
    ∃ k, 0 < k ∧ a = b ++ decimalDigits k ∧ decimalDigits n = decimalDigits k ++ decimalDigits m
  := by
  constructor
  · intro h
    have hlength := length_decimalDigits_le (Nat.le_of_lt hmn)
    obtain ⟨w, hb, hdigits⟩ | ⟨w, ha, hdigits⟩ := List.append_eq_append_iff.mp h
    · have hw : w = [] := by
        apply List.length_eq_zero_iff.mp
        rw [hdigits, List.length_append] at hlength
        omega
      rw [hw, List.nil_append] at hdigits
      have := decimalDigits_injective hdigits
      omega
    · have hw : w ≠ [] := by
        rintro rfl
        have := decimalDigits_injective hdigits
        omega
      obtain ⟨k, hk, rfl⟩ := exists_decimalDigits_of_append (by omega) w _ hw hdigits
      use k
  · rintro ⟨k, -, rfl, hdigits⟩
    rw [hdigits, List.append_assoc]

/-! ### Case -/

theorem lower_append (a b : String) :
  lower (a ++ b) = lower a ++ lower b
  := by simp [lower, String.ofList_append]

/-- A digit has no case. -/
theorem toLower_of_isDigit {c : Char} (h : c.isDigit = true) :
  c.toLower = c
  := by
  have hnot : ¬ (c.val ≥ 65 ∧ c.val ≤ 90) := by
    obtain ⟨-, hmost⟩ := Char.isDigit_iff_toNat.mp h
    rintro ⟨hleast, -⟩
    have hleast : 65 ≤ c.toNat := hleast
    have hnine : '9'.toNat = 57 := rfl
    omega
  unfold Char.toLower
  simp [hnot]

/-- The text of a natural number has no case. -/
theorem toList_lower_decimalText (n : Nat) :
  (lower (decimalText n)).toList = decimalDigits n
  := by
  have hsame : ∀ c ∈ decimalDigits n, c.toLower = id c :=
    fun c hc => toLower_of_isDigit (isDigit_of_mem_decimalDigits hc)
  rw [lower, toList_decimalText, String.toList_ofList, List.map_congr_left hsame, List.map_id]

end Text

end EntityStore
