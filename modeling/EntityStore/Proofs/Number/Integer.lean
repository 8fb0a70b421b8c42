import EntityStore.Number.Binary64
import Mathlib.Tactic.Common

/-!
# Integers as double-precision numbers

The number nearest to an integer is never no number.  It is zero for zero and has the sign of the
integer otherwise, and beyond one it is more than one.  So a truth value, which counts as zero or
one, has the same order with the number as with the integer.
-/

namespace EntityStore.Binary64

/-! ### Positions -/

/-- The position of the number with a sign and magnitude bits. -/
theorem position_ofMagnitude {m : Nat} (h : m ≤ infinityMagnitude) (negative : Bool) :
  (ofMagnitude negative m).isNaN = false ∧
    (ofMagnitude negative m).position = if negative then -(m : Int) else m
  := by
  have hinfinity : infinityMagnitude = 9218868437227405312 := by decide
  have hsign : signBit = 9223372036854775808 := by decide
  rw [ofMagnitude, if_neg (Nat.not_lt_of_le h)]
  unfold isNaN position isNegative magnitude
  cases negative <;> simp [UInt64.toNat_ofNat, hinfinity, hsign] at * <;> omega

/-- Rounding does not go below the integer quotient. -/
theorem div_le_roundHalfEven (num den : Nat) :
  num / den ≤ roundHalfEven num den
  := by
  unfold roundHalfEven
  dsimp only
  split
  · exact Nat.le_refl _
  · split <;> omega

/-- The exponent of the last binary place of an integer. -/
theorem lastPlace_one {n : Nat} (h : n ≠ 0) :
  lastPlace n 1 = (n.log2 : Int) - 52
  := by
  have hone : Nat.log2 1 = 0 := by decide
  have hreached : 2 ^ n.log2 ≤ n := Nat.log2_self_le h
  unfold lastPlace
  simp [Nat.shiftLeft_eq, hone, hreached]
  omega

/-- The significand of the number nearest to a positive integer has full length. -/
theorem leadingBit_le_significand {n : Nat} (h : n ≠ 0) :
  leadingBit ≤ if 52 ≤ n.log2 then roundHalfEven n (1 <<< (n.log2 - 52))
    else roundHalfEven (n <<< (52 - n.log2)) 1
  := by
  have hlead : 2 ^ n.log2 ≤ n := Nat.log2_self_le h
  have hbit : leadingBit = 2 ^ 52 := by decide
  rw [hbit]
  split
  · next hlong =>
      apply Nat.le_trans _ (div_le_roundHalfEven _ _)
      rw [Nat.shiftLeft_eq, Nat.one_mul, Nat.le_div_iff_mul_le (Nat.two_pow_pos _), ← Nat.pow_add,
        Nat.add_sub_cancel' hlong]
      exact hlead
  · next hshort =>
      apply Nat.le_trans _ (div_le_roundHalfEven _ _)
      rw [Nat.shiftLeft_eq, Nat.div_one]
      calc 2 ^ 52 = 2 ^ n.log2 * 2 ^ (52 - n.log2) := by rw [← Nat.pow_add]; congr 1; omega
        _ ≤ n * 2 ^ (52 - n.log2) := Nat.mul_le_mul_right _ hlead

/-- The magnitude bits of the number nearest to a positive integer are not below those of the
greatest power of two that is not above it. -/
theorem le_nearestMagnitude {n : Nat} (h : n ≠ 0) :
  min ((n.log2 + 1023) * leadingBit) infinityMagnitude ≤ nearestMagnitude n 1
  := by
  have hsignificand := leadingBit_le_significand h
  have hplace : ((n.log2 : Int) - 52 + 1074).toNat = n.log2 + 1022 := by omega
  have hlong : ((n.log2 : Int) - 52).toNat = n.log2 - 52 := by omega
  have hshort : (-((n.log2 : Int) - 52)).toNat = 52 - n.log2 := by omega
  have hiff : 0 ≤ (n.log2 : Int) - 52 ↔ 52 ≤ n.log2 := by omega
  rw [nearestMagnitude, if_neg h, lastPlace_one h]
  simp only [hplace, hlong, hshort, hiff]
  rw [Nat.succ_mul (n.log2 + 1022)]
  omega

/-- The magnitude bits of a number are none beyond those of infinity. -/
theorem nearestMagnitude_le (num den : Nat) :
  nearestMagnitude num den ≤ infinityMagnitude
  := by
  unfold nearestMagnitude
  split
  · exact Nat.zero_le _
  · exact Nat.min_le_right _ _

/-! ### Integers -/

/-- The number nearest to an integer is a number, and its position is that of its magnitude. -/
theorem position_ofInt (n : Int) :
  (ofInt n).isNaN = false ∧ (ofInt n).position =
    if n < 0 then -(nearestMagnitude n.natAbs 1 : Int) else nearestMagnitude n.natAbs 1
  := by
  obtain ⟨hnumber, hposition⟩ := position_ofMagnitude (nearestMagnitude_le n.natAbs 1)
    (decide (n < 0))
  exact ⟨hnumber, by simpa [ofInt, ofRatio] using hposition⟩

/-- The magnitude bits of the numbers nearest to zero, to one and to greater integers. -/
theorem nearestMagnitude_cases (n : Nat) :
  (n = 0 ∧ nearestMagnitude n 1 = 0) ∨ (n = 1 ∧ nearestMagnitude n 1 = 1023 * leadingBit) ∨
    (1 < n ∧ 1023 * leadingBit < nearestMagnitude n 1)
  := by
  obtain rfl | rfl | h : n = 0 ∨ n = 1 ∨ 1 < n := by omega
  · left
    decide
  · right
    left
    decide
  · right
    right
    have hlog : 1 ≤ n.log2 := (Nat.le_log2 (by omega)).mpr (by omega)
    have hle := le_nearestMagnitude (n := n) (by omega)
    have hmul := Nat.mul_le_mul_right leadingBit (Nat.add_le_add_right hlog 1023)
    have hinfinity : 1024 * leadingBit ≤ infinityMagnitude := by decide
    have hbit : 1023 * leadingBit < 1024 * leadingBit := by decide
    omega

/-- The numbers nearest to a truth value and to an integer have the order of these. -/
theorem position_lt_iff {b : Int} (hb : b = 0 ∨ b = 1) (n : Int) :
  ((ofInt b).position < (ofInt n).position ↔ b < n) ∧
    ((ofInt n).position < (ofInt b).position ↔ n < b)
  := by
  have hbit : 0 < 1023 * leadingBit := by decide
  have hn := nearestMagnitude_cases n.natAbs
  have hb' := nearestMagnitude_cases b.natAbs
  rw [(position_ofInt n).2, (position_ofInt b).2]
  omega

/-- A truth value has the same order with an integer as a number and as an integer. -/
theorem compare?_ofInt {b : Int} (hb : b = 0 ∨ b = 1) (n : Int) :
  (ofInt b).compare? (ofInt n) = some (compare b n) ∧
    (ofInt n).compare? (ofInt b) = some (compare n b)
  := by
  obtain ⟨hless, hgreater⟩ := position_lt_iff hb n
  have hcompare {a b c d : Int} (hless : a < b ↔ c < d) (hgreater : b < a ↔ d < c) :
      compare a b = compare c d := by
    simp only [Int.compare_eq_ite_lt, hless, hgreater]
  have hnumbers : ((ofInt b).isNaN || (ofInt n).isNaN) = false ∧
      ((ofInt n).isNaN || (ofInt b).isNaN) = false := by
    rw [(position_ofInt n).1, (position_ofInt b).1]
    exact ⟨rfl, rfl⟩
  unfold compare?
  rw [hnumbers.1, hnumbers.2, hcompare hless hgreater, hcompare hgreater hless]
  exact ⟨rfl, rfl⟩

end EntityStore.Binary64
