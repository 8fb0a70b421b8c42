import EntityStore.Number.Binary64

/-!
# Shortest decimals

Among the decimals that round to a given double-precision number, the ones with
the fewest digits are found on successively finer decimal grids.  On each grid only
the two neighbours of the number have to be looked at.
-/

namespace EntityStore.Binary64

/-- The decimal `digits * 10 ^ exponent`. -/
structure Decimal where
  digits : Nat
  exponent : Int
  deriving DecidableEq, Repr

namespace Decimal

/-- The ratio `unit * 2 ^ place` as numerator and denominator of whole numbers. -/
private def dyadic (unit : Nat) (place : Int) : Nat × Nat :=
  if 0 ≤ place then (unit <<< place.toNat, 1) else (unit, 1 <<< (-place).toNat)

/-- The decimal as numerator and denominator of whole numbers. -/
def ratio (d : Decimal) : Nat × Nat :=
  if 0 ≤ d.exponent then (d.digits * Nat.pow 10 d.exponent.toNat, 1)
  else (d.digits, Nat.pow 10 (-d.exponent).toNat)

/-- Whether the first ratio is at most the second. -/
def ratioLe (a b : Nat × Nat) : Bool :=
  a.1 * b.2 ≤ b.1 * a.2

end Decimal

open Decimal

/-- Whether a decimal rounds to the number `m * 2 ^ e`: it lies between the middles to
the two neighbouring numbers, which count if `m` is even. -/
def roundsTo (m : Nat) (e : Int) (d : Decimal) : Bool :=
  let low := dyadic (if m = leadingBit ∧ -1074 < e then 4 * m - 1 else 4 * m - 2) (e - 2)
  let high := dyadic (4 * m + 2) (e - 2)
  if m % 2 = 0 then ratioLe low d.ratio && ratioLe d.ratio high
  else !ratioLe d.ratio low && !ratioLe high d.ratio

/-- Up to `fuel` steps from `place` to the first place above the leading digit of a ratio. -/
def leadingPlaceFrom (value : Nat × Nat) (place : Int) : (fuel : Nat) → Int
  | 0 => place
  | fuel + 1 =>
    if ratioLe (Decimal.ratio ⟨1, place⟩) value then leadingPlaceFrom value (place + 1) fuel
    else place

/-- The place above the leading decimal digit of a positive ratio. -/
def leadingPlace (value : Nat × Nat) : Int :=
  let binary : Int := (Nat.log2 value.1 : Int) - (Nat.log2 value.2 : Int)
  leadingPlaceFrom value (binary * 30103 / 100000 - 1) 5

/-- The decimal on the grid of step `10 ^ place` that rounds to `m * 2 ^ e`; of two
the nearer, and of two equally near the larger. -/
def onGrid? (m : Nat) (e : Int) (place : Int) : Option Decimal :=
  let (num, den) := dyadic m e
  let (num, den) :=
    if 0 ≤ place then (num, den * Nat.pow 10 place.toNat)
    else (num * Nat.pow 10 (-place).toNat, den)
  let below : Decimal := ⟨num / den, place⟩
  let above : Decimal := ⟨num / den + 1, place⟩
  match roundsTo m e below, roundsTo m e above with
  | true, true => some (if 2 * (num % den) < den then below else above)
  | true, false => some below
  | false, true => some above
  | false, false => none

/-- The first hit on the grids with `17 - fuel + 1` and more digits. -/
def shortestFrom (m : Nat) (e : Int) (leading : Int) : (fuel : Nat) → Decimal
  | 0 => ⟨0, 0⟩
  | fuel + 1 =>
    match onGrid? m e (leading - (17 - fuel)) with
    | some d => d
    | none => shortestFrom m e leading fuel

/-- The decimal with the fewest digits that rounds to `m * 2 ^ e`. -/
def shortest (m : Nat) (e : Int) : Decimal :=
  shortestFrom m e (leadingPlace (dyadic m e)) 17

end EntityStore.Binary64
