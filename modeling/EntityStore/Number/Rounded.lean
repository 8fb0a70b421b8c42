import EntityStore.Number.Text

/-!
# Numbers in fifteen digits

The text of a double-precision number rounded to fifteen decimal digits, always with a
point, as a database writes it where it joins texts.
-/

namespace EntityStore.Binary64

open Text

/-- The number of digits. -/
def digitLimit : Nat := 15

/-- The leading digits of the positive number `m * 2 ^ e`, rounded, and the place of the
point, counted from the left. -/
def leadingDigitsOf (m : Nat) (e : Int) : List Char × Int :=
  let (num, den) : Nat × Nat := if 0 ≤ e then (m <<< e.toNat, 1) else (m, 1 <<< (-e).toNat)
  let place := leadingPlace (num, den)
  let shift := (digitLimit : Int) - place
  let (num, den) :=
    if 0 ≤ shift then (num * Nat.pow 10 shift.toNat, den)
    else (num, den * Nat.pow 10 (-shift).toNat)
  let digits := decimalDigits ((2 * num + den) / (2 * den))
  (digits.take digitLimit, place + (digits.length - digitLimit : Nat))

/-- The text of a number.  The power of ten has a sign and two digits at least. -/
def roundedText (x : Binary64) : String :=
  match x.view with
  | .nan => ""
  | .infinite s => if s then "-Inf" else "Inf"
  | .finite s m e =>
    let body :=
      if m = 0 then ['0', '.', '0']
      else
        let (digits, place) := leadingDigitsOf m e
        let digits := withoutTrailingZeros digits
        if place < -3 ∨ digitLimit < place then
          let exponent := place - 1
          digits.take 1 ++ ['.'] ++ (if digits.length ≤ 1 then ['0'] else digits.drop 1) ++
            ['e', if exponent < 0 then '-' else '+'] ++
            padLeft 2 '0' (decimalDigits exponent.natAbs)
        else positionalText detailed digits place
    String.ofList (if s then '-' :: body else body)

end EntityStore.Binary64
