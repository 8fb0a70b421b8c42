import EntityStore.Value

/-!
# Values as numbers

Every stored value but null counts as a number where a number is needed: a text or bytes by
the number they begin with, which is zero if there is none.
-/

namespace EntityStore.Value

open Text

/-- The integer of 64 bits that is nearest to an integer. -/
def clamp (n : Int) : Int64 :=
  Int64.ofInt (max Int64.minValue.toInt (min n Int64.maxValue.toInt))

/-- An integer as a value: the nearest number if 64 bits do not suffice. -/
def ofInt (n : Int) : Value :=
  if (clamp n).toInt = n then int (clamp n) else double (Binary64.ofInt n)

/-- A number as a value; what is not a number is null. -/
def ofReal (x : Binary64) : Value :=
  if x.isNaN then null else double x

/-- Whether a character may stand before a number. -/
def precedesNumber (c : Char) : Bool :=
  c = ' ' || 9 ≤ c.toNat && c.toNat ≤ 13

/-- The integer with a sign and digits. -/
def signed (negative : Bool) (digits : List Nat) : Int :=
  if negative then -(ofDigits digits : Int) else ofDigits digits

/-- The sign and the digits of the integer at the beginning of a text, and what follows. -/
def leadingInteger (s : List Char) : Bool × List Nat × List Char :=
  let (negative, rest) := Binary64.leadingSign (s.dropWhile precedesNumber)
  (negative, Binary64.leadingDigits rest)

/-- The exponent at the beginning of a text, if there is one. -/
def leadingExponent? : List Char → Option Int
  | [] => none
  | c :: rest =>
    let (negative, digits, _) :=
      let (negative, rest) := Binary64.leadingSign rest
      (negative, Binary64.leadingDigits rest)
    if (c = 'e' ∨ c = 'E') ∧ digits ≠ [] then some (signed negative digits) else none

/-- The number at the beginning of a text.  It is an integer unless it has a point or an
exponent. -/
def leadingNumber (s : List Char) : Value :=
  let (negative, whole, rest) := leadingInteger s
  let (fraction?, rest) := match rest with
    | '.' :: rest =>
      let (fraction, rest) := Binary64.leadingDigits rest
      (some fraction, rest)
    | rest => (none, rest)
  let exponent? := leadingExponent? rest
  let fraction := fraction?.getD []
  if whole.isEmpty && fraction.isEmpty then int 0
  else if fraction?.isSome || exponent?.isSome then
    double (Binary64.ofDecimal negative (ofDigits (whole ++ fraction))
      (exponent?.getD 0 - fraction.length))
  else ofInt (signed negative whole)

/-- The value as a number, or null. -/
def numeric : Value → Value
  | bool b => int (if b then 1 else 0)
  | text s => leadingNumber s.toList
  | bytes b => leadingNumber (ofUtf8 b).toList
  | v => v

/-- The value as a double-precision number, unless it is null. -/
def real? (v : Value) : Option Binary64 :=
  v.numeric.asNumber?

/-- The value as an integer, unless it is null.  Fractions are cut off, and texts end where
the digits do. -/
def integer? : Value → Option Int64
  | bool b => some (if b then 1 else 0)
  | int n => some n
  | double x =>
    let extreme := if x.isNegative then Int64.minValue else Int64.maxValue
    some (x.truncate?.elim extreme clamp)
  | text s => some (ofText s.toList)
  | bytes b => some (ofText (ofUtf8 b).toList)
  | _ => none
where
  /-- The integer at the beginning of a text. -/
  ofText (s : List Char) : Int64 :=
    let (negative, digits, _) := leadingInteger s
    clamp (signed negative digits)

/-- Whether the value counts as true, unless it is null. -/
def truth? (v : Value) : Option Bool :=
  v.real?.map fun x => x.magnitude ≠ 0

/-- A truth value as it is stored. -/
def ofTruth : Option Bool → Value
  | none => null
  | some b => int (if b then 1 else 0)

end EntityStore.Value
