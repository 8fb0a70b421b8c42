/-!
# Double-precision numbers

A number of the 64-bit binary floating-point format is kept as its bits: the sign,
eleven bits of exponent and 52 of fraction.  Its view is a sign with either
infinity or an integer times a power of two.  Every operation is carried out on
exact integers and ends in one rounding to the nearest number of the format, with
ties to the even neighbour.
-/

namespace EntityStore

/-- A double-precision number.  All bit patterns that stand for no number are
read as one. -/
structure Binary64 where
  bits : UInt64
  deriving DecidableEq, Inhabited

namespace Binary64

/-- What the bits of a number say. -/
inductive View where
  | nan
  | infinite (negative : Bool)
  /-- The value `significand * 2 ^ exponent`, negated if `negative`. -/
  | finite (negative : Bool) (significand : Nat) (exponent : Int)
  deriving DecidableEq

/-- The bit of the sign. -/
def signBit : Nat := 1 <<< 63

/-- The lowest significand of full length. -/
def leadingBit : Nat := 1 <<< 52

/-- The bits of positive infinity. -/
def infinityMagnitude : Nat := 0x7FF * leadingBit

/-- The bits of the value that is no number. -/
def nan : Binary64 := ⟨0x7FF8000000000000⟩

/-- The bits without the sign. -/
def magnitude (x : Binary64) : Nat :=
  x.bits.toNat % signBit

/-- Whether the sign bit is set. -/
def isNegative (x : Binary64) : Bool :=
  signBit ≤ x.bits.toNat

/-- The number with the given sign and magnitude bits. -/
def ofMagnitude (negative : Bool) (magnitude : Nat) : Binary64 :=
  if infinityMagnitude < magnitude then nan
  else ⟨UInt64.ofNat ((if negative then signBit else 0) + magnitude)⟩

/-- The number with the given bits. -/
def ofBits (bits : UInt64) : Binary64 :=
  ofMagnitude (signBit ≤ bits.toNat) (bits.toNat % signBit)

/-- The view of a number. -/
def view (x : Binary64) : View :=
  let m := x.magnitude
  if infinityMagnitude < m then .nan
  else if m = infinityMagnitude then .infinite x.isNegative
  else if m < leadingBit then .finite x.isNegative m (-1074)
  else .finite x.isNegative (m % leadingBit + leadingBit) (m / leadingBit - 1075)

/-- The integer nearest to `num / den`, ties to the even one. -/
def roundHalfEven (num den : Nat) : Nat :=
  let q := num / den
  let r := num % den
  if 2 * r < den then q
  else if den < 2 * r then q + 1
  else q + q % 2

/-- The exponent of the last binary place of the number nearest to `num / den`. -/
def lastPlace (num den : Nat) : Int :=
  let guess : Int := (Nat.log2 num : Int) - (Nat.log2 den : Int)
  let reached : Bool :=
    if 0 ≤ guess then den <<< guess.toNat ≤ num else den ≤ num <<< (-guess).toNat
  max ((if reached then guess else guess - 1) - 52) (-1074)

/-- The magnitude bits of the number nearest to `num / den`. -/
def nearestMagnitude (num den : Nat) : Nat :=
  if num = 0 then 0
  else
    let place := lastPlace num den
    let significand :=
      if 0 ≤ place then roundHalfEven num (den <<< place.toNat)
      else roundHalfEven (num <<< (-place).toNat) den
    min ((place + 1074).toNat * leadingBit + significand) infinityMagnitude

/-- The number nearest to `num / den`, negated if `negative`. -/
def ofRatio (negative : Bool) (num den : Nat) : Binary64 :=
  ofMagnitude negative (nearestMagnitude num den)

/-- The number nearest to an integer. -/
def ofInt (n : Int) : Binary64 :=
  ofRatio (n < 0) n.natAbs 1

/-- The number nearest to `significand * 2 ^ exponent`, negated if `negative`. -/
def ofScaled (negative : Bool) (significand : Nat) (exponent : Int) : Binary64 :=
  if 0 ≤ exponent then ofRatio negative (significand <<< exponent.toNat) 1
  else ofRatio negative significand (1 <<< (-exponent).toNat)

/-- Infinity of the given sign. -/
def infinity (negative : Bool) : Binary64 :=
  ofMagnitude negative infinityMagnitude

/-- Zero of the given sign. -/
def zero (negative : Bool) : Binary64 :=
  ofMagnitude negative 0

/-! ### Order -/

/-- The position of a number in the order of all numbers; the two zeros share one. -/
def position (x : Binary64) : Int :=
  if x.isNegative then -(x.magnitude : Int) else x.magnitude

/-- Whether the bits stand for no number. -/
def isNaN (x : Binary64) : Bool :=
  infinityMagnitude < x.magnitude

/-- The order of two numbers, if both are numbers. -/
def compare? (x y : Binary64) : Option Ordering :=
  if x.isNaN || y.isNaN then none else some (compare x.position y.position)

/-! ### Arithmetic -/

/-- The number without its sign. -/
def abs (x : Binary64) : Binary64 :=
  ofMagnitude false x.magnitude

/-- The number with the other sign. -/
def neg (x : Binary64) : Binary64 :=
  ofMagnitude (!x.isNegative) x.magnitude

/-- The integer `significand * 2 ^ exponent` with a sign, at the place `place` or lower. -/
private def aligned (negative : Bool) (significand : Nat) (shift : Int) : Int :=
  let n : Int := (significand <<< shift.toNat : Nat)
  if negative then -n else n

/-- The sum. -/
def add (x y : Binary64) : Binary64 :=
  match x.view, y.view with
  | .nan, _ | _, .nan => nan
  | .infinite s, .infinite t => if s = t then infinity s else nan
  | .infinite s, _ | _, .infinite s => infinity s
  | .finite s m e, .finite t n f =>
    let place := min e f
    let sum := aligned s m (e - place) + aligned t n (f - place)
    if sum = 0 then zero (s && t) else ofScaled (sum < 0) sum.natAbs place

/-- The product. -/
def mul (x y : Binary64) : Binary64 :=
  match x.view, y.view with
  | .nan, _ | _, .nan => nan
  | .infinite s, .infinite t => infinity (s ^^ t)
  | .infinite s, .finite t n _ | .finite s n _, .infinite t =>
    if n = 0 then nan else infinity (s ^^ t)
  | .finite s m e, .finite t n f => ofScaled (s ^^ t) (m * n) (e + f)

/-- The quotient. -/
def div (x y : Binary64) : Binary64 :=
  match x.view, y.view with
  | .nan, _ | _, .nan => nan
  | .infinite _, .infinite _ => nan
  | .infinite s, .finite t _ _ => infinity (s ^^ t)
  | .finite s _ _, .infinite t => zero (s ^^ t)
  | .finite s m e, .finite t n f =>
    if n = 0 then if m = 0 then nan else infinity (s ^^ t)
    else if 0 ≤ e - f then ofRatio (s ^^ t) (m <<< (e - f).toNat) n
    else ofRatio (s ^^ t) m (n <<< (f - e).toNat)

/-- The nearest integer, with halves going away from zero.  The sign is kept, also
that of a result of zero. -/
def round (x : Binary64) : Binary64 :=
  match x.view with
  | .finite s m e =>
    if 0 ≤ e then x
    else
      let unit := 1 <<< (-e).toNat
      ofRatio s ((2 * m + unit) / (2 * unit)) 1
  | _ => x

/-- The integer of a number without its fraction, if the number is finite. -/
def truncate? (x : Binary64) : Option Int :=
  match x.view with
  | .finite s m e =>
    let n : Int := (if 0 ≤ e then m <<< e.toNat else m >>> (-e).toNat : Nat)
    some (if s then -n else n)
  | _ => none

/-- One step of a power by repeated squaring for each binary digit of the exponent,
lowest first. -/
def powerLoop (base acc : Binary64) (n : Nat) : Binary64 :=
  let acc := if n % 2 = 1 then acc.mul base else acc
  if h : n / 2 = 0 then acc
  else powerLoop (base.mul base) acc (n / 2)
termination_by n
decreasing_by omega

/-- The power to an integer exponent by repeated squaring; a negative exponent takes
the reciprocal of the positive power. -/
def power (base : Binary64) (exponent : Int) : Binary64 :=
  let result := powerLoop base (ofInt 1) exponent.natAbs
  if exponent < 0 then (ofInt 1).div result else result

end Binary64

end EntityStore
