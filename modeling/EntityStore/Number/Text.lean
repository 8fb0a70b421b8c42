import EntityStore.Number.Shortest
import EntityStore.Text.Ascii

/-!
# Numbers as text

The decimal text of integers and of double-precision numbers, and the reading of a
double-precision number from text.
-/

namespace EntityStore

open Text

/-- The decimal text of an integer. -/
def decimalText (n : Int) : String :=
  String.ofList (if n < 0 then '-' :: decimalDigits n.natAbs else decimalDigits n.natAbs)

namespace Binary64

/-- How a double-precision number is written. -/
structure Style where
  /-- Whether a whole number gets a point and a zero. -/
  point : Bool
  /-- Numbers at least this large or below this small are written with a power of
  ten, given by the place above the leading digit. -/
  positional : Option (Int × Int)

/-- Never a power of ten, and no point for whole numbers. -/
def plain : Style := ⟨false, none⟩

/-- Positional between `1e-4` and `1e16`, where whole numbers have a point. -/
def detailed : Style := ⟨true, some (-3, 16)⟩

/-- Digits with a point before place `place` of them, counted from the left. -/
def positionalText (style : Style) (digits : List Char) (place : Int) : List Char :=
  if place ≤ 0 then ['0', '.'] ++ List.replicate (-place).toNat '0' ++ digits
  else if place < digits.length then
    digits.take place.toNat ++ ['.'] ++ digits.drop place.toNat
  else
    digits ++ List.replicate (place.toNat - digits.length) '0' ++
      (if style.point then ['.', '0'] else [])

/-- Digits with a point after the first, and the power of ten. -/
def scientificText (digits : List Char) (place : Int) : List Char :=
  digits.take 1 ++ (if digits.length ≤ 1 then [] else '.' :: digits.drop 1) ++
    ['e'] ++ (decimalText (place - 1)).toList

/-- The decimal without zeros at its end. -/
def withoutTrailingZeros (digits : List Char) : List Char :=
  match (digits.reverse.dropWhile (· == '0')).reverse with
  | [] => ['0']
  | ds => ds

/-- The text of a positive decimal. -/
def magnitudeText (style : Style) (d : Decimal) : List Char :=
  let written := decimalDigits d.digits
  let place : Int := written.length + d.exponent
  let digits := withoutTrailingZeros written
  match style.positional with
  | some (least, most) =>
    if place < least ∨ most < place then scientificText digits place
    else positionalText style digits place
  | none => positionalText style digits place

/-- The text of a number. -/
def text (style : Style) (x : Binary64) : String :=
  match x.view with
  | .nan => "NaN"
  | .infinite s => if s then "-inf" else "inf"
  | .finite s m e =>
    let body :=
      if m = 0 then if style.point then ['0', '.', '0'] else ['0']
      else magnitudeText style (shortest m e)
    String.ofList (if s then '-' :: body else body)

/-! ### Reading -/

/-- The number `digits * 10 ^ exponent`, where exponents beyond all numbers of the
format give infinity or zero. -/
def ofDecimal (negative : Bool) (digits : Nat) (exponent : Int) : Binary64 :=
  let place : Int := (decimalDigits digits).length + exponent
  if digits = 0 ∨ place < -400 then zero negative
  else if 400 < place then infinity negative
  else if 0 ≤ exponent then ofRatio negative (digits * Nat.pow 10 exponent.toNat) 1
  else ofRatio negative digits (Nat.pow 10 (-exponent).toNat)

/-- The leading decimal digits of a text and what follows them. -/
def leadingDigits (s : List Char) : List Nat × List Char :=
  ((s.takeWhile Char.isDigit).filterMap digit?, s.dropWhile Char.isDigit)

/-- A sign and what follows it. -/
def leadingSign : List Char → Bool × List Char
  | '-' :: rest => (true, rest)
  | '+' :: rest => (false, rest)
  | s => (false, s)

/-- The exponent part of a number, which must be the rest of the text. -/
def exponent? : List Char → Option Int
  | [] => some 0
  | c :: rest =>
    if c = 'e' ∨ c = 'E' then
      let (negative, rest) := leadingSign rest
      match leadingDigits rest with
      | ([], _) | (_, _ :: _) => none
      | (ds, []) => some (if negative then -(ofDigits ds : Int) else ofDigits ds)
    else none

/-- Digits with an optional point and exponent. -/
def unsigned? (negative : Bool) (s : List Char) : Option Binary64 :=
  let (whole, rest) := leadingDigits s
  let (fraction, rest) := match rest with
    | '.' :: rest => leadingDigits rest
    | rest => ([], rest)
  if whole.isEmpty && fraction.isEmpty then none
  else (exponent? rest).map fun e =>
    ofDecimal negative (ofDigits (whole ++ fraction)) (e - fraction.length)

/-- The number written by a text: a decimal with an optional sign, point and
exponent, or the name of infinity or of the value that is no number. -/
def ofText? (s : String) : Option Binary64 :=
  let (negative, rest) := leadingSign s.toList
  match String.ofList (rest.map Char.toLower) with
  | "inf" | "infinity" => some (infinity negative)
  | "nan" => some nan
  | _ => unsigned? negative rest

end Binary64

end EntityStore
