/-!
# ASCII letters in text

Names of tables, columns and helpers are compared without regard to the case of
the ASCII letters; every other character stands for itself.
-/

namespace EntityStore.Text

/-- The text with its ASCII capital letters made small. -/
def lower (s : String) : String :=
  String.ofList (s.toList.map Char.toLower)

/-- The text with its ASCII small letters made capital. -/
def upper (s : String) : String :=
  String.ofList (s.toList.map Char.toUpper)

/-- Whether two names are equal up to the case of their ASCII letters. -/
def sameName (a b : String) : Bool :=
  lower a == lower b

/-- Whether `part` occurs in `whole` as a run of adjacent characters. -/
def occursIn (part : List Char) : List Char → Bool
  | [] => part.isEmpty
  | c :: rest => part.isPrefixOf (c :: rest) || occursIn part rest

/-- The pieces of a list between the elements with a property. -/
def splitWhere {α : Type} (p : α → Bool) : List α → List (List α)
  | [] => [[]]
  | c :: rest =>
    if p c then [] :: splitWhere p rest
    else match splitWhere p rest with
      | [] => [[c]]
      | piece :: pieces => (c :: piece) :: pieces

/-- The pieces of a list, such as a text, between the occurrences of `separator`. -/
def splitAt {α : Type} [DecidableEq α] (separator : α) : List α → List (List α) :=
  splitWhere (· = separator)

/-- The numeric value of a decimal digit. -/
def digit? (c : Char) : Option Nat :=
  if '0' ≤ c ∧ c ≤ '9' then some (c.toNat - '0'.toNat) else none

/-- The numeric value of a hexadecimal digit of either case. -/
def hexDigit? (c : Char) : Option Nat :=
  if '0' ≤ c ∧ c ≤ '9' then some (c.toNat - '0'.toNat)
  else if 'a' ≤ c ∧ c ≤ 'f' then some (c.toNat - 'a'.toNat + 10)
  else if 'A' ≤ c ∧ c ≤ 'F' then some (c.toNat - 'A'.toNat + 10)
  else none

/-- The small hexadecimal digit of a number below sixteen. -/
def hexDigit (n : Nat) : Char :=
  if n < 10 then Char.ofNat ('0'.toNat + n) else Char.ofNat ('a'.toNat + (n - 10))

/-- The hexadecimal digits of a number, most significant first, without leading zeros. -/
def hexDigits (n : Nat) : List Char :=
  Nat.toDigits 16 n

/-- The decimal digits of a number, most significant first. -/
def decimalDigits (n : Nat) : List Char :=
  Nat.toDigits 10 n

/-- The number written by a list of decimal digits. -/
def ofDigits (digits : List Nat) : Nat :=
  digits.foldl (fun n d => n * 10 + d) 0

/-- The text filled up on the left to `width` characters. -/
def padLeft (width : Nat) (fill : Char) (s : List Char) : List Char :=
  List.replicate (width - s.length) fill ++ s

@[simp] theorem sameName_refl (a : String) :
  sameName a a = true
  := by simp [sameName]

theorem sameName_iff {a b : String} :
  sameName a b = true ↔ lower a = lower b
  := by simp [sameName]

theorem sameName_comm (a b : String) :
  sameName a b = sameName b a
  := by simp only [sameName, BEq.comm]

theorem sameName_symm {a b : String} (h : sameName a b = true) :
  sameName b a = true
  := sameName_comm a b ▸ h

theorem sameName_trans {a b c : String} (h : sameName a b = true) (h' : sameName b c = true) :
  sameName a c = true
  := sameName_iff.mpr ((sameName_iff.mp h).trans (sameName_iff.mp h'))

end EntityStore.Text
