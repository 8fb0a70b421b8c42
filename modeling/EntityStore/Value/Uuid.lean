import EntityStore.Text.Ascii

/-!
# Unique identifiers

An identifier is sixteen bytes.  Its text has the 32 hexadecimal digits in groups
of 8, 4, 4, 4 and 12 with hyphens between them; the text may stand between braces
or behind `urn:uuid:`, and the digits may stand without hyphens.  The case of letters
does not matter.
-/

namespace EntityStore

open Text

/-- Sixteen bytes. -/
structure Uuid where
  bytes : List UInt8
  length_eq : bytes.length = 16
  deriving DecidableEq

namespace Uuid

/-- The identifier with the given bytes, if there are sixteen. -/
def ofBytes? (bytes : List UInt8) : Option Uuid :=
  if h : bytes.length = 16 then some ⟨bytes, h⟩ else none

/-- The lengths of the groups of digits, in bytes. -/
def groups : List Nat := [4, 2, 2, 2, 6]

/-- The two hexadecimal digits of a byte. -/
def byteText (b : UInt8) : List Char :=
  [hexDigit (b.toNat / 16), hexDigit (b.toNat % 16)]

/-- The bytes in groups of the given lengths, with hyphens between the groups. -/
def hyphenated : List Nat → List UInt8 → List Char
  | [], _ => []
  | [n], bytes => (bytes.take n).flatMap byteText
  | n :: ns, bytes => (bytes.take n).flatMap byteText ++ '-' :: hyphenated ns (bytes.drop n)

/-- The text of an identifier. -/
def text (u : Uuid) : String :=
  String.ofList (hyphenated groups u.bytes)

/-- The bytes written by pairs of hexadecimal digits. -/
def bytesOfHex? : List Char → Option (List UInt8)
  | [] => some []
  | [_] => none
  | c :: d :: rest => do
    let high ← hexDigit? c
    let low ← hexDigit? d
    let bytes ← bytesOfHex? rest
    return UInt8.ofNat (16 * high + low) :: bytes

/-- The bytes written in groups of the given lengths, with hyphens between the groups. -/
def bytesOfHyphenated? : List Nat → List Char → Option (List UInt8)
  | [], _ => none
  | [n], s => if s.length = 2 * n then bytesOfHex? s else none
  | n :: ns, s =>
    match s.drop (2 * n) with
    | '-' :: rest => do
      let bytes ← bytesOfHex? (s.take (2 * n))
      let more ← bytesOfHyphenated? ns rest
      return bytes ++ more
    | _ => none

/-- The text of an identifier without the braces or the name space around it. -/
def unwrapped (s : List Char) : List Char :=
  match s with
  | '\x7b' :: rest =>
    if s.length = 38 ∧ rest.getLast? = some '\x7d' then rest.dropLast else []
  | _ =>
    if s.length = 45 ∧ (s.take 9).map Char.toLower = "urn:uuid:".toList then s.drop 9 else s

/-- The identifier written by a text. -/
def ofText? (s : String) : Option Uuid :=
  let digits := unwrapped s.toList
  if digits.length = 32 then (bytesOfHex? digits).bind ofBytes?
  else (bytesOfHyphenated? groups digits).bind ofBytes?

end Uuid

end EntityStore
