/-!
# Text as bytes

The bytes of a text in the UTF-8 encoding, and the text of any bytes.  Where bytes encode
no character, the longest run of them that begins one is read as the replacement character.
-/

namespace EntityStore.Text

/-- The bytes of a text. -/
def utf8 (s : String) : List UInt8 :=
  s.toUTF8.data.toList

/-- What is read for bytes that encode no character. -/
def replacement : Char := '\ufffd'

/-- A character of which the first bytes have been read. -/
structure OpenChar where
  /-- The number that the bytes so far encode. -/
  value : Nat
  /-- The number of bytes that are still missing, besides the next one. -/
  later : Nat
  /-- The least next byte. -/
  least : Nat := 0x80
  /-- The greatest next byte. -/
  greatest : Nat := 0xBF
  deriving DecidableEq, Repr

/-- What the first byte of a character gives: a whole character, one that goes on, or the
replacement character. -/
def firstByte (b : Nat) : List Char × Option OpenChar :=
  if b < 0x80 then ([Char.ofNat b], none)
  else if b < 0xC2 then ([replacement], none)
  else if b < 0xE0 then ([], some { value := b - 0xC0, later := 0 })
  else if b = 0xE0 then ([], some { value := 0, later := 1, least := 0xA0 })
  else if b = 0xED then ([], some { value := 0xD, later := 1, greatest := 0x9F })
  else if b < 0xF0 then ([], some { value := b - 0xE0, later := 1 })
  else if b = 0xF0 then ([], some { value := 0, later := 2, least := 0x90 })
  else if b = 0xF4 then ([], some { value := 4, later := 2, greatest := 0x8F })
  else if b < 0xF4 then ([], some { value := b - 0xF0, later := 2 })
  else ([replacement], none)

/-- What the next byte of a character gives.  A byte that does not belong to the character
begins another. -/
def nextByte (p : OpenChar) (b : Nat) : List Char × Option OpenChar :=
  if p.least ≤ b ∧ b ≤ p.greatest then
    let value := 64 * p.value + (b - 0x80)
    match p.later with
    | 0 => ([Char.ofNat value], none)
    | later + 1 => ([], some { value, later })
  else
    let (found, next) := firstByte b
    (replacement :: found, next)

/-- The characters of bytes after those of an open character. -/
def readBytes : Option OpenChar → List UInt8 → List Char
  | none, [] => []
  | some _, [] => [replacement]
  | reading, b :: rest =>
    let (found, next) := match reading with
      | none => firstByte b.toNat
      | some p => nextByte p b.toNat
    found ++ readBytes next rest

/-- The text of bytes. -/
def ofUtf8 (bytes : List UInt8) : String :=
  String.ofList (readBytes none bytes)

end EntityStore.Text
