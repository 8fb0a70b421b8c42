import EntityStore.Json
import EntityStore.Text.Ascii

/-!
# Reading JSON

A recursive descent over the characters of a document.  Every step of it takes at
least one character, so the length of the document bounds its depth.
-/

namespace EntityStore.Json

open Text

/-- Whether a character may stand between the parts of a document. -/
def isSpace (c : Char) : Bool :=
  c = ' ' || c = '\n' || c = '\t' || c = '\r'

/-- The characters from the first that is not a space. -/
def skipSpace (s : List Char) : List Char :=
  s.dropWhile isSpace

/-- The number written by four hexadecimal digits. -/
def hex4? : List Char → Option (Nat × List Char)
  | a :: b :: c :: d :: rest => do
    let n := [← hexDigit? a, ← hexDigit? b, ← hexDigit? c, ← hexDigit? d]
    return (n.foldl (fun n d => 16 * n + d) 0, rest)
  | _ => none

/-- The character of an escape of one letter. -/
def escape? (c : Char) : Option Char :=
  match c with
  | '"' => some '"'
  | '\\' => some '\\'
  | '/' => some '/'
  | 'b' => some '\x08'
  | 'f' => some '\x0c'
  | 'n' => some '\n'
  | 'r' => some '\r'
  | 't' => some '\t'
  | _ => none

/-- A piece of a text: a character or half of one. -/
inductive Unit16 where
  | char (c : Char)
  | high (n : Nat)
  | low (n : Nat)

/-- The piece with the given number. -/
def unit16 (n : Nat) : Unit16 :=
  if 0xD800 ≤ n ∧ n < 0xDC00 then .high (n - 0xD800)
  else if 0xDC00 ≤ n ∧ n < 0xE000 then .low (n - 0xDC00)
  else .char (Char.ofNat n)

/-- The characters of pieces, if the halves fit together. -/
def joinUnits : List Unit16 → Option (List Char)
  | [] => some []
  | .char c :: rest => (joinUnits rest).map (c :: ·)
  | .high n :: .low m :: rest =>
    (joinUnits rest).map (Char.ofNat (0x10000 + 0x400 * n + m) :: ·)
  | _ => none

/-- The pieces of a text up to the closing quote. -/
def units? : (fuel : Nat) → List Char → Option (List Unit16 × List Char)
  | 0, _ => none
  | fuel + 1, s =>
    match s with
    | [] => none
    | '"' :: rest => some ([], rest)
    | '\\' :: 'u' :: rest => do
      let (n, rest) ← hex4? rest
      let (more, rest) ← units? fuel rest
      return (unit16 n :: more, rest)
    | '\\' :: c :: rest => do
      let c ← escape? c
      let (more, rest) ← units? fuel rest
      return (.char c :: more, rest)
    | c :: rest =>
      if c.toNat < 0x20 ∨ c = '\\' then none
      else do
        let (more, rest) ← units? fuel rest
        return (.char c :: more, rest)

/-- A text behind its opening quote. -/
def textBody? (s : List Char) : Option (Option String × List Char) := do
  let (units, rest) ← units? (s.length + 1) s
  return ((joinUnits units).map String.ofList, rest)

/-- The whole part of a number: a zero, or digits that do not begin with one. -/
def whole? (s : List Char) : Option (List Char × List Char) :=
  match s with
  | '0' :: rest =>
    match rest with
    | c :: _ => if c.isDigit then none else some (['0'], rest)
    | [] => some (['0'], rest)
  | s =>
    let digits := s.takeWhile Char.isDigit
    if digits.isEmpty then none else some (digits, s.dropWhile Char.isDigit)

/-- One or more digits. -/
def someDigits? (s : List Char) : Option (List Char × List Char) :=
  let digits := s.takeWhile Char.isDigit
  if digits.isEmpty then none else some (digits, s.dropWhile Char.isDigit)

/-- The fraction of a number, with its point. -/
def fraction? : List Char → Option (List Char × List Char)
  | '.' :: rest => (someDigits? rest).map fun (ds, rest) => ('.' :: ds, rest)
  | s => some ([], s)

/-- The exponent of a number, with its letter. -/
def exponent? : List Char → Option (List Char × List Char)
  | [] => some ([], [])
  | c :: rest =>
    if c = 'e' ∨ c = 'E' then
      match rest with
      | '+' :: rest => (someDigits? rest).map fun (ds, rest) => (c :: '+' :: ds, rest)
      | '-' :: rest => (someDigits? rest).map fun (ds, rest) => (c :: '-' :: ds, rest)
      | rest => (someDigits? rest).map fun (ds, rest) => (c :: ds, rest)
    else some ([], c :: rest)

/-- A number as it is written. -/
def number? (s : List Char) : Option (Json × List Char) := do
  let (sign, rest) := match s with
    | '-' :: rest => (['-'], rest)
    | s => ([], s)
  let (whole, rest) ← whole? rest
  let (fraction, rest) ← fraction? rest
  let (exponent, rest) ← exponent? rest
  return (number (String.ofList (sign ++ whole ++ fraction ++ exponent)), rest)

/-- What follows a word at the beginning of a text. -/
def word? (word : String) (s : List Char) : Option (List Char) :=
  if word.toList.isPrefixOf s then some (s.drop word.length) else none

mutual

/-- A value at the beginning of a text. -/
def value? : (fuel : Nat) → List Char → Option (Json × List Char)
  | 0, _ => none
  | fuel + 1, s =>
    match skipSpace s with
    | 'n' :: rest => (word? "ull" rest).map fun rest => (null, rest)
    | 't' :: rest => (word? "rue" rest).map fun rest => (bool true, rest)
    | 'f' :: rest => (word? "alse" rest).map fun rest => (bool false, rest)
    | '"' :: rest => (textBody? rest).map fun (s, rest) => (text s, rest)
    | '[' :: rest =>
      match skipSpace rest with
      | ']' :: rest => some (array [], rest)
      | rest => (items? fuel rest).map fun (items, rest) => (array items, rest)
    | '\x7b' :: rest =>
      match skipSpace rest with
      | '\x7d' :: rest => some (object [], rest)
      | rest => (members? fuel rest).map fun (members, rest) => (object members, rest)
    | s => number? s

/-- The items of an array up to its end, of which there is at least one. -/
def items? : (fuel : Nat) → List Char → Option (List Json × List Char)
  | 0, _ => none
  | fuel + 1, s => do
    let (item, rest) ← value? fuel s
    match skipSpace rest with
    | ']' :: rest => return ([item], rest)
    | ',' :: rest => do
      let (more, rest) ← items? fuel rest
      return (item :: more, rest)
    | _ => none

/-- The members of an object up to its end, of which there is at least one. -/
def members? : (fuel : Nat) → List Char → Option (List (Option String × Json) × List Char)
  | 0, _ => none
  | fuel + 1, s => do
    let '"' :: rest := skipSpace s | none
    let (key, rest) ← textBody? rest
    let ':' :: rest := skipSpace rest | none
    let (item, rest) ← value? fuel rest
    match skipSpace rest with
    | '\x7d' :: rest => return ([(key, item)], rest)
    | ',' :: rest => do
      let (more, rest) ← members? fuel rest
      return ((key, item) :: more, rest)
    | _ => none

end

/-- The document a text writes. -/
def ofText? (s : String) : Option Json := do
  let (value, rest) ← value? (2 * s.length + 2) s.toList
  if (skipSpace rest).isEmpty then some value else none

end EntityStore.Json
