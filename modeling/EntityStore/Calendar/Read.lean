import EntityStore.Calendar.Fields
import EntityStore.Calendar.Render

/-!
# Reading timestamps

A text is read along the items of a format.  Blank characters before a number do
not count, and a blank item stands for any number of blank characters.
-/

namespace EntityStore.Calendar

open Text

/-- What is left of a text, and the fields read so far. -/
structure Reading where
  rest : List Char
  fields : Fields

namespace Reading

/-- The number at the beginning of a text, with at least one and at most `width` digits. -/
def digits? (width : Option Nat) (s : List Char) : Option (Int × List Char) :=
  let all := s.takeWhile Char.isDigit
  let written := match width with
    | some w => all.take w
    | none => all
  let n := ofDigits (written.filterMap digit?)
  if written.isEmpty ∨ 9223372036854775807 < n then none
  else some (n, s.drop written.length)

/-- A number that may have a sign; with one it may have any number of digits. -/
def signed? (width : Option Nat) : List Char → Option (Int × List Char)
  | '-' :: rest => (digits? none rest).map fun (n, rest) => (-n, rest)
  | '+' :: rest => digits? none rest
  | s => digits? width s

/-- The field, the number of digits and the possible sign of a number in a timestamp. -/
def shape : NumberPart → Field × Option Nat × Bool
  | .year => (.year, some 4, true)
  | .century => (.century, some 2, false)
  | .yearOfCentury => (.yearOfCentury, some 2, false)
  | .weekYear => (.weekYear, some 4, true)
  | .weekYearOfCentury => (.weekYearOfCentury, some 2, false)
  | .quarter => (.quarter, some 1, false)
  | .month => (.month, some 2, false)
  | .day => (.day, some 2, false)
  | .weekFromSunday => (.weekFromSunday, some 2, false)
  | .weekFromMonday => (.weekFromMonday, some 2, false)
  | .isoWeek => (.isoWeek, some 2, false)
  | .dayFromSunday => (.weekday, some 1, false)
  | .dayFromMonday => (.weekday, some 1, false)
  | .dayOfYear => (.dayOfYear, some 3, false)
  | .hour => (.hourOfHalf, some 2, false)
  | .hour12 => (.hourOfHalf, some 2, false)
  | .minute => (.minute, some 2, false)
  | .second => (.second, some 2, false)
  | .nanosecond => (.nanosecond, some 9, false)
  | .unixSeconds => (.unixSeconds, none, false)

/-- The fields with the number of a part. -/
def store? (part : NumberPart) (n : Int) (fields : Fields) : Option Fields :=
  match part with
  | .hour => do
    let fields ← fields.set? .half (n / 12)
    fields.set? .hourOfHalf (n % 12)
  | .hour12 =>
    if 1 ≤ n ∧ n ≤ 12 then fields.set? .hourOfHalf (n % 12) else none
  | .dayFromSunday => if n ≤ 6 then fields.set? .weekday ((n + 6) % 7) else none
  | .dayFromMonday => fields.set? .weekday (n - 1)
  | part => fields.set? (shape part).1 n

/-- The position of the first name whose first three letters begin a text, without
regard to case, and what follows the letters. -/
def shortName? (names : List String) (s : List Char) : Option (Nat × List Char) :=
  let start := (s.take 3).map Char.toLower
  (names.findIdx? fun name => (name.toList.take 3).map Char.toLower == start).map
    fun i => (i, s.drop 3)

/-- The same, with the rest of the name if the text goes on with it. -/
def longName? (names : List String) (s : List Char) : Option (Nat × List Char) := do
  let (i, rest) ← shortName? names s
  let tail := ((names.getD i "").toList.drop 3).map Char.toLower
  if (rest.take tail.length).map Char.toLower = tail then some (i, rest.drop tail.length)
  else some (i, rest)

/-- A fraction of a second with any number of digits, of which nine count. -/
def fraction? (s : List Char) : Option (Int × List Char) :=
  let all := s.takeWhile Char.isDigit
  let written := all.take 9
  if written.isEmpty then none
  else
    some (ofDigits (written.filterMap digit?) * Nat.pow 10 (9 - written.length),
      s.drop all.length)

/-- A fraction of a second with exactly so many digits. -/
def fixedFraction? (count : Nat) (s : List Char) : Option (Int × List Char) :=
  let written := (s.take count).takeWhile Char.isDigit
  if written.length = count then
    some (ofDigits (written.filterMap digit?) * Nat.pow 10 (9 - count), s.drop count)
  else none

/-- The two digits at the beginning of a text. -/
def twoDigits? : List Char → Option (Nat × Nat × List Char)
  | c :: d :: rest => do
    let tens ← digit? c
    let ones ← digit? d
    return (tens, ones, rest)
  | _ => none

/-- The minutes of an offset. -/
def offsetMinutes? (mayLack : Bool) (s : List Char) : Option (Nat × List Char) :=
  match s with
  | [] => if mayLack then some (0, []) else none
  | s => do
    let (tens, ones, rest) ← twoDigits? s
    if tens < 6 then some (10 * tens + ones, rest) else none

/-- An offset in seconds: a sign, two digits of hours, and two of minutes behind colons
and blanks. -/
def offset? (zulu mayLack : Bool) (s : List Char) : Option (Int × List Char) :=
  match s with
  | [] => none
  | c :: rest =>
    if zulu && (c = 'Z' || c = 'z') then some (0, rest)
    else if c = '+' ∨ c = '-' ∨ c = '\u2212' then do
      let (tens, ones, rest) ← twoDigits? rest
      let rest := rest.dropWhile fun c => c = ':' || isBlank c
      let (minutes, rest) ← offsetMinutes? mayLack rest
      let seconds : Int := 3600 * (10 * tens + ones : Nat) + 60 * minutes
      return (if c = '+' then seconds else -seconds, rest)
    else none

/-- The reading with a number stored in a field. -/
def put? (reading : Reading) (field : Field) (read : Option (Int × List Char)) :
    Option Reading := do
  let (n, rest) ← read
  let fields ← reading.fields.set? field n
  return ⟨rest, fields⟩

/-- Reads an item other than a timestamp of the international standard. -/
def simple? (reading : Reading) (item : Item) : Option Reading :=
  match item with
  | .literal c =>
    match reading.rest with
    | d :: rest => if d = c then some ⟨rest, reading.fields⟩ else none
    | [] => none
  | .blank _ => some ⟨trimStart reading.rest, reading.fields⟩
  | .number part _ => do
    let (_, width, withSign) := shape part
    let s := trimStart reading.rest
    let (n, rest) ← if withSign then signed? width s else digits? width s
    let fields ← store? part n reading.fields
    return ⟨rest, fields⟩
  | .fixed part =>
    let s := reading.rest
    match part with
    | .shortMonth => reading.put? .month ((shortName? monthNames s).map fun (i, r) => (i + 1, r))
    | .longMonth => reading.put? .month ((longName? monthNames s).map fun (i, r) => (i + 1, r))
    | .shortWeekday => reading.put? .weekday ((shortName? weekdayNames s).map fun (i, r) => (i, r))
    | .longWeekday => reading.put? .weekday ((longName? weekdayNames s).map fun (i, r) => (i, r))
    | .lowerHalf | .upperHalf =>
      match s with
      | c :: d :: rest =>
        if d.toLower = 'm' ∧ c.toLower = 'a' then reading.put? .half (some (0, rest))
        else if d.toLower = 'm' ∧ c.toLower = 'p' then reading.put? .half (some (1, rest))
        else none
      | _ => none
    | .fraction =>
      match s with
      | '.' :: rest => reading.put? .nanosecond (fraction? rest)
      | _ => some reading
    | .fractionDigits count =>
      match s with
      | '.' :: rest => reading.put? .nanosecond (fixedFraction? count rest)
      | _ => some reading
    | .bareDigits count => reading.put? .nanosecond (fixedFraction? count s)
    | .zoneName => some ⟨s.dropWhile fun c => !isBlank c, reading.fields⟩
    | .zoneOffset => reading.put? .offset (offset? false false (trimStart s))
    | .looseOffset => reading.put? .offset (offset? true true (trimStart s))
    | .standard => none

/-- Reads items other than a timestamp of the international standard. -/
def simples? (reading : Reading) : List Item → Option Reading
  | [] => some reading
  | item :: items => do
    let reading ← reading.simple? item
    reading.simples? items

/-- The date of the international standard. -/
def standardDate : List Item :=
  [.number .year .zeros, .blank ' ', .literal '-', .number .month .zeros, .blank ' ',
   .literal '-', .number .day .zeros]

/-- The time of the international standard. -/
def standardTime : List Item :=
  [.number .hour .zeros, .blank ' ', .literal ':', .number .minute .zeros, .blank ' ',
   .literal ':', .number .second .zeros, .fixed .fraction, .blank ' ']

/-- Reads a date, one of the separators `T`, `t` and space, a time, and an offset or `UTC`. -/
def standard? (reading : Reading) : Option Reading := do
  let reading ← reading.simples? standardDate
  let rest ← match reading.rest with
    | c :: rest => if c = 'T' ∨ c = 't' ∨ c = ' ' then some rest else none
    | [] => none
  let reading ← Reading.simples? ⟨rest, reading.fields⟩ standardTime
  let s := trimStart reading.rest
  if (s.take 3).map Char.toUpper = ['U', 'T', 'C'] then
    reading.put? .offset (some (0, s.drop 3))
  else reading.put? .offset (offset? true false s)

/-- Reads an item. -/
def item? (reading : Reading) (item : Item) : Option Reading :=
  match item with
  | .fixed .standard => reading.standard?
  | item => reading.simple? item

/-- Reads items one after another. -/
def items? (reading : Reading) : List Item → Option Reading
  | [] => some reading
  | item :: items => do
    let reading ← reading.item? item
    reading.items? items

end Reading

/-- The fields of a whole text in a format. -/
def fields? (format text : String) : Option Fields := do
  let items ← items? format
  let reading ← Reading.items? ⟨text.toList, []⟩ items
  if reading.rest.isEmpty then some reading.fields else none

end EntityStore.Calendar

namespace EntityStore

/-- The timestamp a text writes in a format. -/
def Timestamp.read? (format text : String) : Option Timestamp := do
  let fields ← Calendar.fields? format text
  fields.timestamp?

/-- The date a text writes in a format. -/
def Date.read? (format text : String) : Option Date := do
  let fields ← Calendar.fields? format text
  fields.date.toOption

end EntityStore
