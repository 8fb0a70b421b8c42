import EntityStore.Text.Blank

/-!
# Timestamp formats

A format is a text in which directives, a percent sign and a letter, stand for
parts of a timestamp, and all other characters for themselves.
-/

namespace EntityStore.Calendar

open Text

/-- What fills the places left of a number. -/
inductive Pad where
  | nothing
  | zeros
  | spaces
  deriving DecidableEq

/-- A part of a timestamp that is written as a number. -/
inductive NumberPart where
  | year
  | century
  | yearOfCentury
  | weekYear
  | weekYearOfCentury
  | quarter
  | month
  | day
  | weekFromSunday
  | weekFromMonday
  | isoWeek
  /-- The day of the week, with 0 for Sunday. -/
  | dayFromSunday
  /-- The day of the week, with 1 for Monday and 7 for Sunday. -/
  | dayFromMonday
  | dayOfYear
  | hour
  /-- The hour of the half day, from 1 to 12. -/
  | hour12
  | minute
  | second
  | nanosecond
  | unixSeconds
  deriving DecidableEq

/-- A part of a timestamp that is written in a way of its own. -/
inductive FixedPart where
  | shortMonth
  | longMonth
  | shortWeekday
  | longWeekday
  | lowerHalf
  | upperHalf
  /-- A point and the fraction of the second, or nothing. -/
  | fraction
  /-- A point and so many digits of the fraction of the second. -/
  | fractionDigits (digits : Nat)
  /-- So many digits of the fraction of the second. -/
  | bareDigits (digits : Nat)
  | zoneName
  | zoneOffset
  /-- An offset that may be `Z` and may lack minutes. -/
  | looseOffset
  /-- Date, time and offset of the international standard. -/
  | standard
  deriving DecidableEq

/-- An item of a format. -/
inductive Item where
  | literal (c : Char)
  | blank (c : Char)
  | number (part : NumberPart) (pad : Pad)
  | fixed (part : FixedPart)
  deriving DecidableEq

namespace Item

/-- The item of a character outside directives. -/
def plain (c : Char) : Item :=
  if isBlank c then blank c else literal c

private def zeros (part : NumberPart) : Item := number part .zeros
private def spaces (part : NumberPart) : Item := number part .spaces
private def bare (part : NumberPart) : Item := number part .nothing

/-- The hour, minute and second with colons. -/
def clock : List Item :=
  [zeros .hour, literal ':', zeros .minute, literal ':', zeros .second]

/-- The items of a directive of one letter. -/
def ofLetter? (c : Char) : Option (List Item) :=
  match c with
  | 'A' => some [fixed .longWeekday]
  | 'B' => some [fixed .longMonth]
  | 'C' => some [zeros .century]
  | 'D' | 'x' => some [zeros .month, literal '/', zeros .day, literal '/', zeros .yearOfCentury]
  | 'F' => some [zeros .year, literal '-', zeros .month, literal '-', zeros .day]
  | 'G' => some [zeros .weekYear]
  | 'H' => some [zeros .hour]
  | 'I' => some [zeros .hour12]
  | 'M' => some [zeros .minute]
  | 'P' => some [fixed .lowerHalf]
  | 'R' => some [zeros .hour, literal ':', zeros .minute]
  | 'S' => some [zeros .second]
  | 'T' | 'X' => some clock
  | 'U' => some [zeros .weekFromSunday]
  | 'V' => some [zeros .isoWeek]
  | 'W' => some [zeros .weekFromMonday]
  | 'Y' => some [zeros .year]
  | 'Z' => some [fixed .zoneName]
  | 'a' => some [fixed .shortWeekday]
  | 'b' | 'h' => some [fixed .shortMonth]
  | 'c' =>
    some ([fixed .shortWeekday, blank ' ', fixed .shortMonth, blank ' ', spaces .day, blank ' '] ++
      clock ++ [blank ' ', zeros .year])
  | 'd' => some [zeros .day]
  | 'e' => some [spaces .day]
  | 'f' => some [zeros .nanosecond]
  | 'g' => some [zeros .weekYearOfCentury]
  | 'j' => some [zeros .dayOfYear]
  | 'k' => some [spaces .hour]
  | 'l' => some [spaces .hour12]
  | 'm' => some [zeros .month]
  | 'n' => some [blank '\n']
  | 'p' => some [fixed .upperHalf]
  | 'q' => some [bare .quarter]
  | 'r' =>
    some [zeros .hour12, literal ':', zeros .minute, literal ':', zeros .second, blank ' ',
      fixed .upperHalf]
  | 's' => some [bare .unixSeconds]
  | 't' => some [blank '\t']
  | 'u' => some [bare .dayFromMonday]
  | 'v' => some [spaces .day, literal '-', fixed .shortMonth, literal '-', zeros .year]
  | 'w' => some [bare .dayFromSunday]
  | 'y' => some [zeros .yearOfCentury]
  | 'z' => some [fixed .zoneOffset]
  | '+' => some [fixed .standard]
  | '%' => some [literal '%']
  | _ => none

/-- What has been read of a directive. -/
inductive Pending where
  /-- Outside directives. -/
  | outside
  | percent
  /-- A sign that says how to fill a number. -/
  | filled (pad : Pad)
  /-- The sign of a loose offset. -/
  | loose
  | colons (count : Nat)
  | point
  /-- A number of digits, with the item it makes. -/
  | digits (item : FixedPart)
  deriving DecidableEq

/-- The items of a format of which a beginning has been read.  There are none if the
format has an unknown or unfinished directive. -/
def scan : Pending → List Char → Option (List Item)
  | .outside, [] => some []
  | _, [] => none
  | .outside, c :: rest =>
    if c = '%' then scan .percent rest else (scan .outside rest).map (plain c :: ·)
  | .percent, c :: rest =>
    match c with
    | '-' => scan (.filled .nothing) rest
    | '0' => scan (.filled .zeros) rest
    | '_' => scan (.filled .spaces) rest
    | '#' => scan .loose rest
    | ':' => scan (.colons 1) rest
    | '.' => scan .point rest
    | '3' => scan (.digits (.bareDigits 3)) rest
    | '6' => scan (.digits (.bareDigits 6)) rest
    | '9' => scan (.digits (.bareDigits 9)) rest
    | c =>
      match ofLetter? c with
      | some items => (scan .outside rest).map (items ++ ·)
      | none => none
  | .filled pad, c :: rest =>
    match ofLetter? c with
    | some [number part _] => (scan .outside rest).map (number part pad :: ·)
    | _ => none
  | .loose, c :: rest =>
    if c = 'z' then (scan .outside rest).map (fixed .looseOffset :: ·) else none
  | .colons count, c :: rest =>
    if c = 'z' then (scan .outside rest).map (fixed .zoneOffset :: ·)
    else if c = ':' ∧ count < 3 then scan (.colons (count + 1)) rest
    else none
  | .point, c :: rest =>
    match c with
    | '3' => scan (.digits (.fractionDigits 3)) rest
    | '6' => scan (.digits (.fractionDigits 6)) rest
    | '9' => scan (.digits (.fractionDigits 9)) rest
    | 'f' => (scan .outside rest).map (fixed .fraction :: ·)
    | _ => none
  | .digits part, c :: rest =>
    if c = 'f' then (scan .outside rest).map (fixed part :: ·) else none

end Item

/-- The items of a format, if all its directives are known. -/
def items? (format : String) : Option (List Item) :=
  Item.scan .outside format.toList

end EntityStore.Calendar
