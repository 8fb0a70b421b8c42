import EntityStore.Calendar.Format
import EntityStore.Calendar.Timestamp

/-!
# Writing timestamps

The text of a timestamp in a format.  A timestamp has no zone, so a format with a
zone in it has no text.
-/

namespace EntityStore.Calendar

open Text

/-- The names of the months. -/
def monthNames : List String :=
  ["January", "February", "March", "April", "May", "June", "July", "August", "September",
   "October", "November", "December"]

/-- The names of the days of the week, from Monday. -/
def weekdayNames : List String :=
  ["Monday", "Tuesday", "Wednesday", "Thursday", "Friday", "Saturday", "Sunday"]

/-- What fills a number with a given pad. -/
def Pad.fill (pad : Pad) (width : Nat) (s : List Char) : List Char :=
  match pad with
  | .nothing => s
  | .zeros => padLeft width '0' s
  | .spaces => padLeft width ' ' s

/-- A number of at least `width` places.  Zeros stand behind the sign, spaces before it. -/
def Pad.number (pad : Pad) (width : Nat) (plus : Bool) (n : Int) : List Char :=
  let sign := if n < 0 then ['-'] else if plus then ['+'] else []
  match pad with
  | .zeros => sign ++ padLeft (width - sign.length) '0' (decimalDigits n.natAbs)
  | pad => pad.fill width (sign ++ decimalDigits n.natAbs)

/-- A number below 256 in two places.  From a hundred on, the first place goes on with
the characters behind the digits. -/
def Pad.twoPlaces (pad : Pad) (n : Nat) : List Char :=
  let tens := n / 10
  let ones := Char.ofNat ('0'.toNat + n % 10)
  if tens = 0 then
    match pad with
    | .nothing => [ones]
    | .zeros => ['0', ones]
    | .spaces => [' ', ones]
  else [Char.ofNat ('0'.toNat + tens), ones]

/-- A year: four places, and a sign and five places outside 0 to 9999. -/
def Pad.yearText (pad : Pad) (year : Int) : List Char :=
  if 0 ≤ year ∧ year ≤ 9999 then pad.number 4 false year else pad.number 5 true year

/-- The hour of the half day, from 1 to 12. -/
def halfDayHour (hour : Nat) : Nat :=
  if hour % 12 = 0 then 12 else hour % 12

/-- The century of a year, counted modulo 256. -/
def centuryByte (year : Int) : Nat :=
  (year / 100 % 256).toNat

/-- The text of a number in a timestamp. -/
def NumberPart.render (part : NumberPart) (pad : Pad) (t : Timestamp) : List Char :=
  match part with
  | .year => pad.yearText t.date.year
  | .century => pad.twoPlaces (centuryByte t.date.year)
  | .yearOfCentury => pad.twoPlaces (t.date.year % 100).toNat
  | .weekYear => pad.yearText t.date.isoWeek.1
  | .weekYearOfCentury => pad.twoPlaces (t.date.isoWeek.1 % 100).toNat
  | .quarter => decimalDigits t.date.quarter
  | .month => pad.twoPlaces t.date.month
  | .day => pad.twoPlaces t.date.day
  | .weekFromSunday => pad.twoPlaces (t.date.weekFrom 6)
  | .weekFromMonday => pad.twoPlaces (t.date.weekFrom 0)
  | .isoWeek => pad.twoPlaces t.date.isoWeek.2
  | .dayFromSunday => decimalDigits ((t.date.weekday + 1) % 7)
  | .dayFromMonday => decimalDigits (t.date.weekday + 1)
  | .dayOfYear => pad.number 3 false t.date.ordinal
  | .hour => pad.twoPlaces t.time.hour
  | .hour12 => pad.twoPlaces (halfDayHour t.time.hour)
  | .minute => pad.twoPlaces t.time.minute
  | .second => pad.twoPlaces (Timestamp.shownSecond t.time)
  | .nanosecond => pad.number 9 false (t.time.nanosecond % nanosPerSecond : Nat)
  | .unixSeconds => pad.number 9 false t.unixSeconds

/-- The first `digits` of the nine digits of the fraction of the second. -/
def fractionStart (digits : Nat) (t : TimeOfDay) : List Char :=
  (Timestamp.padded 9 (t.nanosecond % nanosPerSecond)).take digits

/-- The text of a part written in a way of its own, unless it is about the zone. -/
def FixedPart.render? (part : FixedPart) (t : Timestamp) : Option (List Char) :=
  match part with
  | .shortMonth => some (((monthNames.getD (t.date.month - 1) "").toList).take 3)
  | .longMonth => some (monthNames.getD (t.date.month - 1) "").toList
  | .shortWeekday => some (((weekdayNames.getD t.date.weekday "").toList).take 3)
  | .longWeekday => some (weekdayNames.getD t.date.weekday "").toList
  | .lowerHalf => some (if t.time.hour < 12 then ['a', 'm'] else ['p', 'm'])
  | .upperHalf => some (if t.time.hour < 12 then ['A', 'M'] else ['P', 'M'])
  | .fraction => some (Timestamp.fractionText (t.time.nanosecond % nanosPerSecond))
  | .fractionDigits digits => some ('.' :: fractionStart digits t.time)
  | .bareDigits digits => some (fractionStart digits t.time)
  | .zoneName | .zoneOffset | .looseOffset | .standard => none

/-- The text of an item. -/
def Item.render? (item : Item) (t : Timestamp) : Option (List Char) :=
  match item with
  | .literal c | .blank c => some [c]
  | .number part pad => some (part.render pad t)
  | .fixed part => part.render? t

/-- The text of a list of items. -/
def renderItems? (t : Timestamp) : List Item → Option (List Char)
  | [] => some []
  | item :: items => do
    let text ← item.render? t
    let more ← renderItems? t items
    return text ++ more

end EntityStore.Calendar

namespace EntityStore

/-- The text of a timestamp in a format, if the format can write it. -/
def Timestamp.render? (t : Timestamp) (format : String) : Option String := do
  let items ← Calendar.items? format
  let text ← Calendar.renderItems? t items
  return String.ofList text

end EntityStore
