import EntityStore.Calendar.Read
import EntityStore.Error

/-!
# Stored timestamps

Timestamps are stored as text in a configured format.  Text in one of the
international forms can be read whatever the format is.
-/

namespace EntityStore

namespace Calendar

/-- The format that is used if no other is configured. -/
def defaultFormat : String := "%Y-%m-%d %H:%M:%S"

/-- The international forms that can always be read. -/
def fallbackFormats : List String :=
  ["%Y-%m-%d %H:%M:%S%.f", "%Y-%m-%dT%H:%M:%S%.f", "%Y-%m-%dT%H:%M:%S%.fZ"]

/-- The international form of a date. -/
def dateFormat : String := "%Y-%m-%d"

/-- The forms with a time that date functions of the database can read. -/
def databaseFormats : List String :=
  ["%Y-%m-%d %H:%M:%S%.f", "%Y-%m-%dT%H:%M:%S%.f", "%Y-%m-%d %H:%M", "%Y-%m-%dT%H:%M"]

/-- A timestamp in which no two fields have the same number, so that fields in the wrong
places show. -/
def sample : Timestamp :=
  ⟨⟨2001, 2, 3, by decide⟩, ⟨4, 5, 6, 0, by decide⟩⟩

/-- The error about a format that cannot be written. -/
def invalidFormat (format : String) : Error :=
  .ofConfig s!"invalid datetime format '{format}'"

/-- The text of a timestamp in a format. -/
def write (t : Timestamp) (format : String) : Except Error String :=
  match t.render? format with
  | some text => .ok text
  | none => .error (invalidFormat format)

/-- Checks that a format can be written. -/
def check (format : String) : Except Error Unit := do
  let _ ← write sample format
  return ()

/-- The timestamp of a stored text: in the format, else in one of the international
forms, else at the beginning of a date. -/
def readStored? (text format : String) : Option Timestamp :=
  ((format :: fallbackFormats).findSome? fun f => Timestamp.read? f text).orElse fun _ =>
    (Date.read? dateFormat text).map fun d => ⟨d, .midnight⟩

/-- Whether two timestamps are in the same minute. -/
def sameMinute (s t : Timestamp) : Bool :=
  s.date = t.date && s.time.hour = t.time.hour && s.time.minute = t.time.minute

/-- Whether date functions of the database read the sample back from its text in a format. -/
def isInternational (format : String) : Bool :=
  match sample.render? format with
  | none => false
  | some text =>
    databaseFormats.any (fun f => (Timestamp.read? f text).any (sameMinute sample)) ||
      (Date.read? dateFormat text).any (· = sample.date)

end Calendar

end EntityStore
