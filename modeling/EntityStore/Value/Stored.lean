import EntityStore.Calendar.Stored
import EntityStore.Value

/-!
# From columns to storage

A database stores null, integers, double-precision numbers, text and bytes.  Other values
are stored as one of these.
-/

namespace EntityStore.Value

/-- The value as it is stored: truth values as integers, identifiers as text, timestamps as
text in a format.  What is not a number is stored as null.  A timestamp that the format
cannot write is not stored. -/
def stored? (v : Value) (format : String) : Option Value :=
  match v with
  | bool b => some (int (if b then 1 else 0))
  | double x => some (if x.isNaN then null else double x)
  | uuid u => some (text u.text)
  | timestamp t => (Calendar.write t format).toOption.map text
  | v => some v

end EntityStore.Value
