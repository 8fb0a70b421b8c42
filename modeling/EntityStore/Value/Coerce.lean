import EntityStore.Calendar.Stored
import EntityStore.Entity.ColumnType
import EntityStore.Value.FieldType

/-!
# From storage to columns

A database gives back stored values; the type of the column says what they mean.
-/

namespace EntityStore.Value

/-- What a stored value means in a column of a type, if it means anything there. -/
def meaning? (v : Value) (type : ColumnType) (format : String) : Option Value :=
  match type, v with
  | _, null => some null
  | .guid, text s => (Uuid.ofText? s).map uuid
  | .guid, bytes b => (Uuid.ofBytes? b).map uuid
  | .dateTime, text s => (Calendar.readStored? s format).map timestamp
  | .dateTime, int n => (Timestamp.ofUnixSeconds? n.toInt).map timestamp
  | .boolean, int n => some (bool (n ≠ 0))
  | .real, int n => some (double (Binary64.ofInt n.toInt))
  | .text, int n => some (text (decimalText n.toInt))
  | .text, double x => some (text (x.text Binary64.plain))
  | _, other => some other

/-- What a stored value means in a column of a type. -/
def coerce (v : Value) (type : ColumnType) (format : String) : Except Error Value :=
  match v.meaning? type format with
  | some w => .ok w
  | none => .error (.type { expected := type.label, actual := v.shown })

end EntityStore.Value
