import EntityStore.Entity.Record
import EntityStore.Row
import EntityStore.Value.Coerce

/-!
# From rows to records

A mapper pairs the fields of a record type with the columns of a result.  A field
without a column, and a field whose column is null, stays unset.
-/

namespace EntityStore

/-- Pairs of a column position and a field position, and the column of the key. -/
structure RowMapper where
  type : RecordType
  slots : List (Nat × Nat)
  keyColumn : Option Nat
  format : String

namespace RowMapper

/-- The mapper for columns whose names are those of the fields behind `lead`. -/
def build (type : RecordType) (columns : Columns) (lead format : String) : RowMapper where
  type
  slots := type.fields.zipIdx.filterMap fun (field, i) =>
    (columns.indexOf? (lead ++ field.name)).map (·, i)
  keyColumn := columns.indexOf? (lead ++ primaryKey)
  format

/-- The number of fields that have a column. -/
def mapped (m : RowMapper) : Nat :=
  m.slots.length

/-- The key in a row. -/
def key? (m : RowMapper) (row : Row) : Option Int64 := do
  (← row.at? (← m.keyColumn)).asInt?

/-- The record with one more field set from a row. -/
def fill (m : RowMapper) (row : Row) (record : Record) (slot : Nat × Nat) :
    Except Error Record :=
  match row.at? slot.1, m.type.fields[slot.2]? with
  | some raw, some field =>
    if raw.isNull then .ok record
    else Except.mapError (Error.inColumn field.name) do
      let v ← raw.coerce field.columnType m.format
      record.setField m.type slot.2 v
  | _, _ => .ok record

/-- The record of a row. -/
def map (m : RowMapper) (row : Row) : Except Error Record :=
  m.slots.foldlM (m.fill row) {}

end RowMapper

end EntityStore
