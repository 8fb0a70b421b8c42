import EntityStore.Entity.ColumnType
import EntityStore.Value.FieldType

/-!
# Records

A record is filled field by field.  Each field has the name and type of a column
and the type it keeps its value in; a field that has not been set is left out.
-/

namespace EntityStore

open Text

/-- The name of the key column every table has. -/
def primaryKey : String := "Id"

/-- The name of the activation flag every table has. -/
def activeFlag : String := "IsActive"

/-- A field of a record. -/
structure Field where
  name : String
  columnType : ColumnType
  nullable : Bool
  type : FieldType
  deriving DecidableEq, Repr

/-- The type in which the values of a column are kept, unless another is chosen. -/
def ColumnType.native : ColumnType → BaseType
  | text => .text
  | integer => .integer
  | real => .real
  | boolean => .bool
  | guid => .uuid
  | dateTime => .timestamp
  | blob => .bytes
  | custom _ => .any

namespace Field

/-- The field for a column whose values are kept in the type that goes with it. -/
def ofColumn (name : String) (type : ColumnType) (nullable : Bool) : Field :=
  ⟨name, type, nullable, ⟨type.native, nullable⟩⟩

/-- Whether the field is one of the two columns every table has. -/
def isImplicit (f : Field) : Bool :=
  sameName f.name primaryKey || sameName f.name activeFlag

end Field

/-- A type of records. -/
structure RecordType where
  name : String
  fields : List Field
  deriving DecidableEq, Repr

namespace RecordType

/-- The position of a field, found without regard to case. -/
def fieldIndex? (type : RecordType) (name : String) : Option Nat :=
  type.fields.findIdx? fun f => sameName f.name name

end RecordType

/-- A record: its key, and the values of its fields as far as they have been set. -/
structure Record where
  key : Int64 := 0
  values : List (Option Value) := []
  deriving DecidableEq

namespace Record

/-- The record with room for the fields of a type. -/
def padded (count : Nat) (r : Record) : List (Option Value) :=
  r.values ++ List.replicate (count - r.values.length) none

/-- The record with a value stored in the field at a position; the field `Id` sets the
key as well. -/
def setField (type : RecordType) (index : Nat) (v : Value) (r : Record) :
    Except Error Record :=
  match type.fields[index]? with
  | none => .ok r
  | some field => do
    let stored ← field.type.convert v
    let key := match stored with
      | .int n => if sameName field.name primaryKey then n else r.key
      | _ => r.key
    return { key, values := (r.padded type.fields.length).set index (some stored) }

/-- The value of the field at a position, null if it has not been set. -/
def valueAt (r : Record) (index : Nat) : Value :=
  ((r.values[index]?).join).getD .null

/-- Whether the record has not been stored yet. -/
def isNew (r : Record) : Bool :=
  r.key = 0

end Record

end EntityStore
