import EntityStore.Error
import EntityStore.Value

/-!
# Field types

The type of a field says which values it takes up and in which form.  An optional
field takes up null as well.
-/

namespace EntityStore

/-- The type of a field that is not optional. -/
inductive BaseType where
  | bool
  | integer
  /-- Integers of 32 bits. -/
  | narrow
  | real
  | text
  | bytes
  | uuid
  | timestamp
  /-- Any value as it is. -/
  | any
  deriving DecidableEq, Repr

/-- The type of a field. -/
structure FieldType where
  base : BaseType
  optional : Bool := false
  deriving DecidableEq, Repr

namespace BaseType

/-- The name of a type in messages about a value that does not fit. -/
def name : BaseType → String
  | bool => "bool"
  | integer => "i64"
  | narrow => "i32"
  | real => "f64"
  | text => "String"
  | bytes => "Vec<u8>"
  | uuid => "Uuid"
  | timestamp => "NaiveDateTime"
  | any => "Value"

/-- All types of fields that are not optional. -/
def all : List BaseType :=
  [bool, integer, narrow, real, text, bytes, uuid, timestamp, any]

/-- The type with a name. -/
def ofName? (name : String) : Option BaseType :=
  all.find? fun type => type.name = name

theorem ofName?_name (type : BaseType) :
  ofName? type.name = some type
  := by cases type <;> decide +kernel

/-- The full name of a type, in messages about a value that is missing. -/
def fullName : BaseType → String
  | text => "alloc::string::String"
  | bytes => "alloc::vec::Vec<u8>"
  | uuid => "uuid::Uuid"
  | timestamp => "chrono::naive::datetime::NaiveDateTime"
  | any => "sqlentity_core::value::Value"
  | other => other.name

/-- The mismatch of a value with a type. -/
def mismatch (type : BaseType) (v : Value) : Error :=
  .type { expected := type.name, actual := v.kind }

/-- A value of a type, or the mismatch. -/
def orMismatch (type : BaseType) (v : Value) (converted : Option Value) : Except Error Value :=
  match converted with
  | some w => .ok w
  | none => .error (type.mismatch v)

/-- An integer of 32 bits. -/
def narrowed (n : Int64) : Except Error Value :=
  if -2147483648 ≤ n.toInt ∧ n.toInt ≤ 2147483647 then .ok (.int n)
  else .error <| .type
    { expected := narrow.name, actual := s!"out of range integer {decimalText n.toInt}" }

/-- The text of a value that can stand in a text field. -/
def textOf? : Value → Option String
  | .text s => some s
  | .uuid u => some u.text
  | .int n => some (decimalText n.toInt)
  | .double x => some (x.text Binary64.plain)
  | _ => none

/-- The value in the form a field of the type keeps. -/
def convert (type : BaseType) (v : Value) : Except Error Value :=
  match type with
  | bool => type.orMismatch v (v.asBool?.map .bool)
  | integer => type.orMismatch v (v.asInt?.map .int)
  | narrow =>
    match v.asInt? with
    | some n => narrowed n
    | none => .error (type.mismatch v)
  | real => type.orMismatch v (v.asDouble?.map .double)
  | text => type.orMismatch v ((textOf? v).map .text)
  | bytes => type.orMismatch v (v.asBytes?.map .bytes)
  | uuid => type.orMismatch v (v.asUuid?.map .uuid)
  | timestamp => type.orMismatch v (v.asTimestamp?.map .timestamp)
  | any => .ok v

end BaseType

namespace FieldType

/-- The type with a name, which ends in a question mark if the type is optional. -/
def ofName? (name : String) : Option FieldType :=
  match name.toList.reverse with
  | '?' :: rest => (BaseType.ofName? (String.ofList rest.reverse)).map (⟨·, true⟩)
  | _ => (BaseType.ofName? name).map (⟨·, false⟩)

/-- The full name of a type. -/
def fullName (type : FieldType) : String :=
  if type.optional then s!"core::option::Option<{type.base.fullName}>" else type.base.fullName

/-- The value in the form a field of the type keeps. -/
def convert (type : FieldType) (v : Value) : Except Error Value :=
  if type.optional && v.isNull then .ok .null else type.base.convert v

end FieldType

end EntityStore
