import EntityStore.Calendar.Timestamp
import EntityStore.Number.Text
import EntityStore.Text.Quoted
import EntityStore.Text.Utf8
import EntityStore.Value.Uuid

/-!
# Values

The values of columns and parameters.  A database stores only the first five kinds
besides truth values as integers; the others come about when a field is read.
-/

namespace EntityStore

open Text

/-- A value of a column. -/
inductive Value where
  | null
  | bool (b : Bool)
  | int (n : Int64)
  | double (x : Binary64)
  | text (s : String)
  | bytes (b : List UInt8)
  | uuid (u : Uuid)
  | timestamp (t : Timestamp)
  deriving DecidableEq

/-- A named parameter of a statement. -/
structure Param where
  name : String
  value : Value
  deriving DecidableEq

/-- Where the value of a parameter stands in a statement. -/
def Param.slot (p : Param) : String :=
  "@" ++ p.name

namespace Value

/-- Whether the value is null. -/
def isNull : Value → Bool
  | null => true
  | _ => false

/-- The kind of the value, as messages name it. -/
def kind : Value → String
  | null => "NULL"
  | bool _ => "BOOLEAN"
  | int _ => "INTEGER"
  | double _ => "REAL"
  | text _ => "TEXT"
  | bytes _ => "BLOB"
  | uuid _ => "GUID"
  | timestamp _ => "DATETIME"

/-- Whether the value is an integer or a double-precision number. -/
def isNumeric : Value → Bool
  | int _ | double _ => true
  | _ => false

/-- The truth value of a value, where an integer counts as true unless it is zero. -/
def asBool? : Value → Option Bool
  | bool b => some b
  | int n => some (n ≠ 0)
  | _ => none

/-- The integer of a value, where true counts as one. -/
def asInt? : Value → Option Int64
  | int n => some n
  | bool b => some (if b then 1 else 0)
  | _ => none

/-- The double-precision number of a value; a text is read. -/
def asDouble? : Value → Option Binary64
  | double x => some x
  | int n => some (Binary64.ofInt n.toInt)
  | text s => Binary64.ofText? s
  | _ => none

/-- The text of a value that is a text. -/
def asText? : Value → Option String
  | text s => some s
  | _ => none

/-- The bytes of a value. -/
def asBytes? : Value → Option (List UInt8)
  | bytes b => some b
  | text s => some (utf8 s)
  | _ => none

/-- The identifier of a value; a text is read, and sixteen bytes are one. -/
def asUuid? : Value → Option Uuid
  | uuid u => some u
  | text s => Uuid.ofText? s
  | bytes b => Uuid.ofBytes? b
  | _ => none

/-- The timestamp of a value that is one. -/
def asTimestamp? : Value → Option Timestamp
  | timestamp t => some t
  | _ => none

/-- The numbers of a list between brackets. -/
private def listText (ns : List Int) : String :=
  "[" ++ ", ".intercalate (ns.map decimalText) ++ "]"

/-- The value as it is shown in messages. -/
def shown : Value → String
  | null => "Null"
  | bool b => if b then "Bool(true)" else "Bool(false)"
  | int n => s!"Int({decimalText n.toInt})"
  | double x => s!"Double({x.text Binary64.detailed})"
  | text s => s!"Text({Text.shown s})"
  | bytes b => s!"Bytes({listText (b.map fun x => (x.toNat : Int))})"
  | uuid u => s!"Uuid({u.text})"
  | timestamp t => s!"Timestamp({t.shown})"

/-! ### Order -/

/-- The number a value is compared as. -/
def asNumber? : Value → Option Binary64
  | bool b => some (Binary64.ofInt (if b then 1 else 0))
  | int n => some (Binary64.ofInt n.toInt)
  | double x => some x
  | _ => none

/-- The order of two values.  Values of one kind are compared as such, and truth
values, integers and numbers with each other as numbers.  Null is equal to itself
only and has no place in the order otherwise. -/
def compare? : Value → Value → Option Ordering
  | null, null => some .eq
  | null, _ | _, null => none
  | text a, text b => some (compare a b)
  | bytes a, bytes b => some (compare a b)
  | uuid a, uuid b => some (compare a.bytes b.bytes)
  | timestamp a, timestamp b => some (a.compare b)
  | int a, int b => some (compare a.toInt b.toInt)
  | a, b => do (← a.asNumber?).compare? (← b.asNumber?)

end Value

end EntityStore
