import EntityStore.Number.Text
import EntityStore.Text.Casing

/-!
# Column types

What a column of a table means, and the type the database is told for it.
-/

namespace EntityStore

/-- The type of a column. -/
inductive ColumnType where
  | text
  | integer
  | real
  | boolean
  | guid
  | dateTime
  | blob
  /-- A type the database has no storage for. -/
  | custom (name : String)
  deriving DecidableEq, Repr

namespace ColumnType

/-- The type the database is told, where a text may have a length. -/
def sqlName? (type : ColumnType) (length : Option Nat) : Option String :=
  match type with
  | text =>
    match length with
    | some n => some s!"VARCHAR({decimalText n})"
    | none => some "TEXT"
  | integer => some "INTEGER"
  | real => some "REAL"
  | boolean => some "BOOLEAN"
  | guid => some "GUID"
  | dateTime => some "DATETIME"
  | blob => some "BLOB"
  | custom _ => none

/-- Whether the values are numbers. -/
def isNumeric : ColumnType → Bool
  | integer | real => true
  | _ => false

/-- Whether the values are stored as text. -/
def isText : ColumnType → Bool
  | text | guid | dateTime => true
  | _ => false

/-- The name of the type in messages. -/
def label : ColumnType → String
  | text => "text"
  | integer => "integer"
  | real => "real"
  | boolean => "boolean"
  | guid => "guid"
  | dateTime => "datetime"
  | blob => "blob"
  | custom name => name

end ColumnType

/-- What happens to a row when the row it references is deleted. -/
inductive ReferentialAction where
  | noAction
  | restrict
  | cascade
  | setNull
  | setDefault
  deriving DecidableEq, Repr

namespace ReferentialAction

/-- The action in SQL. -/
def sql : ReferentialAction → String
  | noAction => "NO ACTION"
  | restrict => "RESTRICT"
  | cascade => "CASCADE"
  | setNull => "SET NULL"
  | setDefault => "SET DEFAULT"

/-- The action named by a text in any case, with a space, an underscore or nothing
between words. -/
def ofText? (s : String) : Option ReferentialAction :=
  match Text.capitalize s with
  | "NO ACTION" | "NOACTION" | "NO_ACTION" => some noAction
  | "RESTRICT" => some restrict
  | "CASCADE" => some cascade
  | "SET NULL" | "SETNULL" | "SET_NULL" => some setNull
  | "SET DEFAULT" | "SETDEFAULT" | "SET_DEFAULT" => some setDefault
  | _ => none

theorem ofText?_sql (a : ReferentialAction) :
  ofText? a.sql = some a
  := by cases a <;> decide +kernel

end ReferentialAction

end EntityStore
