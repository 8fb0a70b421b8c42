import EntityStore.Text.Ascii
import EntityStore.Value.FieldType

/-!
# Rows

A row of a result is a list of values under a list of column names.  Columns are
found by name without regard to case, and the first of several with one name counts.
-/

namespace EntityStore

open Text

/-- The names of the columns of a result. -/
abbrev Columns := List String

namespace Columns

/-- The position of a column. -/
def indexOf? (columns : Columns) (name : String) : Option Nat :=
  columns.findIdx? (sameName name)

/-- Whether there is a column with a name. -/
def has (columns : Columns) (name : String) : Bool :=
  (columns.indexOf? name).isSome

end Columns

/-- A row of a result. -/
structure Row where
  columns : Columns
  values : List Value
  deriving DecidableEq

namespace Row

/-- The value at a position. -/
def at? (row : Row) (index : Nat) : Option Value :=
  row.values[index]?

/-- The value in a column. -/
def named? (row : Row) (name : String) : Option Value := do
  row.at? (← row.columns.indexOf? name)

/-- The columns with their values. -/
def entries (row : Row) : List (String × Value) :=
  row.columns.zip row.values

/-- The value at a position, in the form of a type. -/
def getAt (row : Row) (type : FieldType) (index : Nat) : Except Error Value :=
  match row.at? index with
  | some v => type.convert v
  | none => .error <| .type
    { expected := type.fullName
      actual := s!"index {decimalText index} out of bounds (row has " ++
        s!"{decimalText row.values.length} columns)" }

/-- The value in a column, in the form of a type. -/
def getNamed (row : Row) (type : FieldType) (name : String) : Except Error Value :=
  match row.named? name with
  | some v => (type.convert v).mapError (Error.inColumn name)
  | none => .error <| .type
    { expected := type.fullName, actual := s!"column '{name}' not found", column := some name }

/-- The text in a column. -/
def textNamed (row : Row) (name : String) : Except Error String :=
  match row.getNamed ⟨.text, false⟩ name with
  | .ok (.text s) => .ok s
  | .ok _ => .ok ""
  | .error e => .error e

/-- The text in a column that may be null. -/
def textNamed? (row : Row) (name : String) : Except Error (Option String) :=
  match row.getNamed ⟨.text, true⟩ name with
  | .ok (.text s) => .ok (some s)
  | .ok _ => .ok none
  | .error e => .error e

/-- The integer of a converted value. -/
private def intOf : Value → Int64
  | .int n => n
  | _ => 0

/-- The integer in a column. -/
def intNamed (row : Row) (name : String) : Except Error Int64 :=
  (row.getNamed ⟨.integer, false⟩ name).map intOf

/-- The integer at a position. -/
def intAt (row : Row) (index : Nat) : Except Error Int64 :=
  (row.getAt ⟨.integer, false⟩ index).map intOf

end Row

end EntityStore
