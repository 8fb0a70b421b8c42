import EntityStore.Entity.Record

/-!
# Descriptors

A descriptor says what the table of an entity looks like.  Besides its declared
columns every table has a key column and an activation flag.
-/

namespace EntityStore

open Text

/-- A reference from a column to a column of a table. -/
structure ForeignKey where
  table : String
  column : String := primaryKey
  onDelete : ReferentialAction := .noAction
  deriving DecidableEq, Repr

/-- A declared column. -/
structure Column where
  name : String
  type : ColumnType
  nullable : Bool := false
  maxLength : Option Nat := none
  foreignKey : Option ForeignKey := none
  /-- Columns with the same number form one unique constraint. -/
  uniqueGroup : Option UInt32 := none
  deriving DecidableEq, Repr

/-- The metadata of the table of an entity. -/
structure Descriptor where
  table : String
  /-- The name of the type of entities. -/
  typeName : String
  columns : List Column
  softDelete : Bool := false
  /-- The columns of each index. -/
  indexes : List (List String) := []
  deriving DecidableEq, Repr

namespace Descriptor

/-- The declared column with a name. -/
def column? (d : Descriptor) (name : String) : Option Column :=
  d.columns.find? fun c => sameName c.name name

/-- The declared spelling and the type of a column, declared or not. -/
def resolve? (d : Descriptor) (name : String) : Option (String × ColumnType) :=
  if sameName name primaryKey then some (primaryKey, .integer)
  else if sameName name activeFlag then some (activeFlag, .boolean)
  else (d.column? name).map fun c => (c.name, c.type)

/-- All columns of the table: the key, the declared columns and the activation flag. -/
def allColumns (d : Descriptor) : List (String × ColumnType) :=
  (primaryKey, .integer) :: d.columns.map (fun c => (c.name, c.type)) ++
    [(activeFlag, .boolean)]

/-- The columns that reference another table, with the reference. -/
def foreignKeys (d : Descriptor) : List (Column × ForeignKey) :=
  d.columns.filterMap fun c => c.foreignKey.map fun fk => (c, fk)

/-- The first reference to a table. -/
def foreignKeyTo? (d : Descriptor) (table : String) : Option (Column × ForeignKey) :=
  d.foreignKeys.find? fun (_, fk) => sameName fk.table table

/-- The numbers of the unique groups, in increasing order. -/
def groupNumbers (d : Descriptor) : List UInt32 :=
  ((d.columns.filterMap (·.uniqueGroup)).eraseDups).mergeSort (· ≤ ·)

/-- The unique groups in the order of their numbers, with the names of their columns. -/
def uniqueGroups (d : Descriptor) : List (UInt32 × List String) :=
  d.groupNumbers.map fun g =>
    (g, (d.columns.filter fun c => c.uniqueGroup = some g).map (·.name))

/-- The number after the greatest number of a unique group. -/
def nextGroup (d : Descriptor) : UInt32 :=
  match (d.columns.filterMap (·.uniqueGroup)).max? with
  | some g => g + 1
  | none => 1

/-- The descriptor with the first column of a name changed, if there is one. -/
def updateColumn? (d : Descriptor) (name : String) (change : Column → Column) :
    Option Descriptor :=
  match d.columns.findIdx? fun c => sameName c.name name with
  | some i => some { d with columns := d.columns.modify i change }
  | none => none

end Descriptor

end EntityStore
