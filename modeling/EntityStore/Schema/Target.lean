import EntityStore.Entity.Registry
import EntityStore.Schema.Shape

/-!
# Target schemas

The schema that a registry asks for.  The names of constraints and indexes are made
from those of tables and columns, so that they are read back unchanged.
-/

namespace EntityStore

/-- The name of the foreign key constraint of a column. -/
def referenceName (table column : String) : String :=
  s!"FK_{table}_{column}"

/-- The name of the unique constraint with a number. -/
def uniqueName (table : String) (number : Nat) : String :=
  s!"UQ_{table}_{decimalText number}"

/-- What the names of indexes begin with. -/
def indexLead : String := "IX_"

/-- Names with an underscore between them. -/
def joinNames (names : List String) : String :=
  "_".intercalate names

/-- The name of the index of columns. -/
def indexName (table : String) (columns : List String) : String :=
  s!"{indexLead}{table}_{joinNames columns}"

namespace Descriptor

/-- The key column. -/
def keyShape : ColumnShape :=
  { ColumnShape.ofType primaryKey "INTEGER" false with primaryKey := true }

/-- The activation flag. -/
def activeShape : ColumnShape :=
  .ofType activeFlag "BOOLEAN" false

/-- The shape of a declared column, whose type must be one of the database. -/
def columnShape (d : Descriptor) (c : Column) : Except Error ColumnShape :=
  match c.type.sqlName? c.maxLength with
  | some sqlType => .ok (.ofType c.name sqlType c.nullable)
  | none => .error <| .ofSchema .unsupportedColumnType <|
    s!"{d.table}.{c.name}: column type '{c.type.label}' has no SQLite mapping"

/-- The shape of the reference of a column. -/
def referenceShape (d : Descriptor) (c : Column) (fk : ForeignKey) : ReferenceShape where
  name := some (referenceName d.table c.name)
  column := c.name
  foreignTable := fk.table
  foreignColumn := fk.column
  onDelete := fk.onDelete.sql

/-- The declared spelling of a column, if it is there. -/
def spelling (d : Descriptor) (column : String) : String :=
  match d.resolve? column with
  | some (name, _) => name
  | none => column

/-- The shape of the index of columns. -/
def indexShape (d : Descriptor) (columns : List String) : IndexShape :=
  let columns := columns.map d.spelling
  ⟨indexName d.table columns, columns⟩

/-- The shape of the table. -/
def shape (d : Descriptor) : Except Error TableShape := do
  let declared ← d.columns.mapM d.columnShape
  return TableShape.normalize
    { name := d.table
      columns := keyShape :: declared ++ [activeShape]
      references := d.foreignKeys.map fun (c, fk) => d.referenceShape c fk
      uniques := d.uniqueGroups.map fun (group, columns) =>
        ⟨some (uniqueName d.table group.toNat), columns⟩
      indexes := d.indexes.map d.indexShape }

end Descriptor

/-- The schema that the registry asks for. -/
def Registry.target (r : Registry) : Except Error Schema := do
  let shapes ← r.descriptors.mapM (·.shape)
  return shapes.foldl Schema.insert .empty

end EntityStore
