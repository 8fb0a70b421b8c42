import EntityStore.Schema.Target
import EntityStore.Sql.Name

/-!
# Statements that change a schema

The database cannot change a column or a constraint of a table.  The table is made
anew under another name, takes over the rows, and then takes the place of the old one.
-/

namespace EntityStore

open Text Sql

/-- What a column of a new table takes from the old one. -/
inductive CopyValue where
  | column (name : String)
  /-- The column, or a literal where that is null. -/
  | columnOr (name fallback : String)
  | literal (sql : String)
  deriving DecidableEq, Repr

/-- What is taken in SQL. -/
def CopyValue.sql : CopyValue → String
  | .column name => quoteName name
  | .columnOr name fallback => s!"COALESCE({quoteName name}, {fallback})"
  | .literal sql => sql

/-- A column of a new table with what it takes from the old one. -/
structure ColumnCopy where
  column : String
  value : CopyValue
  deriving DecidableEq, Repr

/-- The definition of a column. -/
def ColumnShape.definition (c : ColumnShape) : String :=
  let start := s!"{quoteName c.name} {c.sqlType}"
  if c.primaryKey then s!"{start} PRIMARY KEY AUTOINCREMENT"
  else start ++ (if c.nullable then "" else " NOT NULL") ++
    (if sameName c.name activeFlag then " DEFAULT 1" else "")

/-- The definition of a foreign key of a table. -/
def ReferenceShape.definition (table : String) (r : ReferenceShape) : String :=
  let name := quoteName (r.name.getD (referenceName table r.column))
  let target := s!"{quoteName r.foreignTable} ({quoteName r.foreignColumn})"
  s!"CONSTRAINT {name} FOREIGN KEY ({quoteName r.column}) REFERENCES {target}" ++
    (if sameName r.onDelete "NO ACTION" then "" else s!" ON DELETE {r.onDelete}")

/-- The definition of the unique constraint of a table with a number. -/
def UniqueShape.definition (table : String) (number : Nat) (u : UniqueShape) : String :=
  let name := quoteName (u.name.getD (uniqueName table number))
  s!"CONSTRAINT {name} UNIQUE ({quoteNames u.columns})"

/-- The statement that makes an index. -/
def IndexShape.create (table : String) (i : IndexShape) : String :=
  s!"CREATE INDEX {quoteName i.name} ON {quoteName table} ({quoteNames i.columns})"

/-- The statement that removes an index. -/
def dropIndex (name : String) : String :=
  s!"DROP INDEX {quoteName name}"

/-- The name of a table while it is made anew. -/
def rebuildName (table : String) : String :=
  "__rebuild_" ++ table

namespace TableShape

/-- The definitions of columns and constraints, one a line. -/
def body (t : TableShape) : String :=
  ",\n  ".intercalate <|
    t.columns.map (·.definition) ++
      (t.uniques.zipIdx 1).map (fun (u, number) => u.definition t.name number) ++
      t.references.map (·.definition t.name)

/-- The statement that makes the table under a name. -/
def createAs (t : TableShape) (name : String) : String :=
  s!"CREATE TABLE {quoteName name} (\n  " ++ t.body ++ "\n)"

/-- The statement that makes the table. -/
def create (t : TableShape) : String :=
  t.createAs t.name

/-- The statements that make the indexes. -/
def createIndexes (t : TableShape) : List String :=
  t.indexes.map (·.create t.name)

/-- The statements that make the table and its indexes. -/
def createAll (t : TableShape) : List String :=
  t.create :: t.createIndexes

/-- The statement that takes over the rows of the old table. -/
def transfer (t : TableShape) (copies : List ColumnCopy) : String :=
  let columns := quoteNames (copies.map (·.column))
  let values := commaList (copies.map (·.value.sql))
  s!"INSERT INTO {quoteName (rebuildName t.name)} ({columns}) SELECT {values} " ++
    s!"FROM {quoteName t.name}"

/-- The statements that make the table anew.  A column that takes nothing from the old
table starts out null. -/
def rebuild (t : TableShape) (copies : List ColumnCopy) : List String :=
  [t.createAs (rebuildName t.name),
   t.transfer copies,
   s!"DROP TABLE {quoteName t.name}",
   s!"ALTER TABLE {quoteName (rebuildName t.name)} RENAME TO {quoteName t.name}"] ++
    t.createIndexes

end TableShape

end EntityStore
