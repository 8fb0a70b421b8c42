import EntityStore.Connection
import EntityStore.Entity.Record
import EntityStore.Schema.ConstraintName
import EntityStore.Sql.Name

/-!
# Live schemas

The schema of a database, read from its catalog.  Tables of the database itself are left
out.
-/

namespace EntityStore

open Text Sql

namespace Live

/-- What the names of tables of the database itself begin with. -/
def internalLead : String := "sqlite_"

/-- The query for all tables. -/
def tablesQuery : String :=
  "SELECT name, sql FROM sqlite_master WHERE type = 'table' ORDER BY name"

/-- The query for what the catalog says about a table or an index. -/
def catalogQuery (topic name : String) : String :=
  s!"PRAGMA {topic}({quoteName name})"

/-- A table with the statement that made it, unless it is one of the database itself. -/
def tableOfRow (row : Row) : Except Error (Option (String × String)) := do
  let name ← row.textNamed "name"
  if internalLead.toList.isPrefixOf name.toList then return none
  else
    let sql ← row.textNamed? "sql"
    return some (name, sql.getD "")

/-- The shape of a column.  The column of the key cannot be null, whatever is said about it. -/
def columnOfRow (row : Row) : Except Error ColumnShape := do
  let name ← row.textNamed "name"
  let sqlType ← row.textNamed "type"
  let notNull ← row.intNamed "notnull"
  let key ← row.intNamed "pk"
  return { ColumnShape.ofType name sqlType (notNull = 0 && key = 0) with
    primaryKey := decide (0 < key) }

/-- The shape of a foreign key. -/
def referenceOfRow (names : ConstraintNames) (row : Row) : Except Error ReferenceShape := do
  let column ← row.textNamed "from"
  let foreignColumn ← row.textNamed? "to"
  let foreignTable ← row.textNamed "table"
  let onDelete ← row.textNamed "on_delete"
  return { name := names.foreignKey? column, column, foreignTable
           foreignColumn := foreignColumn.getD primaryKey, onDelete := upper onDelete }

/-- The place of a column in an index, and its name. -/
def memberOfRow (row : Row) : Except Error (Int64 × String) := do
  let place ← row.intNamed "seqno"
  let name ← row.textNamed "name"
  return (place, name)

variable {σ : Type}

/-- The rows of a query, each read by `read`. -/
def readRows {α : Type} (c : Connection σ) (sql : String) (read : Row → Except Error α) :
    Action σ (List α) := do
  let rows ← c.rows sql []
  ExceptT.mk (pure (rows.mapM read))

/-- The columns of an index in order. -/
def indexColumns (c : Connection σ) (index : String) : Action σ (List String) := do
  let members ← readRows c (catalogQuery "index_info" index) memberOfRow
  let sorted := members.mergeSort fun a b => decide (a.1 ≤ b.1)
  return sorted.map (·.2)

/-- The unique constraints and the indexes of a table. -/
structure Indexes where
  uniques : List UniqueShape := []
  plain : List IndexShape := []
  deriving DecidableEq

/-- The unique constraints and indexes with what a row of the catalog is about.  The index
of the key does not count. -/
def addIndex (c : Connection σ) (names : ConstraintNames) (found : Indexes) (row : Row) :
    Action σ Indexes := do
  let name ← ExceptT.mk (pure (row.textNamed "name"))
  let origin ← ExceptT.mk (pure (row.textNamed "origin"))
  match origin with
  | "u" => do
    let columns ← indexColumns c name
    return { found with uniques := found.uniques ++ [⟨names.unique? columns, columns⟩] }
  | "c" => do
    let columns ← indexColumns c name
    return { found with plain := found.plain ++ [⟨name, columns⟩] }
  | _ => return found

/-- The shape of a table that was made by a statement. -/
def table (c : Connection σ) (name sql : String) : Action σ TableShape := do
  let names := ConstraintNames.ofText sql
  let columns ← readRows c (catalogQuery "table_info" name) columnOfRow
  let references ← readRows c (catalogQuery "foreign_key_list" name) (referenceOfRow names)
  let rows ← c.rows (catalogQuery "index_list" name) []
  let found ← rows.foldlM (addIndex c names) {}
  return TableShape.normalize
    { name, columns, references, uniques := found.uniques, indexes := found.plain }

/-- The schema with one more table. -/
def addTable (c : Connection σ) (s : Schema) (definition : String × String) :
    Action σ Schema := do
  let t ← table c definition.1 definition.2
  return s.insert t

/-- The schema of a database. -/
def schema (c : Connection σ) : Action σ Schema := do
  let definitions ← readRows c tablesQuery tableOfRow
  (definitions.filterMap id).foldlM (addTable c) .empty

end Live

end EntityStore
