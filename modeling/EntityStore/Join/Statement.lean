import EntityStore.Join

/-!
# Statements of joins

A join is read into records of a type.  Each field of the record that has a source
among the joined tables is a column of the result, under the name of the field.
-/

namespace EntityStore

open Text Sql

namespace Join

/-- The binding a field is pinned to and the name of its column, if the latest pin of
the field leads to one. -/
def pinned? (j : Join) (field : Field) : Option (Binding × String) := do
  let pin ← j.pins.reverse.find? fun p => sameName p.property field.name
  let (column, _) ← pin.binding.descriptor.resolve? field.name
  return (pin.binding, column)

/-- The column of a binding with the name and the type of a field. -/
def columnFor? (b : Binding) (field : Field) : Option (Binding × String) :=
  match b.descriptor.resolve? field.name with
  | some (column, type) => if type = field.columnType then some (b, column) else none
  | none => none

/-- The binding a field comes from and the name of its column: what the field is pinned
to, or else the first binding with a column of its name and type. -/
def source? (j : Join) (field : Field) : Option (Binding × String) :=
  (j.pinned? field).or (j.bindings.findSome? (columnFor? · field))

/-- The fields of a record that have a source, with it. -/
def projection (j : Join) (destination : RecordType) : List (Field × Binding × String) :=
  destination.fields.filterMap fun field => (j.source? field).map fun found => (field, found)

/-- A column of the result. -/
def projected (entry : Field × Binding × String) : String :=
  s!"{entry.2.1.tableAlias}.{entry.2.2} AS {quoteName entry.1.name}"

/-- A table under its alias. -/
def bound (b : Binding) : String :=
  s!"{quoteName b.descriptor.table} {b.tableAlias}"

/-- A clause in SQL. -/
def clauseSql (c : JoinClause) : String :=
  let table := s!" {c.kind.sql} {bound c.binding}"
  match c.pairing with
  | some pairing => s!"{table} ON {pairing.sql}"
  | none => table

/-- The conditions that the rows of tables with soft deletion have not been deleted. -/
def guards (j : Join) : List String :=
  (j.bindings.filter (·.descriptor.softDelete)).map fun b => activeGuard b.tableAlias

/-- The statement that reads records, with conditions besides the filters. -/
def render (j : Join) (destination : RecordType) (conditions : List String) :
    Except Error Fragment :=
  match j.failure with
  | some (table, reason) => .error (.translation table reason)
  | none =>
    let columns := (j.projection destination).map projected
    if columns.isEmpty then
      .error (.translation destination.name "destination shares no column with the joined tables")
    else .ok
      { sql := s!"SELECT {commaList columns} FROM {bound j.base}" ++
          String.join (j.clauses.map clauseSql) ++
          whereSql (j.filters.map (·.sql) ++ conditions)
        params := j.params }

/-- The statement that reads records as the join stands, deleted rows included. -/
def select (j : Join) (destination : RecordType) : Except Error Fragment :=
  j.render destination []

/-- The statement that reads records from rows that have not been deleted.  There is
none if the join is void. -/
def statement (j : Join) (destination : RecordType) : Except Error (Option Fragment) :=
  if j.isVoid then .ok none else (j.render destination j.guards).map some

end Join

end EntityStore
