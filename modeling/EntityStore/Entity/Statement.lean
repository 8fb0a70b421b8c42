import EntityStore.Entity.Descriptor
import EntityStore.Sql.Clause

/-!
# Statements on a table

The statements that read and write the records of one table.  Values are passed as
parameters, each named after its column and a number.
-/

namespace EntityStore

open Sql

namespace Descriptor

/-- The condition that rows have not been deleted, in a statement on the table alone, if
rows can be deleted without being removed. -/
def guards (d : Descriptor) : List String :=
  if d.softDelete then [s!"{quoteName activeFlag} = 1"] else []

/-- The part of a statement that selects rows by a condition and by others besides. -/
def clause (condition : Fragment) (others : List String) : Fragment where
  sql := whereSql (condition.sql :: others)
  params := condition.params

/-- The statement that reads the selected rows. -/
def selectRows (d : Descriptor) (clause : Fragment) (tail : String) : Fragment where
  sql := s!"SELECT {quoteNames (d.allColumns.map (·.1))} FROM {quoteName d.table}" ++
    clause.sql ++ tail
  params := clause.params

/-- What makes a statement read the row with the least key only. -/
def firstByKey : String :=
  s!" ORDER BY {quoteName primaryKey} LIMIT 1"

/-- The statement that counts the selected rows. -/
def countRows (d : Descriptor) (clause : Fragment) : Fragment where
  sql := s!"SELECT COUNT(*) FROM {quoteName d.table}{clause.sql}"
  params := clause.params

/-- The declared columns that are fields of a record, each with a parameter that has the
value of the field.  The number of a parameter is the place of its column. -/
def assignments (d : Descriptor) (type : RecordType) (r : Record) : List (String × Param) :=
  d.columns.zipIdx.filterMap fun (column, n) =>
    (type.fieldIndex? column.name).map fun i =>
      (column.name, ⟨column.name ++ decimalText n, r.valueAt i⟩)

/-- The statement that stores a record as a new row. -/
def insertRow (d : Descriptor) (type : RecordType) (r : Record) : Fragment :=
  let assignments := d.assignments type r
  let table := quoteName d.table
  if assignments.isEmpty then { sql := s!"INSERT INTO {table} DEFAULT VALUES" }
  else
    let names := quoteNames (assignments.map (·.1))
    let slots := commaList (assignments.map (·.2.slot))
    { sql := s!"INSERT INTO {table} ({names}) VALUES ({slots})"
      params := assignments.map (·.2) }

/-- The parameter that has the key of a record. -/
def keyParam (r : Record) (n : Nat) : Param :=
  ⟨primaryKey ++ decimalText n, .int r.key⟩

/-- The condition that the key is that of a record. -/
def keyIs (p : Param) : Fragment where
  sql := s!"{quoteName primaryKey} = {p.slot}"
  params := [p]

/-- A column with its new value. -/
def assignmentSql (assignment : String × Param) : String :=
  s!"{quoteName assignment.1} = {assignment.2.slot}"

/-- The statement that writes a record back to its row, unless there is nothing to write. -/
def updateRow? (d : Descriptor) (type : RecordType) (r : Record) : Option Fragment :=
  let assignments := d.assignments type r
  if assignments.isEmpty then none
  else
    let clause := clause (keyIs (keyParam r assignments.length)) []
    some
      { sql := s!"UPDATE {quoteName d.table} SET " ++
          commaList (assignments.map assignmentSql) ++ clause.sql
        params := assignments.map (·.2) ++ clause.params }

/-- The statement that deletes the selected rows.  Where rows are kept, they are marked
instead of being removed. -/
def deleteRows (d : Descriptor) (clause : Fragment) : Fragment where
  sql :=
    if d.softDelete then
      s!"UPDATE {quoteName d.table} SET {quoteName activeFlag} = 0{clause.sql}"
    else s!"DELETE FROM {quoteName d.table}{clause.sql}"
  params := clause.params

end Descriptor

end EntityStore
