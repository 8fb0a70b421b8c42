import EntityStore.Entity.Statement
import EntityStore.Row.Mapper
import EntityStore.Session

/-!
# Access to records

The operations on the records of one table.  Rows that are marked as deleted are neither
read nor counted.
-/

namespace EntityStore

open Sql

/-- Records read from rows, with the mapper that is built for the columns of the first row. -/
structure RecordReading where
  mapper : Option RowMapper := none
  records : List Record := []

/-- Reads one more row. -/
def RecordReading.addRow (type : RecordType) (format : String) (r : RecordReading) (row : Row) :
    Except Error RecordReading := do
  let mapper := r.mapper.getD (.build type row.columns "" format)
  let record ← mapper.map row
  return ⟨some mapper, r.records ++ [record]⟩

namespace Session

variable {σ : Type}

/-- The records a statement reads. -/
def records (s : Session σ) (type : RecordType) (statement : Fragment) :
    Operation σ (List Record) := do
  let step := RecordReading.addRow type s.context.config.format
  let read ← s.onConnection (s.connection.foldRows statement.sql statement.params step {})
  return read.records

/-- The error about an entity that has not been stored. -/
def unsaved (type : EntityType) : Error :=
  .custom s!"{type.table}: entity has no primary key yet"

/-- Checks that an entity has been stored. -/
def checkSaved (type : EntityType) (r : Record) : Operation σ Unit :=
  if r.isNew then throw (unsaved type) else pure ()

/-- The records that fulfil a predicate, as the end of the statement says. -/
def select (s : Session σ) (type : EntityType) (p : Predicate) (tail : String) :
    Operation σ (List Record) := do
  let d ← s.descriptor type
  let condition ← s.condition d none p
  s.records type.record (d.selectRows (Descriptor.clause condition d.guards) tail)

/-- The records that fulfil a predicate. -/
def fetch (s : Session σ) (type : EntityType) (p : Predicate) :
    StateM (SessionState σ) (Outcome (List Record)) :=
  s.settle "fetch" type.table [] (s.select type p "")

/-- All records. -/
def fetchAll (s : Session σ) (type : EntityType) :
    StateM (SessionState σ) (Outcome (List Record)) :=
  s.fetch type .always

/-- The record with the least key that fulfils a predicate. -/
def first (s : Session σ) (type : EntityType) (p : Predicate) :
    StateM (SessionState σ) (Outcome (Option Record)) :=
  s.settle "first" type.table none do
    let records ← s.select type p Descriptor.firstByKey
    return records.head?

/-- The number of records that fulfil a predicate. -/
def count (s : Session σ) (type : EntityType) (p : Predicate) :
    StateM (SessionState σ) (Outcome Int64) :=
  s.settle "count" type.table 0 do
    let d ← s.descriptor type
    let condition ← s.condition d none p
    let statement := d.countRows (Descriptor.clause condition d.guards)
    match ← s.onConnection (s.connection.firstRow? statement.sql statement.params) with
    | some row => ExceptT.mk (pure (row.intAt 0))
    | none => return 0

/-- Stores a record as a new row.  It then has the key of that. -/
def insert (s : Session σ) (type : EntityType) (r : Record) :
    StateM (SessionState σ) (Outcome Int64 × Record) := do
  let outcome ← s.settle "insert" type.table 0 do
    let d ← s.descriptor type
    let statement := d.insertRow type.record r
    s.onConnection (s.connection.insert statement.sql statement.params)
  match outcome with
  | .done key => return (outcome, { r with key })
  | _ => return (outcome, r)

/-- Writes a record back to its row, and gives the number of changed rows. -/
def update (s : Session σ) (type : EntityType) (r : Record) :
    StateM (SessionState σ) (Outcome Nat) :=
  s.settle "update" type.table 0 do
    checkSaved type r
    let d ← s.descriptor type
    match d.updateRow? type.record r with
    | some statement => s.onConnection (s.connection.execute statement.sql statement.params)
    | none => return 0

/-- Deletes the rows that a clause selects. -/
def remove (s : Session σ) (d : Descriptor) (clause : Fragment) : Operation σ Nat :=
  let statement := d.deleteRows clause
  s.onConnection (s.connection.execute statement.sql statement.params)

/-- Deletes the row of a record, and gives the number of changed rows. -/
def delete (s : Session σ) (type : EntityType) (r : Record) :
    StateM (SessionState σ) (Outcome Nat) :=
  s.settle "delete" type.table 0 do
    checkSaved type r
    let d ← s.descriptor type
    s.remove d (Descriptor.clause (Descriptor.keyIs (Descriptor.keyParam r 0)) [])

/-- Deletes the rows that fulfil a predicate, and gives the number of changed rows. -/
def deleteWhere (s : Session σ) (type : EntityType) (p : Predicate) :
    StateM (SessionState σ) (Outcome Nat) :=
  s.settle "delete" type.table 0 do
    let d ← s.descriptor type
    let condition ← s.condition d none p
    s.remove d (Descriptor.clause condition [])

end Session

end EntityStore
