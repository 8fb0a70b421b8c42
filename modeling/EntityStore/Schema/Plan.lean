import EntityStore.Calendar.Stored
import EntityStore.Schema.Statement

/-!
# Plans of changes

A plan says how a live schema becomes the target.  A table that is not there is made, a
table with other columns or constraints is made anew, and of any other table only the
indexes change.  Changes that lose values, and references that existing rows could not
satisfy, are found out before anything is done.
-/

namespace EntityStore

open Text Sql

/-! ### Values for existing rows -/

/-- The identifier of zeros as a literal. -/
def emptyGuid : String :=
  quoteText "00000000-0000-0000-0000-000000000000"

/-- The timestamp that stands for a missing one. -/
def epoch : Timestamp :=
  ⟨⟨1970, 1, 1, by decide⟩, .midnight⟩

/-- The text of the epoch in a format, or in the usual one if that cannot be written. -/
def epochText (format : String) : String :=
  ((epoch.render? format).or (epoch.render? Calendar.defaultFormat)).getD ""

/-- The types of numbers and truth values. -/
def numberTypes : List String :=
  ["INTEGER", "INT", "BIGINT", "REAL", "DOUBLE", "FLOAT", "NUMERIC", "BOOLEAN"]

/-- The literal that existing rows get in a new column that cannot be null. -/
def backfill (sqlType format : String) : String :=
  let base := baseType sqlType
  if numberTypes.contains base then "0"
  else if base = "GUID" then emptyGuid
  else if base = "DATETIME" then quoteText (epochText format)
  else if base = "BLOB" then "X" ++ quoteText ""
  else quoteText "-"

/-! ### Differences of tables -/

/-- Why a table is made anew. -/
inductive Reason where
  | addColumn (column : String)
  | resizeColumn (column : String)
  | retypeColumn (column : String)
  | tightenColumn (column : String)
  | loosenColumn (column : String)
  | keyColumn (column : String)
  | dropColumn (column : String)
  | reference (column : String)
  | dropReference (column : String)
  | uniques
  deriving DecidableEq, Repr

/-- A reason in words. -/
def Reason.message : Reason → String
  | addColumn column => s!"add column {column}"
  | resizeColumn column => s!"resize column {column}"
  | retypeColumn column => s!"retype column {column}"
  | tightenColumn column => s!"make {column} non-nullable"
  | loosenColumn column => s!"make {column} nullable"
  | keyColumn column => s!"primary key on {column}"
  | dropColumn column => s!"drop column {column}"
  | reference column => s!"foreign key on {column}"
  | dropReference column => s!"drop foreign key on {column}"
  | uniques => "unique constraints"

/-- What speaks against a change. -/
inductive Finding where
  | retyped (table column live target : String)
  | dropped (table column : String)
  /-- Existing rows would have no reference in a new column. -/
  | addedReference (table column : String)
  /-- Rows without a reference would need one. -/
  | tightenedReference (table column : String)
  deriving DecidableEq, Repr

namespace Finding

/-- A finding in words. -/
def message : Finding → String
  | retyped table column live target =>
    s!"{table}.{column}: type would change from {live} to {target}"
  | dropped table column => s!"{table}.{column}: live column would be dropped"
  | addedReference table column =>
    s!"{table}.{column}: a non-nullable foreign key column cannot be added to existing rows"
  | tightenedReference table column =>
    s!"{table}.{column}: cannot become a non-nullable foreign key; " ++
      "no backfill satisfies the reference"

/-- Whether the change loses values, which can be allowed. -/
def isDestructive : Finding → Bool
  | retyped .. | dropped .. => true
  | addedReference .. | tightenedReference .. => false

/-- What is wrong with a schema for which this is found. -/
def problem (f : Finding) : SchemaProblem :=
  if f.isDestructive then .destructiveMigrationBlocked else .tighteningRejected

end Finding

/-- The differences of a part of two tables. -/
structure Difference where
  reasons : List Reason := []
  copies : List ColumnCopy := []
  findings : List Finding := []
  deriving DecidableEq, Repr

namespace Difference

/-- Differences one after the other. -/
def append (d e : Difference) : Difference :=
  ⟨d.reasons ++ e.reasons, d.copies ++ e.copies, d.findings ++ e.findings⟩

instance : Append Difference := ⟨append⟩

/-- The differences of all parts. -/
def all (ds : List Difference) : Difference :=
  ds.foldl (· ++ ·) {}

end Difference

/-- How a table comes to a target column that it does not have. -/
def addedColumn (target : TableShape) (format : String) (c : ColumnShape) : Difference :=
  if c.nullable then { reasons := [.addColumn c.name] }
  else if (target.reference? c.name).isSome then
    { findings := [.addedReference target.name c.name] }
  else
    { reasons := [.addColumn c.name]
      copies := [⟨c.name, .literal (backfill c.sqlType format)⟩] }

/-- How the type of a live column comes to that of a target column. -/
def changedType (target : TableShape) (c live : ColumnShape) : Difference :=
  if c.sameType live then {}
  else if c.isTextResize live then { reasons := [.resizeColumn c.name] }
  else
    { reasons := [.retypeColumn c.name]
      findings := [.retyped target.name c.name live.sqlType c.sqlType] }

/-- How a live column that may be null comes to be a target column that may not. -/
def tightenedColumn (target live : TableShape) (format : String) (c current : ColumnShape) :
    Difference :=
  if (target.reference? c.name).isSome && (live.reference? current.name).isNone then
    { findings := [.tightenedReference target.name c.name] }
  else
    { reasons := [.tightenColumn c.name]
      copies := [⟨c.name, .columnOr current.name (backfill c.sqlType format)⟩] }

/-- How a live column becomes a target column that is not stricter. -/
def keptColumn (c current : ColumnShape) : Difference :=
  { reasons := (if c.nullable && !current.nullable then [.loosenColumn c.name] else []) ++
      (if c.primaryKey ≠ current.primaryKey then [.keyColumn c.name] else [])
    copies := [⟨c.name, .column current.name⟩] }

/-- How a table comes to a target column. -/
def columnDifference (target live : TableShape) (format : String) (c : ColumnShape) :
    Difference :=
  match live.column? c.name with
  | none => addedColumn target format c
  | some current =>
    changedType target c current ++
      if current.nullable && !c.nullable then tightenedColumn target live format c current
      else keptColumn c current

/-- What becomes of a live column that is not in the target. -/
def droppedColumn (target : TableShape) (current : ColumnShape) : Difference :=
  if (target.column? current.name).isNone then
    { reasons := [.dropColumn current.name], findings := [.dropped target.name current.name] }
  else {}

/-- Whether a table has a foreign key, under the same name. -/
def TableShape.hasReference (t : TableShape) (r : ReferenceShape) : Bool :=
  t.references.any fun current => current.sameReference r && current.name = r.name

/-- The differences of foreign keys. -/
def referenceReasons (target live : TableShape) : List Reason :=
  (target.references.filter fun r => !live.hasReference r).map (fun r => .reference r.column) ++
    (live.references.filter fun r => (target.reference? r.column).isNone).map fun r =>
      .dropReference r.column

/-- The unique constraints of a table, with the names of columns in small letters. -/
def TableShape.uniqueKeys (t : TableShape) : List (Option String × List String) :=
  t.uniques.map fun u => (u.name, u.columns.map lower)

/-- The differences of unique constraints, whose order does not count. -/
def uniqueReasons (target live : TableShape) : List Reason :=
  if target.uniqueKeys.isPerm live.uniqueKeys then [] else [.uniques]

/-- The differences of two tables apart from their indexes. -/
def tableDifference (target live : TableShape) (format : String) : Difference :=
  .all (target.columns.map (columnDifference target live format)) ++
    .all (live.columns.map (droppedColumn target)) ++
    { reasons := referenceReasons target live ++ uniqueReasons target live }

/-! ### Changes -/

/-- The change of one table. -/
inductive Change where
  | create (table : TableShape)
  | rebuild (target : TableShape) (copies : List ColumnCopy) (reasons : List Reason)
  | indexes (table : String) (added : List IndexShape) (removed : List String)
  deriving DecidableEq, Repr

namespace Change

/-- The name of the table. -/
def table : Change → String
  | create t => t.name
  | rebuild target _ _ => target.name
  | indexes table _ _ => table

/-- The statements of the change in order. -/
def statements : Change → List String
  | .create t => t.createAll
  | .rebuild target copies _ => target.rebuild copies
  | .indexes table added removed => removed.map dropIndex ++ added.map (·.create table)

end Change

/-- Whether the name of an index is one of those made from tables and columns. -/
def IndexShape.isOwned (i : IndexShape) : Bool :=
  indexLead.toList.isPrefixOf i.name.toList

/-- The change of the indexes of a table, if they differ. -/
def indexChange? (target live : TableShape) : Option Change :=
  let added := target.indexes.filter fun i => !live.indexes.contains i
  let removed := live.indexes.filter fun i => i.isOwned && !target.indexes.contains i
  if added.isEmpty && removed.isEmpty then none
  else some (.indexes target.name added (removed.map (·.name)))

/-- The change of a live table, if it differs from the target. -/
def tableChange? (target live : TableShape) (format : String) : Option Change :=
  let d := tableDifference target live format
  if d.reasons.isEmpty then indexChange? target live
  else some (.rebuild target d.copies d.reasons)

/-- The change of the table of a target, if there is one. -/
def changeFor? (live : Schema) (format : String) (target : TableShape) : Option Change :=
  match live.table? target.name with
  | none => some (.create target)
  | some current => tableChange? target current format

/-- What speaks against the change of the table of a target. -/
def findingsFor (live : Schema) (format : String) (target : TableShape) : List Finding :=
  match live.table? target.name with
  | none => []
  | some current => (tableDifference target current format).findings

/-! ### Plans -/

/-- How changes are planned. -/
structure PlanOptions where
  /-- Whether columns may be dropped and get other types. -/
  allowDestructive : Bool := false
  /-- The format of stored timestamps. -/
  format : String := Calendar.defaultFormat
  deriving DecidableEq, Repr

/-- The changes of a schema in order. -/
structure MigrationPlan where
  changes : List Change := []
  /-- What gets lost with permission. -/
  warnings : List String := []
  deriving DecidableEq, Repr

/-- The statements of all changes in order. -/
def MigrationPlan.statements (plan : MigrationPlan) : List String :=
  plan.changes.flatMap (·.statements)

/-- The error about what speaks against changes. -/
def blocked (first : Finding) (findings : List Finding) : Error :=
  let problems := "; ".intercalate (findings.map (·.message))
  .ofSchema first.problem <|
    s!"reconciliation aborted, no changes were applied: {problems}" ++
      if first.isDestructive then
        " (set allow_destructive_migrations to drop or retype live columns)"
      else ""

namespace Schema

/-- What speaks against making a live schema the target. -/
def findings (target live : Schema) (format : String) : List Finding :=
  target.shapes.flatMap (findingsFor live format)

/-- The changes that make a live schema the target.  Live tables that are not in the
target stay as they are. -/
def changes (target live : Schema) (format : String) : List Change :=
  target.shapes.filterMap (changeFor? live format)

/-- The plan that makes a live schema the target, unless something speaks against it. -/
def plan (target live : Schema) (options : PlanOptions) : Except Error MigrationPlan :=
  let found := target.findings live options.format
  let against := found.filter fun f => !(options.allowDestructive && f.isDestructive)
  match against with
  | first :: _ => .error (blocked first against)
  | [] => .ok ⟨target.changes live options.format, found.map (·.message)⟩

end Schema

end EntityStore
