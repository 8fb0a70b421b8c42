import EntityStore.Schema.Live
import Mathlib.Tactic.Common

/-!
# Reported catalogs

A database reports its tables, their columns and references, their indexes and the members of these
in rows of its catalog.  The text of a table, the foreign column of a reference and the name of a
member of an index may be missing; the last is so if an index is over an expression.  Every row is
read as what it reports, but for a member without a name.
-/

namespace EntityStore

/-! ### Values in rows -/

/-- A text, or null if there is none. -/
def Value.ofOptionalText : Option String → Value
  | some s => .text s
  | none => .null

namespace Row

variable {row : Row} {name : String}

theorem textNamed_of_text {s : String} (h : row.named? name = some (.text s)) :
  row.textNamed name = .ok s
  := by
  unfold textNamed getNamed
  rw [h]
  rfl

/-- A null where a text has to be is an error about its column. -/
theorem textNamed_of_null (h : row.named? name = some .null) :
  row.textNamed name =
    .error (.type { expected := "String", actual := "NULL", column := some name })
  := by
  unfold textNamed getNamed
  rw [h]
  rfl

theorem textNamed?_of_optionalText {s : Option String}
    (h : row.named? name = some (.ofOptionalText s)) :
  row.textNamed? name = .ok s
  := by
  unfold textNamed? getNamed
  rw [h]
  cases s <;> rfl

theorem intNamed_of_int {n : Int64} (h : row.named? name = some (.int n)) :
  row.intNamed name = .ok n
  := by
  unfold intNamed getNamed
  rw [h]
  rfl

end Row

/-! ### Columns and references -/

/-- A column as it is reported. -/
structure ReportedColumn where
  place : Int64
  name : String
  sqlType : String
  notNull : Int64
  default : Value := .null
  /-- The place of the column in the key, from one, or zero. -/
  key : Int64

namespace ReportedColumn

/-- The row about the column. -/
def row (c : ReportedColumn) : Row where
  columns := ["cid", "name", "type", "notnull", "dflt_value", "pk"]
  values := [.int c.place, .text c.name, .text c.sqlType, .int c.notNull, c.default, .int c.key]

/-- The column that is reported. -/
def shape (c : ReportedColumn) : ColumnShape :=
  { ColumnShape.ofType c.name c.sqlType (c.notNull = 0 && c.key = 0) with
    primaryKey := decide (0 < c.key) }

theorem columnOfRow_row (c : ReportedColumn) :
  Live.columnOfRow c.row = .ok c.shape
  := by
  have hname : c.row.textNamed "name" = .ok c.name := Row.textNamed_of_text rfl
  have htype : c.row.textNamed "type" = .ok c.sqlType := Row.textNamed_of_text rfl
  have hnotNull : c.row.intNamed "notnull" = .ok c.notNull := Row.intNamed_of_int rfl
  have hkey : c.row.intNamed "pk" = .ok c.key := Row.intNamed_of_int rfl
  unfold Live.columnOfRow
  rw [hname, htype, hnotNull, hkey]
  rfl

end ReportedColumn

/-- A foreign key as it is reported, one row for each of its columns. -/
structure ReportedReference where
  number : Int64
  place : Int64 := 0
  foreignTable : String
  column : String
  /-- The foreign column, unless the reference leaves it to the key. -/
  foreignColumn : Option String
  onUpdate : String := "NO ACTION"
  onDelete : String := "NO ACTION"
  matching : String := "NONE"

namespace ReportedReference

/-- The row about the reference. -/
def row (r : ReportedReference) : Row where
  columns := ["id", "seq", "table", "from", "to", "on_update", "on_delete", "match"]
  values := [.int r.number, .int r.place, .text r.foreignTable, .text r.column,
    .ofOptionalText r.foreignColumn, .text r.onUpdate, .text r.onDelete, .text r.matching]

/-- The reference that is reported. -/
def shape (names : ConstraintNames) (r : ReportedReference) : ReferenceShape where
  name := names.foreignKey? r.column
  column := r.column
  foreignTable := r.foreignTable
  foreignColumn := r.foreignColumn.getD primaryKey
  onDelete := Text.upper r.onDelete

theorem referenceOfRow_row (names : ConstraintNames) (r : ReportedReference) :
  Live.referenceOfRow names r.row = .ok (r.shape names)
  := by
  have hcolumn : r.row.textNamed "from" = .ok r.column := Row.textNamed_of_text rfl
  have hforeign : r.row.textNamed? "to" = .ok r.foreignColumn :=
    Row.textNamed?_of_optionalText rfl
  have htable : r.row.textNamed "table" = .ok r.foreignTable := Row.textNamed_of_text rfl
  have hdelete : r.row.textNamed "on_delete" = .ok r.onDelete := Row.textNamed_of_text rfl
  unfold Live.referenceOfRow
  rw [hcolumn, hforeign, htable, hdelete]
  rfl

end ReportedReference

/-! ### Indexes -/

/-- What an index was made for. -/
inductive IndexOrigin where
  | statement
  | unique
  | key
  deriving DecidableEq

/-- The letters for what an index was made for. -/
def IndexOrigin.letters : IndexOrigin → String
  | statement => "c"
  | unique => "u"
  | key => "pk"

/-- A member of an index as it is reported. -/
structure ReportedMember where
  place : Int64
  /-- The place of the column in the table, which is negative if the member is no column. -/
  column : Int64
  /-- The name of the column, if the member is one. -/
  name : Option String

/-- An index as it is reported. -/
structure ReportedIndex where
  place : Int64
  name : String
  origin : IndexOrigin
  isUnique : Int64 := 0
  isPartial : Int64 := 0
  members : List ReportedMember

/-- The error about a member without a name. -/
def unnamedMember : Error :=
  .type { expected := "String", actual := "NULL", column := some "name" }

namespace ReportedMember

/-- The row about the member. -/
def row (m : ReportedMember) : Row where
  columns := ["seqno", "cid", "name"]
  values := [.int m.place, .int m.column, .ofOptionalText m.name]

/-- A member is read exactly if it has a name. -/
theorem memberOfRow_row (m : ReportedMember) :
  Live.memberOfRow m.row =
    if m.name.isSome then .ok (m.place, m.name.getD "") else .error unnamedMember
  := by
  have hplace : m.row.intNamed "seqno" = .ok m.place := Row.intNamed_of_int rfl
  unfold Live.memberOfRow
  rw [hplace]
  cases hname : m.name with
  | some name =>
    have htext : m.row.textNamed "name" = .ok name :=
      Row.textNamed_of_text (by rw [row, hname]; rfl)
    rw [htext]
    rfl
  | none =>
    have hnull : m.row.textNamed "name" = .error unnamedMember :=
      Row.textNamed_of_null (by rw [row, hname]; rfl)
    rw [hnull]
    rfl

end ReportedMember

namespace ReportedIndex

/-- The row about the index. -/
def row (i : ReportedIndex) : Row where
  columns := ["seq", "name", "unique", "origin", "partial"]
  values := [.int i.place, .text i.name, .int i.isUnique, .text i.origin.letters, .int i.isPartial]

/-- The names of the columns of the index in order. -/
def columns (i : ReportedIndex) : List String :=
  (i.members.mergeSort fun a b => decide (a.place ≤ b.place)).filterMap (·.name)

/-- Whether all members have names, unless the index is that of the key. -/
def isNamed (i : ReportedIndex) : Bool :=
  i.origin = .key || i.members.all (·.name.isSome)

/-- The unique constraint that the index is for. -/
def unique? (names : ConstraintNames) (i : ReportedIndex) : Option UniqueShape :=
  if i.origin = .unique then some ⟨names.unique? i.columns, i.columns⟩ else none

/-- The index that a statement made. -/
def plain? (i : ReportedIndex) : Option IndexShape :=
  if i.origin = .statement then some ⟨i.name, i.columns⟩ else none

theorem isNamed_iff {i : ReportedIndex} :
  i.isNamed ↔ (i.origin ≠ .key → ∀ m ∈ i.members, m.name.isSome)
  := by
  simp only [isNamed, Bool.or_eq_true, decide_eq_true_eq, List.all_eq_true]
  tauto

end ReportedIndex

/-- A table as it is reported. -/
structure ReportedTable where
  name : String
  /-- The statement that made the table, if it is kept. -/
  sql : Option String
  columns : List ReportedColumn
  references : List ReportedReference := []
  indexes : List ReportedIndex := []

namespace ReportedTable

/-- The row about the table. -/
def row (t : ReportedTable) : Row where
  columns := ["name", "sql"]
  values := [.text t.name, .ofOptionalText t.sql]

/-- Whether the table is none of the database itself. -/
def isUser (t : ReportedTable) : Bool :=
  !Live.internalLead.toList.isPrefixOf t.name.toList

/-- The text of the statement that made the table, which is empty if it is not kept. -/
def text (t : ReportedTable) : String :=
  t.sql.getD ""

/-- The table that is reported: a column for each of its columns, and a reference for each of its
references. -/
def shape (t : ReportedTable) : TableShape :=
  let names := ConstraintNames.ofText t.text
  { name := t.name
    columns := t.columns.map (·.shape)
    references := t.references.map (·.shape names)
    uniques := t.indexes.filterMap (·.unique? names)
    indexes := t.indexes.filterMap (·.plain?) }

theorem tableOfRow_row (t : ReportedTable) :
  Live.tableOfRow t.row = .ok (if t.isUser then some (t.name, t.text) else none)
  := by
  have hname : t.row.textNamed "name" = .ok t.name := Row.textNamed_of_text rfl
  have hsql : t.row.textNamed? "sql" = .ok t.sql := Row.textNamed?_of_optionalText rfl
  unfold Live.tableOfRow
  rw [hname, hsql]
  show (if Live.internalLead.toList.isPrefixOf t.name.toList then Except.ok none
    else Except.ok (some (t.name, t.text))) = _
  unfold isUser
  cases Live.internalLead.toList.isPrefixOf t.name.toList <;> rfl

end ReportedTable

end EntityStore
