import EntityStore.Text.Ascii
import EntityStore.Text.Blank

/-!
# Shapes of tables

The shape of a table says which columns, constraints and indexes it has.  The shapes
an application asks for and those found in a database are compared with each other.
-/

namespace EntityStore

open Text

/-- The type of a column without blanks and in capital letters. -/
def normalizeType (sqlType : String) : String :=
  upper (String.ofList (squeeze sqlType.toList))

/-- The type of a column without what stands in parentheses. -/
def baseType (sqlType : String) : String :=
  String.ofList ((normalizeType sqlType).toList.takeWhile (· ≠ '('))

/-- Whether a type is one of those of texts. -/
def isTextType (sqlType : String) : Bool :=
  ["TEXT", "VARCHAR", "NVARCHAR"].contains (baseType sqlType)

/-- A column of a table. -/
structure ColumnShape where
  name : String
  sqlType : String
  nullable : Bool
  primaryKey : Bool := false
  deriving DecidableEq, Repr

namespace ColumnShape

/-- The column with a name and a type, which is written in capital letters. -/
def ofType (name sqlType : String) (nullable : Bool) : ColumnShape :=
  ⟨name, upper sqlType, nullable, false⟩

/-- Whether two columns have the same type. -/
def sameType (c d : ColumnShape) : Bool :=
  normalizeType c.sqlType = normalizeType d.sqlType

/-- Whether both columns have a type of texts.  The database does not enforce lengths, so
that stored texts survive a change from one to the other. -/
def isTextResize (c d : ColumnShape) : Bool :=
  isTextType c.sqlType && isTextType d.sqlType

end ColumnShape

/-- A foreign key constraint. -/
structure ReferenceShape where
  /-- The name of the constraint, if it has one. -/
  name : Option String
  column : String
  foreignTable : String
  foreignColumn : String
  onDelete : String
  deriving DecidableEq, Repr

/-- Whether two constraints say the same, whatever their names are. -/
def ReferenceShape.sameReference (r s : ReferenceShape) : Bool :=
  sameName r.column s.column && sameName r.foreignTable s.foreignTable &&
    sameName r.foreignColumn s.foreignColumn && sameName r.onDelete s.onDelete

/-- A unique constraint. -/
structure UniqueShape where
  /-- The name of the constraint, if it has one. -/
  name : Option String
  columns : List String
  deriving DecidableEq, Repr

/-- The order of unique constraints: by name, those without one first, then by columns. -/
def UniqueShape.compare (u v : UniqueShape) : Ordering :=
  (Ord.compare u.name v.name).then (Ord.compare u.columns v.columns)

/-- An index that is not a constraint. -/
structure IndexShape where
  name : String
  columns : List String
  deriving DecidableEq, Repr

/-- A table. -/
structure TableShape where
  name : String
  columns : List ColumnShape := []
  references : List ReferenceShape := []
  uniques : List UniqueShape := []
  indexes : List IndexShape := []
  deriving DecidableEq, Repr

namespace TableShape

/-- The column with a name. -/
def column? (t : TableShape) (name : String) : Option ColumnShape :=
  t.columns.find? fun c => sameName c.name name

/-- The first foreign key of a column. -/
def reference? (t : TableShape) (column : String) : Option ReferenceShape :=
  t.references.find? fun r => sameName r.column column

/-- The table with its constraints and indexes in order. -/
def normalize (t : TableShape) : TableShape :=
  { t with
    references := t.references.mergeSort fun r s => decide (r.column ≤ s.column)
    uniques := t.uniques.mergeSort fun u v => (u.compare v).isLE
    indexes := t.indexes.mergeSort fun i j => decide (i.name ≤ j.name) }

end TableShape

/-- A schema: tables under keys in increasing order. -/
structure Schema where
  tables : List (String × TableShape) := []
  increasing : tables.Pairwise fun a b => a.1 < b.1 := by exact List.Pairwise.nil
  deriving DecidableEq

namespace Schema

/-- Tables in the order of their keys with one more, which replaces that of the same key. -/
def insertSorted (key : String) (t : TableShape) :
    List (String × TableShape) → List (String × TableShape)
  | [] => [(key, t)]
  | (k, u) :: rest =>
    if key < k then (key, t) :: (k, u) :: rest
    else if k < key then (k, u) :: insertSorted key t rest
    else (key, t) :: rest

theorem fst_of_mem_insertSorted {key : String} {t : TableShape}
    {tables : List (String × TableShape)} {entry : String × TableShape}
    (h : entry ∈ insertSorted key t tables) :
  entry.1 = key ∨ entry ∈ tables
  := by
  induction tables with
  | nil => simp_all [insertSorted]
  | cons first rest ih =>
    obtain ⟨k, u⟩ := first
    unfold insertSorted at h
    split at h
    · simp_all
      rcases h with rfl | h <;> simp_all
    · split at h
      · rcases List.mem_cons.1 h with rfl | h
        · simp
        · rcases ih h with h | h <;> simp [h]
      · rcases List.mem_cons.1 h with rfl | h <;> simp_all

theorem increasing_insertSorted (key : String) (t : TableShape)
    (tables : List (String × TableShape)) (h : tables.Pairwise fun a b => a.1 < b.1) :
  (insertSorted key t tables).Pairwise fun a b => a.1 < b.1
  := by
  induction tables with
  | nil => simp [insertSorted]
  | cons first rest ih =>
    obtain ⟨k, u⟩ := first
    obtain ⟨hk, hrest⟩ := List.pairwise_cons.1 h
    unfold insertSorted
    split
    · next lt =>
      refine List.pairwise_cons.2 ⟨fun b hb => ?_, h⟩
      rcases List.mem_cons.1 hb with rfl | hb
      · exact lt
      · exact String.lt_trans lt (hk b hb)
    · next notLt =>
      split
      · next gt =>
        refine List.pairwise_cons.2 ⟨fun b hb => ?_, ih hrest⟩
        rcases fst_of_mem_insertSorted hb with hb | hb
        · exact hb ▸ gt
        · exact hk b hb
      · next notGt =>
        have same : key = k := String.le_antisymm notGt notLt
        exact List.pairwise_cons.2 ⟨same ▸ hk, hrest⟩

/-- The schema without tables. -/
def empty : Schema :=
  {}

/-- The schema with a table under a key. -/
def insertAt (s : Schema) (key : String) (t : TableShape) : Schema :=
  ⟨insertSorted key t s.tables, increasing_insertSorted key t s.tables s.increasing⟩

/-- The schema with a table under its own name. -/
def insert (s : Schema) (t : TableShape) : Schema :=
  s.insertAt t.name t

/-- The tables in the order of their keys. -/
def shapes (s : Schema) : List TableShape :=
  s.tables.map (·.2)

/-- The keys in order. -/
def names (s : Schema) : List String :=
  s.tables.map (·.1)

/-- The table under a key, or else the first with a name. -/
def table? (s : Schema) (name : String) : Option TableShape :=
  (s.tables.lookup name).or (s.shapes.find? fun t => sameName t.name name)

/-- The schema with all tables in normal form. -/
def normalize (s : Schema) : Schema where
  tables := s.tables.map fun (key, t) => (key, t.normalize)
  increasing := by
    rw [List.pairwise_map]
    exact s.increasing

end Schema

end EntityStore
