import EntityStore.Entity.Descriptor

/-!
# Descriptions

An entity describes its table by clauses beyond the list of its fields.  A clause
about a column that is not there is noted as a problem of the model.
-/

namespace EntityStore

/-- What is wrong with a model of entities. -/
inductive ModelProblem where
  | keyNotInteger (table : String)
  | keyMissing (table : String)
  | noColumn (table column : String)
  | indexColumn (table column : String)
  | registeredTwice (table : String)
  | unknownTable (table : String)
  | alreadyGrouped (table column : String)
  | groupColumn (table column : String)
  | foreignKeyColumn (table column : String)
  | badTableName (table : String)
  | tableTwice (table first second : String)
  | badColumnName (table column : String)
  | targetTable (table column target : String)
  | targetColumn (table column target missing : String)
  deriving DecidableEq, Repr

/-- A problem of a model in words. -/
def ModelProblem.message : ModelProblem → String
  | keyNotInteger table => s!"{table}: field '{primaryKey}' must be an integer"
  | keyMissing table => s!"{table}: missing '{primaryKey}' field"
  | noColumn table column => s!"{table}: no declared column named '{column}'"
  | indexColumn table column => s!"{table}: index references unknown column '{column}'"
  | registeredTwice table => s!"{table}: registered twice"
  | unknownTable table => s!"relation configured for unknown table '{table}'"
  | alreadyGrouped table column =>
    s!"{table}: column '{column}' already belongs to a unique group"
  | groupColumn table column =>
    s!"{table}: unique group references unknown column '{column}'"
  | foreignKeyColumn table column => s!"{table}: foreign key on unknown column '{column}'"
  | badTableName table => s!"'{table}' is not a valid table name"
  | tableTwice table first second => s!"table '{table}' declared by both {first} and {second}"
  | badColumnName table column => s!"{table}: '{column}' is not a valid column name"
  | targetTable table column target =>
    s!"{table}.{column} references unregistered table '{target}'"
  | targetColumn table column target missing =>
    s!"{table}.{column} references unknown column {target}.{missing}"

/-- A clause of a description. -/
inductive Clause where
  /-- Starts over with the fields of the entity under another table name. -/
  | table (name : String)
  /-- Deleting clears the activation flag. -/
  | softDelete
  | foreignKey (column : String) (target : ForeignKey)
  | unique (column : String) (group : UInt32)
  | maxLength (column : String) (length : Nat)
  | nullable (column : String)
  | required (column : String)
  | index (columns : List String)
  deriving DecidableEq, Repr

/-- A type of entities: records with a table of their own. -/
structure EntityType where
  record : RecordType
  table : String
  description : List Clause
  deriving DecidableEq, Repr

/-- A descriptor in the making, with the problems found so far. -/
structure Draft where
  descriptor : Descriptor
  problems : List ModelProblem := []
  deriving DecidableEq, Repr

namespace Draft

/-- The columns of the fields that are not in every table. -/
def ofFields (type : RecordType) (table : String) : Draft where
  descriptor :=
    { table
      typeName := type.name
      columns := (type.fields.filter fun f => !f.isImplicit).map fun f =>
        { name := f.name, type := f.columnType, nullable := f.nullable } }

/-- The draft with one more problem. -/
def note (d : Draft) (p : ModelProblem) : Draft :=
  { d with problems := d.problems ++ [p] }

/-- The draft with a column changed. -/
def onColumn (d : Draft) (name : String) (change : Column → Column) : Draft :=
  match d.descriptor.updateColumn? name change with
  | some descriptor => { d with descriptor }
  | none => d.note (.noColumn d.descriptor.table name)

/-- The draft after a clause of the description of an entity. -/
def apply (type : RecordType) (d : Draft) : Clause → Draft
  | .table name => ofFields type name
  | .softDelete => { d with descriptor := { d.descriptor with softDelete := true } }
  | .foreignKey column target => d.onColumn column ({ · with foreignKey := some target })
  | .unique column group => d.onColumn column ({ · with uniqueGroup := some group })
  | .maxLength column length => d.onColumn column ({ · with maxLength := some length })
  | .nullable column => d.onColumn column ({ · with nullable := true })
  | .required column => d.onColumn column ({ · with nullable := false })
  | .index columns =>
    let unknown := columns.filter fun c => (d.descriptor.resolve? c).isNone
    { descriptor := { d.descriptor with indexes := d.descriptor.indexes ++ [columns] }
      problems := d.problems ++ unknown.map (.indexColumn d.descriptor.table) }

end Draft

/-- The draft of an entity after all clauses of its description. -/
def EntityType.draft (e : EntityType) : Draft :=
  e.description.foldl (Draft.apply e.record) (Draft.ofFields e.record e.table)

end EntityStore
