import EntityStore.Entity.Description
import EntityStore.Sql.Name

/-!
# The registry of entities

A model lists entity types and rules about their tables.  A registry holds one
descriptor for each type of a model without problems.
-/

namespace EntityStore

open Text

/-- What a rule says about a table. -/
inductive Relation where
  /-- The columns together are unique. -/
  | uniqueGroup (columns : List String)
  | index (columns : List String)
  | references (column : String) (target : ForeignKey)
  deriving DecidableEq, Repr

/-- A rule about a table, which comes after the descriptions. -/
structure Rule where
  table : String
  relation : Relation
  deriving DecidableEq, Repr

/-- Entity types in the order in which they are registered, and rules in their order. -/
structure Model where
  entities : List EntityType
  rules : List Rule := []
  deriving DecidableEq, Repr

/-- The descriptors of the entity types of a model. -/
structure Registry where
  descriptors : List Descriptor
  deriving DecidableEq, Repr

/-- Descriptors in the making, with the problems found so far. -/
structure Assembly where
  descriptors : List Descriptor := []
  problems : List ModelProblem := []

namespace Assembly

/-- The assembly with more problems. -/
def note (a : Assembly) (problems : List ModelProblem) : Assembly :=
  { a with problems := a.problems ++ problems }

/-- What is wrong with the key field of an entity type. -/
def keyProblems (e : EntityType) : List ModelProblem :=
  match e.record.fields.find? fun f => sameName f.name primaryKey with
  | some f => if f.columnType = .integer then [] else [.keyNotInteger e.table]
  | none => [.keyMissing e.table]

/-- The assembly with one more entity type, unless it is there already. -/
def register (a : Assembly) (e : EntityType) : Assembly :=
  let draft := e.draft
  let a := a.note (keyProblems e ++ draft.problems)
  if a.descriptors.any fun d => d.typeName = e.record.name then
    a.note [.registeredTwice draft.descriptor.table]
  else { a with descriptors := a.descriptors ++ [draft.descriptor] }

/-- A descriptor with a column put into a unique group. -/
def joinGroup (group : UInt32) (state : Descriptor × List ModelProblem) (name : String) :
    Descriptor × List ModelProblem :=
  let (d, problems) := state
  match d.column? name with
  | none => (d, problems ++ [.groupColumn d.table name])
  | some c =>
    if c.uniqueGroup.isSome then (d, problems ++ [.alreadyGrouped d.table name])
    else ((d.updateColumn? name ({ · with uniqueGroup := some group })).getD d, problems)

/-- A descriptor after a rule about its table. -/
def relate (d : Descriptor) : Relation → Descriptor × List ModelProblem
  | .uniqueGroup columns => columns.foldl (joinGroup d.nextGroup) (d, [])
  | .index columns =>
    let problems := match columns.find? fun c => (d.resolve? c).isNone with
      | some name => [.indexColumn d.table name]
      | none => []
    ({ d with indexes := d.indexes ++ [columns] }, problems)
  | .references column target =>
    match d.updateColumn? column ({ · with foreignKey := some target }) with
    | some d => (d, [])
    | none => (d, [.foreignKeyColumn d.table column])

/-- The assembly after a rule. -/
def applyRule (a : Assembly) (rule : Rule) : Assembly :=
  match a.descriptors.findIdx? fun d => sameName d.table rule.table with
  | none => a.note [.unknownTable rule.table]
  | some i =>
    match a.descriptors[i]? with
    | none => a
    | some d =>
      let (d, problems) := relate d rule.relation
      { descriptors := a.descriptors.set i d, problems := a.problems ++ problems }

/-- The problems with the names of a table, given the descriptors before it. -/
def nameProblems (before : List Descriptor) (d : Descriptor) : List ModelProblem :=
  (if Sql.isIdentifier d.table then [] else [.badTableName d.table]) ++
  (match before.reverse.find? fun e => sameName e.table d.table with
    | some e => [.tableTwice d.table e.typeName d.typeName]
    | none => []) ++
  (d.columns.filter fun c => !Sql.isIdentifier c.name).map fun c => .badColumnName d.table c.name

/-- The problems with the names of tables, given the descriptors before them. -/
def allNameProblems (before : List Descriptor) : List Descriptor → List ModelProblem
  | [] => []
  | d :: ds => nameProblems before d ++ allNameProblems (before ++ [d]) ds

/-- The problem with a reference, if it leads nowhere. -/
def referenceProblem? (all : List Descriptor) (d : Descriptor) (c : Column) (fk : ForeignKey) :
    Option ModelProblem :=
  match all.find? fun t => sameName t.table fk.table with
  | none => some (.targetTable d.table c.name fk.table)
  | some t =>
    if (t.resolve? fk.column).isNone then
      some (.targetColumn d.table c.name t.table fk.column)
    else none

/-- The problems with the references of all descriptors. -/
def referenceProblems (all : List Descriptor) : List ModelProblem :=
  all.flatMap fun d => d.foreignKeys.filterMap fun (c, fk) => referenceProblem? all d c fk

/-- The assembly of a model, with all problems. -/
def ofModel (m : Model) : Assembly :=
  let a := m.entities.foldl register {}
  let a := m.rules.foldl applyRule a
  a.note (allNameProblems [] a.descriptors ++ referenceProblems a.descriptors)

end Assembly

namespace Registry

/-- The registry of a model, which must have no problems. -/
def build (m : Model) : Except Error Registry :=
  let a := Assembly.ofModel m
  if a.problems.isEmpty then .ok ⟨a.descriptors⟩
  else .error <| .ofConfig <|
    "invalid entity model: " ++ "; ".intercalate (a.problems.map ModelProblem.message)

/-- The descriptor of a type of entities. -/
def ofType? (r : Registry) (typeName : String) : Option Descriptor :=
  r.descriptors.find? fun d => d.typeName = typeName

/-- The descriptor of a type of entities, which must be registered. -/
def descriptor (r : Registry) (typeName : String) : Except Error Descriptor :=
  match r.ofType? typeName with
  | some d => .ok d
  | none => .error (.ofConfig s!"entity {typeName} is not registered")

/-- The descriptor of a table. -/
def table? (r : Registry) (name : String) : Option Descriptor :=
  r.descriptors.find? fun d => sameName d.table name

end Registry

end EntityStore
