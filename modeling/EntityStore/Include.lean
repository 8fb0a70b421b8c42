import EntityStore.Entity.Registry
import EntityStore.Graph
import EntityStore.Sql.Clause

/-!
# Included records

A plan says which records are loaded together with those of a root table, and from
which record each is linked.  Every step joins one more table to the root or to an
earlier step.
-/

namespace EntityStore

open Sql

/-- Why a step cannot be added to a plan. -/
inductive IncludeProblem where
  | noStep (navigation : String) (step : Nat)
  | otherType (navigation : String) (step : Nat) (table expected : String)
  | noForeignKey (navigation child parent : String)
  deriving DecidableEq, Repr

/-- A problem with a step in words. -/
def IncludeProblem.message : IncludeProblem → String
  | noStep navigation step =>
    s!"include '{navigation}': no step {decimalText step} to attach to"
  | otherType navigation step table expected =>
    s!"include '{navigation}': step {decimalText step} is {table}, not {expected}"
  | noForeignKey navigation child parent =>
    s!"include '{navigation}': no foreign key from {child} to {parent}"

/-- The alias of the table of a step; that of the root has the number zero. -/
def stepAlias (n : Nat) : String :=
  "t" ++ decimalText n

/-- What the names of the columns of a table begin with in the result. -/
def columnLead (tableAlias : String) : String :=
  tableAlias ++ "__"

/-- Records that are loaded along. -/
structure IncludeStep where
  type : EntityType
  descriptor : Descriptor
  tableAlias : String
  /-- The type of the records they are linked from. -/
  parentType : EntityType
  /-- The number of the step they are linked from; zero is the root. -/
  parent : Nat
  navigation : String
  cardinality : Cardinality
  /-- Whether the foreign key is a column of this step. -/
  reversed : Bool
  pairing : Equality
  deriving DecidableEq

/-- Links one record from another by the navigation of a step. -/
def IncludeStep.attach (s : IncludeStep) (g : Graph) (parent child : Nat) : Except Error Graph :=
  if g.isOf s.parentType.record.name parent && g.isOf s.type.record.name child then
    .ok (g.link s.navigation s.cardinality parent child)
  else .error (.custom s!"include '{s.navigation}': entity handle of unexpected type")

/-- The records that are loaded together with those of a root table. -/
structure IncludePlan where
  registry : Registry
  root : EntityType
  descriptor : Descriptor
  steps : List IncludeStep := []

namespace IncludePlan

/-- The plan that loads the root alone. -/
def start (registry : Registry) (root : EntityType) : Except Error IncludePlan := do
  return { registry, root, descriptor := ← registry.descriptor root.record.name }

/-- A table that steps can be linked from: its type, descriptor and alias. -/
structure Anchor where
  type : EntityType
  descriptor : Descriptor
  tableAlias : String
  deriving DecidableEq

/-- The table of the root or of a step. -/
def anchor? (plan : IncludePlan) : Nat → Option Anchor
  | 0 => some ⟨plan.root, plan.descriptor, stepAlias 0⟩
  | n + 1 => (plan.steps[n]?).map fun s => ⟨s.type, s.descriptor, s.tableAlias⟩

/-- How the rows of a table are paired with those of an anchor, by the foreign key of
either, and whether it is that of the table.  Only one record can be found by a foreign
key of the anchor. -/
def pairing? (anchor : Anchor) (child : Descriptor) (tableAlias : String)
    (cardinality : Cardinality) : Option (Bool × Equality) :=
  match cardinality, anchor.descriptor.foreignKeyTo? child.table,
      child.foreignKeyTo? anchor.descriptor.table with
  | .one, some (column, _), _ =>
    some (false, .columns tableAlias primaryKey anchor.tableAlias column.name)
  | _, _, some (column, _) =>
    some (true, .columns tableAlias column.name anchor.tableAlias primaryKey)
  | _, _, none => none

/-- Loads records along with those of an earlier step, whose type is as expected. -/
def add (plan : IncludePlan) (parent : Nat) (expected child : EntityType)
    (navigation : String) (cardinality : Cardinality) : Except Error IncludePlan := do
  let problem {α : Type} (p : IncludeProblem) : Except Error α := .error (.ofConfig p.message)
  let some anchor := plan.anchor? parent
    | problem (.noStep navigation parent)
  if anchor.type.record.name ≠ expected.record.name then
    problem (.otherType navigation parent anchor.descriptor.table expected.table)
  let descriptor ← plan.registry.descriptor child.record.name
  let tableAlias := stepAlias (plan.steps.length + 1)
  let some (reversed, pairing) := pairing? anchor descriptor tableAlias cardinality
    | problem (.noForeignKey navigation descriptor.table anchor.descriptor.table)
  let step : IncludeStep :=
    { type := child, descriptor, tableAlias, parentType := expected, parent, navigation
      cardinality, reversed, pairing }
  return { plan with steps := plan.steps ++ [step] }

/-- Records to be loaded along with those of a step, whose type is as expected. -/
structure Inclusion where
  cardinality : Cardinality
  child : EntityType
  navigation : String
  parent : Nat := 0
  /-- The type of the step they are linked from; it is that of the root if none is given. -/
  expected : Option EntityType := none
  deriving DecidableEq

/-- The plan that loads records along with those of a root. -/
def build (registry : Registry) (root : EntityType) (inclusions : List Inclusion) :
    Except Error IncludePlan := do
  let plan ← start registry root
  inclusions.foldlM (fun plan i =>
    plan.add i.parent (i.expected.getD root) i.child i.navigation i.cardinality) plan

/-- The columns of a table in the result, under names that begin with the alias. -/
def projection (descriptor : Descriptor) (tableAlias : String) : List String :=
  descriptor.allColumns.map fun (column, _) =>
    s!"{tableAlias}.{column} AS {quoteName (columnLead tableAlias ++ column)}"

/-- The join of a step.  Deleted rows are left out by its condition. -/
def joinSql (s : IncludeStep) : String :=
  let guards := if s.descriptor.softDelete then [activeGuard s.tableAlias] else []
  let table := quoteName s.descriptor.table
  s!" LEFT JOIN {table} {s.tableAlias} ON {allOf (s.pairing.sql :: guards)}"

/-- The statement of a plan, with a condition on the root. -/
def select (plan : IncludePlan) (filter : Option Fragment) : Fragment :=
  let root := stepAlias 0
  let columns := projection plan.descriptor root ++
    plan.steps.flatMap fun s => projection s.descriptor s.tableAlias
  let guards := if plan.descriptor.softDelete then [activeGuard root] else []
  let conditions := (filter.map (·.sql)).toList ++ guards
  let table := quoteName plan.descriptor.table
  { sql := s!"SELECT {commaList columns} FROM {table} {root}" ++
      String.join (plan.steps.map joinSql) ++ whereSql conditions ++
      s!" ORDER BY {root}.{primaryKey}"
    params := (filter.map (·.params)).getD [] }

end IncludePlan

end EntityStore
