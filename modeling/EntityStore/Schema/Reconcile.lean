import EntityStore.Config
import EntityStore.Schema.Live
import EntityStore.Schema.Plan
import EntityStore.Transaction

/-!
# Bringing a schema about

A pass plans the changes of a live schema and executes their statements in one
transaction, while the database does not enforce foreign keys.  Afterwards the
enforcement is as it was before.
-/

namespace EntityStore

/-- What a pass has done. -/
structure ReconcileReport where
  created : List String := []
  rebuilt : List String := []
  indexesCreated : List String := []
  indexesDropped : List String := []
  /-- What got lost with permission. -/
  warnings : List String := []
  /-- The executed statements in order. -/
  statements : List String := []
  deriving DecidableEq, Repr

namespace ReconcileReport

/-- The names of the indexes that a change makes. -/
def indexesMade : Change → List String
  | .create t => t.indexes.map (·.name)
  | .rebuild target _ _ => target.indexes.map (·.name)
  | .indexes _ added _ => added.map (·.name)

/-- The name of the table that a change makes. -/
def tableMade? : Change → Option String
  | .create t => some t.name
  | _ => none

/-- The name of the table that a change makes anew. -/
def tableRebuilt? : Change → Option String
  | .rebuild target _ _ => some target.name
  | _ => none

/-- The names of the indexes that a change removes by themselves. -/
def indexesRemoved : Change → List String
  | .indexes _ _ removed => removed
  | _ => []

/-- What a pass by a plan does. -/
def ofPlan (plan : MigrationPlan) : ReconcileReport where
  created := plan.changes.filterMap tableMade?
  rebuilt := plan.changes.filterMap tableRebuilt?
  indexesCreated := plan.changes.flatMap indexesMade
  indexesDropped := plan.changes.flatMap indexesRemoved
  warnings := plan.warnings
  statements := plan.statements

/-- Whether there is nothing to do. -/
def isNoop (r : ReconcileReport) : Bool :=
  r.statements.isEmpty

end ReconcileReport

/-- The options of a configuration. -/
def PlanOptions.ofConfig (config : Config) : PlanOptions :=
  ⟨config.allowDestructive, config.format⟩

namespace Reconcile

variable {σ : Type}

/-- The statement that asks whether foreign keys are enforced. -/
def enforcementQuery : String := "PRAGMA foreign_keys"

/-- The statement that turns the enforcement of foreign keys on or off. -/
def enforce (on : Bool) : String :=
  if on then "PRAGMA foreign_keys = ON" else "PRAGMA foreign_keys = OFF"

/-- The error about a statement that failed. -/
def migrationFailed (e : Error) : Error :=
  .schema .migration ("migration statement failed, the batch was rolled back " ++
    s!"and no changes were applied: {e.message}") (some e.message)

/-- The changes that make the schema of a database that of a registry. -/
def plan (c : Connection σ) (registry : Registry) (options : PlanOptions) :
    Action σ MigrationPlan := do
  let target ← ExceptT.mk (pure registry.target)
  let live ← Live.schema c
  ExceptT.mk (pure (target.plan live options))

/-- Whether foreign keys are enforced. -/
def isEnforced (c : Connection σ) : Action σ Bool := do
  match ← c.firstRow? enforcementQuery [] with
  | some row => do
    let n ← ExceptT.mk (pure (row.intAt 0))
    return n ≠ 0
  | none => return false

/-- Executes statements up to the first that fails. -/
def runAll (c : Connection σ) (statements : List String) : Action σ Unit :=
  statements.forM c.batch

/-- Executes statements in one transaction. -/
def apply (c : Connection σ) (statements : List String) : Action σ Unit := fun s =>
  match runAll (Transaction.connection c) statements ⟨s, false, .active⟩ with
  | (.ok (), t) =>
    let (answer, t) := Transaction.commit c t
    (answer, t.inner)
  | (.error e, t) =>
    let (_, t) := Transaction.rollback c t
    (.error (migrationFailed e), t.inner)

/-- Turns the enforcement of foreign keys on again if it was on before. -/
def restore (c : Connection σ) (enforced : Bool) : Action σ Unit :=
  if enforced then c.batch (enforce true) else pure ()

/-- Executes statements in one transaction without enforcing foreign keys.  An error of
the statements counts before one of what comes after them. -/
def execute (c : Connection σ) (statements : List String) : Action σ Unit := do
  let enforced ← isEnforced c
  c.batch (enforce false)
  let applied ← ExceptT.lift (apply c statements).run
  let restored ← ExceptT.lift (restore c enforced).run
  ExceptT.mk (pure (applied.bind fun _ => restored))

/-- Makes the schema of a database that of a registry. -/
def run (c : Connection σ) (registry : Registry) (options : PlanOptions) :
    Action σ ReconcileReport := do
  let plan ← plan c registry options
  let report := ReconcileReport.ofPlan plan
  if report.isNoop then return report
  else
    execute c report.statements
    return report

end Reconcile

end EntityStore
