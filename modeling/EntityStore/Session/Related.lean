import EntityStore.Graph.Loading
import EntityStore.Join.View
import EntityStore.Session.Access

/-!
# Access to related records

The operations that read from several tables at once.
-/

namespace EntityStore

open Sql

namespace Session

variable {σ : Type}

/-- The graph of the roots that fulfil a predicate, if one is given, with all that a plan
loads along. -/
def fetchGraph (s : Session σ) (plan : IncludePlan) (p : Option Predicate) :
    StateM (SessionState σ) (Outcome LoadedGraph) :=
  s.settle "fetch_graph" plan.root.table {} do
    let condition ← p.mapM (s.condition plan.descriptor (some (stepAlias 0)))
    let statement := plan.select condition
    let step := Loading.addRow plan s.context.config.format
    let loading ← s.onConnection <|
      s.connection.foldRows statement.sql statement.params step {}
    return loading.toLoadedGraph

/-- The records a statement reads; without a statement there are none. -/
def recordsOf (s : Session σ) (destination : RecordType) :
    Option Fragment → Operation σ (List Record)
  | some statement => s.records destination statement
  | none => return []

/-- The records of a join. -/
def runJoin (s : Session σ) (destination : RecordType) (j : Join) :
    StateM (SessionState σ) (Outcome (List Record)) :=
  s.settle "join" j.left.type.table [] do
    let statement ← ExceptT.mk (pure (j.statement destination))
    s.recordsOf destination statement

/-- The records of a stored join. -/
def runView (s : Session σ) (destination : RecordType) (v : View) :
    StateM (SessionState σ) (Outcome (List Record)) :=
  s.settle "view" v.destination [] (s.recordsOf destination v.statement)

end Session

end EntityStore
