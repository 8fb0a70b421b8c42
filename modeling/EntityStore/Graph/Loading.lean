import EntityStore.Graph.Identity
import EntityStore.Include
import EntityStore.Row.Mapper

/-!
# Graphs from rows

The rows of a plan are put together to a graph.  Every row has a root and, for every step,
at most one record.  A record that occurs in several rows is read once, and a link that
occurs in several rows is made once.
-/

namespace EntityStore

/-- What reads the root and the record of each step from a row. -/
structure RowReaders where
  root : RowMapper
  steps : List RowMapper

/-- The readers for rows with some columns. -/
def RowReaders.build (plan : IncludePlan) (columns : Columns) (format : String) : RowReaders where
  root := .build plan.root.record columns (columnLead (stepAlias 0)) format
  steps := plan.steps.map fun s => .build s.type.record columns (columnLead s.tableAlias) format

/-- A record found in a row: its key and its position in the graph. -/
structure Found where
  key : Int64
  position : Nat
  deriving DecidableEq, Repr

/-- A link by its step and the keys of the records at its ends. -/
structure LinkMark where
  step : Nat
  parent : Int64
  child : Int64
  deriving DecidableEq, Repr

/-- A graph with the positions of its roots. -/
structure LoadedGraph where
  graph : Graph := {}
  roots : List Nat := []
  deriving DecidableEq

/-- What has been put together so far. -/
structure Loading extends LoadedGraph where
  /-- The readers, which are built for the columns of the first row. -/
  readers : Option RowReaders := none
  identities : IdentityMap := {}
  links : List LinkMark := []

namespace Loading

/-- The position of a record of a row, which is read unless it is known, and whether it
was read. -/
def recordOf (l : Loading) (type : EntityType) (reader : RowMapper) (row : Row) (key : Int64) :
    Except Error (Nat × Bool × Loading) := do
  let make (g : Graph) : Except Error (Nat × Graph) := do
    let record ← reader.map row
    return g.add { type, record }
  let resolved ← l.identities.resolve ⟨type.record.name, key⟩ l.graph make
  return (resolved.position, resolved.created,
    { l with identities := resolved.map, graph := resolved.state })

/-- The record of a step linked from that of its parent, unless it is so already. -/
def link (l : Loading) (step : IncludeStep) (n : Nat) (parent child : Found) :
    Except Error Loading := do
  let mark : LinkMark := ⟨n, parent.key, child.key⟩
  if mark ∈ l.links then return l
  else
    let graph ← step.attach l.graph parent.position child.position
    return { l with graph, links := l.links ++ [mark] }

/-- Adds the record of a step to those found in a row, the root first.  A step without a
key has no record, and a record whose parent is missing is not linked. -/
def addStep (row : Row) (state : Loading × List (Option Found))
    (entry : (IncludeStep × RowMapper) × Nat) :
    Except Error (Loading × List (Option Found)) := do
  let (l, slots) := state
  let ((step, reader), n) := entry
  match reader.key? row with
  | none => return (l, slots ++ [none])
  | some key =>
    let (position, _, l) ← l.recordOf step.type reader row key
    let child : Found := ⟨key, position⟩
    let l ← match slots[step.parent]?.join with
      | some parent => l.link step n parent child
      | none => pure l
    return (l, slots ++ [some child])

/-- Adds the records of a row, which must have a root.  A root that was not known before
is one more root of the graph. -/
def addRow (plan : IncludePlan) (format : String) (l : Loading) (row : Row) :
    Except Error Loading := do
  let readers := l.readers.getD (.build plan row.columns format)
  let some key := readers.root.key? row
    | .error (.custom s!"eager load of {plan.descriptor.table}: row without a root key")
  let (position, created, l) ← l.recordOf plan.root readers.root row key
  let roots := if created then l.roots ++ [position] else l.roots
  let l := { l with roots, readers := some readers }
  let entries := (plan.steps.zip readers.steps).zipIdx
  let (l, _) ← entries.foldlM (addStep row) (l, [some ⟨key, position⟩])
  return l

end Loading

end EntityStore
