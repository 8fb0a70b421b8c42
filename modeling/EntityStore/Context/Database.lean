import EntityStore.Schema.Reconcile
import EntityStore.Session
import EntityStore.Sqlite.Database

/-!
# The database of a context

A context opens a connection of its own for every operation.  Operations that belong
together share one connection and one transaction in a scope.
-/

namespace EntityStore.Context

open Sqlite

/-- Opens the database. -/
def connect (c : Context) : Except Error Database :=
  (Settings.ofConfig c.config).connect

/-- The session in which every operation has a new connection. -/
def session (c : Context) : Session Database where
  context := c
  connection := Database.connection
  enter := fun d =>
    match c.connect with
    | .ok opened => (.ok (), opened)
    | .error e => (.error e, d)

/-- The transaction of a new scope. -/
def transaction (c : Context) : Except Error (Transaction Database) := do
  let database ← c.connect
  return { inner := database }

/-- The session in which all operations are part of one transaction. -/
def scope (c : Context) : Session (Transaction Database) where
  context := c
  connection := Transaction.connection Database.connection

/-- What a command answers on a new connection. -/
def onNewConnection {α : Type} (c : Context) (command : Action Database α) :
    Except Error α := do
  let database ← c.connect
  (command database).1

/-- The changes that make the schema of the database that of the entities. -/
def planSchema (c : Context) : Except Error MigrationPlan :=
  c.onNewConnection (Reconcile.plan Database.connection c.registry (.ofConfig c.config))

/-- The report about a pass that went wrong. -/
def passFailed (c : Context) (e : Error) : Event where
  operation := "reconcile"
  message := e.message
  context := some c.source

/-- Makes the schema of the database that of the entities.  If that goes wrong although
the database can be opened, it is reported. -/
def reconcile (c : Context) : Except Error ReconcileReport × List Event :=
  match c.connect with
  | .error e => (.error e, [])
  | .ok database =>
    match (Reconcile.run Database.connection c.registry (.ofConfig c.config) database).1 with
    | .ok report => (.ok report, [])
    | .error e => (.error e, [c.passFailed e])

end EntityStore.Context
