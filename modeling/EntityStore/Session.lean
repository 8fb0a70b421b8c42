import EntityStore.Connection
import EntityStore.Context
import EntityStore.Outcome

/-!
# Sessions

A session runs operations on a connection.  An operation whose command fails is
reported and has a default answer; the connection takes note of the failure.
-/

namespace EntityStore

open Sql

/-- The state of a session: that of its connection, and the reports made so far. -/
structure SessionState (σ : Type) where
  inner : σ
  reports : List Event := []
  deriving DecidableEq

/-- A part of an operation of a session. -/
abbrev Operation (σ α : Type) : Type :=
  Action (SessionState σ) α

/-- A connection on which operations are run. -/
structure Session (σ : Type) where
  context : Context
  connection : Connection σ
  /-- Makes the connection ready for the commands of one operation. -/
  enter : Action σ Unit := pure ()

namespace Session

variable {σ α : Type}

/-- Reports what has happened. -/
def report (events : List Event) : Operation σ Unit :=
  modify fun t => { t with reports := t.reports ++ events }

/-- A command of the connection, once that is ready. -/
def onConnection (s : Session σ) (command : Action σ α) : Operation σ α := fun t =>
  let ready : Action σ α := do
    s.enter
    command
  let (answer, inner) := ready t.inner
  (answer, { t with inner })

/-- The descriptor of a type of entities. -/
def descriptor (s : Session σ) (type : EntityType) : Operation σ Descriptor :=
  ExceptT.mk (pure (s.context.registry.descriptor type.record.name))

/-- The condition a predicate comes to. -/
def condition (s : Session σ) (d : Descriptor) (tableAlias : Option String) (p : Predicate) :
    Operation σ Fragment := do
  let c := p.compile s.context.rules d tableAlias 0
  report c.events
  ExceptT.mk (pure c.result)

/-- The session after a command of an operation on a table has failed. -/
def afterFailure (s : Session σ) (operation table : String) (e : Error) (t : SessionState σ) :
    SessionState σ where
  inner := s.connection.fault t.inner
  reports := t.reports ++
    [{ operation, message := e.message, detail := e.sql?, context := some table }]

/-- The outcome of an operation on a table. -/
def settle (s : Session σ) (operation table : String) (default : α) (body : Operation σ α) :
    StateM (SessionState σ) (Outcome α) := fun t =>
  match body t with
  | (.ok a, t) => (.done a, t)
  | (.error e, t) =>
    if e.isCommandFailure then (.degraded default e, s.afterFailure operation table e t)
    else (.failed e, t)

end Session

end EntityStore
