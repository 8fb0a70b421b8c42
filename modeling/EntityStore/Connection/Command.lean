import EntityStore.Connection

/-!
# Commands as values

A command says what is to be done on a connection, and a reply says what has come of it.
-/

namespace EntityStore

/-- Kinds of commands. -/
inductive CommandKind where
  | query
  | execute
  | insert
  | batch
  | begin
  | commit
  | rollback
  deriving DecidableEq, Repr

/-- A command as a value.  The text and the parameters matter only where the kind of
command takes them. -/
structure Command where
  kind : CommandKind
  sql : String := ""
  params : List Param := []
  deriving DecidableEq

/-- What a command gives. -/
inductive Reply where
  | rows (rows : List Row)
  /-- The number of changed rows. -/
  | changes (n : Nat)
  /-- The key of a new row. -/
  | key (key : Int64)
  | done
  deriving DecidableEq

namespace Connection

variable {σ : Type}

/-- Does on a connection what a command says. -/
def perform (c : Connection σ) (command : Command) : Action σ Reply :=
  match command.kind with
  | .query => Reply.rows <$> c.rows command.sql command.params
  | .execute => Reply.changes <$> c.execute command.sql command.params
  | .insert => Reply.key <$> c.insert command.sql command.params
  | .batch => (fun _ => Reply.done) <$> c.batch command.sql
  | .begin => (fun _ => Reply.done) <$> c.begin
  | .commit => (fun _ => Reply.done) <$> c.commit
  | .rollback => (fun _ => Reply.done) <$> c.rollback

end Connection

end EntityStore
