import EntityStore.Connection.Command

/-!
# Transactions

A transaction runs commands on a connection of its own.  It begins with the first of
them and ends once: it is rolled back if a command failed or if it was marked, and
committed otherwise.
-/

namespace EntityStore

/-- How far a transaction has come. -/
inductive TransactionState where
  | active
  /-- It is going to be rolled back as it was marked. -/
  | withheld
  /-- It is going to be rolled back as a command failed. -/
  | faulted
  | committed
  | rolledBack
  deriving DecidableEq, Repr

/-- Whether the transaction has ended. -/
def TransactionState.isTerminal : TransactionState → Bool
  | .committed | .rolledBack => true
  | .active | .withheld | .faulted => false

/-- A transaction over the state of a connection. -/
structure Transaction (σ : Type) where
  inner : σ
  /-- Whether the connection has begun a transaction. -/
  begun : Bool := false
  state : TransactionState := .active
  deriving DecidableEq

/-- What can be done within a transaction. -/
inductive TransactionStep where
  | command (command : Command)
  /-- A query whose rows are taken one by one until those taken are refused. -/
  | take (sql : String) (params : List Param) (refuse : List Row → Option Error)
  | withhold
  | markFaulted

/-- How a transaction is ended. -/
inductive TransactionEnd where
  | commit
  | rollback
  /-- It is left as it is. -/
  | leave
  deriving DecidableEq, Repr

/-- The error about a command of a transaction that has ended. -/
def TransactionProblem.ended : TransactionProblem → Error
  | .alreadyCommitted => .transaction .alreadyCommitted "transaction already committed"
  | problem => .transaction problem "transaction already rolled back"

namespace Transaction

variable {σ α : Type}

/-- Whether a command has failed. -/
def isFaulted (t : Transaction σ) : Bool :=
  t.state = .faulted

/-- The transaction with the mark that it is not to be committed. -/
def withhold (t : Transaction σ) : Transaction σ :=
  if t.state = .active then { t with state := .withheld } else t

/-- The transaction after a command has failed. -/
def markFaulted (t : Transaction σ) : Transaction σ :=
  if t.state.isTerminal then t else { t with state := .faulted }

/-- A command of the connection. -/
def onInner (command : StateM σ α) : StateM (Transaction σ) α := fun t =>
  let (answer, inner) := command t.inner
  (answer, { t with inner })

/-- A command of the connection whose failure is noted. -/
def guarded (command : Action σ α) : Action (Transaction σ) α := fun t =>
  match onInner command t with
  | (.ok a, t) => (.ok a, t)
  | (.error e, t) => (.error e, t.markFaulted)

/-- A query of the connection whose failure is noted. -/
def guardedQuery (query : StateM σ Delivery) : StateM (Transaction σ) Delivery := fun t =>
  let (delivery, t) := onInner query t
  (delivery, if delivery.failure.isSome then t.markFaulted else t)

/-- Begins the transaction unless it has begun; it must not have ended.  A transaction
that cannot begin is not faulted. -/
def ensureBegun (c : Connection σ) : Action (Transaction σ) Unit := fun t =>
  match t.state with
  | .committed => (.error TransactionProblem.alreadyCommitted.ended, t)
  | .rolledBack => (.error TransactionProblem.alreadyRolledBack.ended, t)
  | _ =>
    if t.begun then (.ok (), t)
    else match onInner c.begin t with
      | (.ok (), t) => (.ok (), { t with begun := true })
      | (.error e, t) => (.error e, t)

/-- A command within the transaction. -/
def within (c : Connection σ) (command : Action σ α) : Action (Transaction σ) α := do
  ensureBegun c
  guarded command

/-- A query within the transaction. -/
def queryWithin (c : Connection σ) (query : StateM σ Delivery) :
    StateM (Transaction σ) Delivery := do
  match ← (ensureBegun c).run with
  | .ok () => guardedQuery query
  | .error e => return { failure := some e }

/-- The connection whose commands run within a transaction.  It can neither be committed
nor rolled back like any other. -/
def connection (c : Connection σ) : Connection (Transaction σ) where
  query sql params := queryWithin c (c.query sql params)
  execute sql params := within c (c.execute sql params)
  insert sql params := within c (c.insert sql params)
  batch sql := within c (c.batch sql)
  begin := ensureBegun c
  commit := throw <| .transaction .nestedNotSupported
    "commit a TransactionContext through its own commit()"
  rollback := throw <| .transaction .nestedNotSupported
    "roll back a TransactionContext through its own rollback()"
  fault t := { t.markFaulted with inner := c.fault t.inner }

/-- Rolls the transaction back as far as it has begun. -/
def abandon (c : Connection σ) : Action (Transaction σ) Unit := fun t =>
  let (answer, t) := if t.begun then onInner c.rollback t else (.ok (), t)
  (answer, { t with state := .rolledBack })

/-- Commits the transaction, which is rolled back if that fails. -/
def settle (c : Connection σ) : Action (Transaction σ) Unit := fun t =>
  if t.begun then
    match onInner c.commit t with
    | (.ok (), t) => (.ok (), { t with state := .committed })
    | (.error e, t) =>
      let (_, t) := onInner c.rollback t
      (.error e, { t with state := .rolledBack })
  else (.ok (), { t with state := .committed })

/-- Ends the transaction by committing it if nothing speaks against that.  A faulted
transaction is reported. -/
def commit (c : Connection σ) : Action (Transaction σ) Unit := fun t =>
  match t.state with
  | .committed | .rolledBack => (.ok (), t)
  | .active => settle c t
  | .withheld => abandon c t
  | .faulted =>
    match abandon c t with
    | (.ok (), t) =>
      (.error (.transaction .faulted "transaction faulted; all statements were rolled back"), t)
    | (.error e, t) => (.error e, t)

/-- Ends the transaction by rolling it back. -/
def rollback (c : Connection σ) : Action (Transaction σ) Unit := fun t =>
  if t.state.isTerminal then (.ok (), t) else abandon c t

/-- Does something within the transaction. -/
def step (c : Connection σ) : TransactionStep → Action (Transaction σ) Reply
  | .command command => (connection c).perform command
  | .take sql params refuse => Reply.rows <$> (connection c).takeRows sql params refuse
  | .withhold => do
    modify withhold
    return .done
  | .markFaulted => do
    modify markFaulted
    return .done

/-- Does one thing after another within the transaction, whatever comes of each. -/
def run (c : Connection σ) :
    List TransactionStep → StateM (Transaction σ) (List (Except Error Reply))
  | [] => return []
  | s :: rest => do
    let answer ← (step c s).run
    let answers ← run c rest
    return answer :: answers

/-- Ends the transaction like `commit` if it has not ended yet, whatever comes of it. -/
def close (c : Connection σ) (t : Transaction σ) : Transaction σ :=
  (commit c t).2

/-- Ends the transaction in a way, and closes it. -/
def finish (c : Connection σ) (way : TransactionEnd) : Action (Transaction σ) Unit := fun t =>
  let (answer, t) := match way with
    | .commit => commit c t
    | .rollback => rollback c t
    | .leave => (.ok (), t)
  (answer, close c t)

end Transaction

end EntityStore
