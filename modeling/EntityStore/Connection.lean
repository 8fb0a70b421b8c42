import EntityStore.Row

/-!
# Connections

A connection answers commands.  What it does is described by the state it keeps: each
command takes the state to its answer and to the next state, whether it succeeds or not.
-/

namespace EntityStore

/-- A step that can fail.  The state it leaves is kept in either case. -/
abbrev Action (σ α : Type) : Type :=
  ExceptT Error (StateM σ) α

/-- What a query delivers: rows in order, and what went wrong after the last of them. -/
structure Delivery where
  rows : List Row := []
  failure : Option Error := none
  deriving DecidableEq

/-- The commands of a connection. -/
structure Connection (σ : Type) where
  query : (sql : String) → List Param → StateM σ Delivery
  /-- Gives the number of changed rows. -/
  execute : (sql : String) → List Param → Action σ Nat
  /-- Gives the key of the new row. -/
  insert : (sql : String) → List Param → Action σ Int64
  /-- Executes statements without parameters. -/
  batch : (sql : String) → Action σ Unit
  begin : Action σ Unit
  commit : Action σ Unit
  rollback : Action σ Unit
  /-- Takes note that what was delivered could not be used. -/
  fault : σ → σ := id

namespace Connection

variable {σ α : Type}

/-- Folds the rows of a query.  The fold stops at its first error, which counts before
anything that goes wrong with the query later. -/
def foldRows (c : Connection σ) (sql : String) (params : List Param)
    (step : α → Row → Except Error α) (start : α) : Action σ α := do
  let delivery : Delivery ← c.query sql params
  match delivery.rows.foldlM step start with
  | .error e => do
    modify c.fault
    throw e
  | .ok a =>
    match delivery.failure with
    | some e => throw e
    | none => return a

/-- The rows of a query. -/
def rows (c : Connection σ) (sql : String) (params : List Param) : Action σ (List Row) := do
  let delivery : Delivery ← c.query sql params
  match delivery.failure with
  | some e => throw e
  | none => return delivery.rows

/-- The rows of a query, taken one by one.  It fails at the first row up to which the rows
are refused. -/
def takeRows (c : Connection σ) (sql : String) (params : List Param)
    (refuse : List Row → Option Error) : Action σ (List Row) :=
  let take (taken : List Row) (row : Row) : Except Error (List Row) :=
    match refuse (taken ++ [row]) with
    | some e => .error e
    | none => .ok (taken ++ [row])
  c.foldRows sql params take []

/-- The first row of a query, if there is one. -/
def firstRow? (c : Connection σ) (sql : String) (params : List Param) :
    Action σ (Option Row) :=
  (·.head?) <$> c.rows sql params

end Connection

end EntityStore
