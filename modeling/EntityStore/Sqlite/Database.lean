import EntityStore.Connection
import EntityStore.Sqlite.Settings
import EntityStore.Sqlite.Statement
import EntityStore.Value.Stored

/-!
# Connections to a database

A connection to a database that has no tables.  Statements that need none are answered;
the others fail as soon as they are read.  Values are bound to the parameters of a
statement by name.
-/

namespace EntityStore.Sqlite

open Sql

/-- An open database without tables. -/
structure Database where
  path : String
  /-- The format of stored timestamps. -/
  format : String
  /-- Whether foreign keys are enforced. -/
  enforcing : Bool := true
  /-- Whether a transaction has begun. -/
  inside : Bool := false
  /-- Whether the connection itself has begun a transaction and not ended it, whatever
  statements have done. -/
  inTransaction : Bool := false
  /-- The number of rows changed by the last statement. -/
  changes : Nat := 0
  /-- The key of the row inserted last. -/
  lastKey : Int64 := 0
  deriving DecidableEq

/-- The database that settings open. -/
def Settings.connect (s : Settings) : Except Error Database := do
  s.check
  return { path := s.path, format := s.format }

namespace Database

variable {α : Type}

/-- The error about a statement. -/
def failed (problem : QueryProblem) (text sql : String) : Error :=
  .query problem text (some sql) none

/-- The error about a text that the database would read only in part. -/
def nullByte (sql : String) : Error :=
  failed .badSyntax "SQL contains null byte" sql

/-- Whether a text has a character that ends it for the database. -/
def hasNull (s : String) : Bool :=
  s.toList.contains '\x00'

/-- What a database says when it knows of no error. -/
def noError : String := "not an error"

/-- The greatest number of columns in a row. -/
def columnLimit : Nat := 2000

/-- The greatest number of parameters in a statement. -/
def parameterLimit : Nat := 32766

/-- What is wrong with a statement that could be read.  Parameters are counted first, then
columns; a statement without tables has no columns to name. -/
def problem? (statement : Statement) : Option String :=
  if parameterLimit < statement.parameterCount then some "too many SQL variables"
  else if columnLimit < statement.columns.length then some "too many columns in result set"
  else
    let needed? := statement.expressions.findSome? Expression.needed?
    needed?.map fun name => s!"no such column: {name}"

/-- Prepares a statement, which needs no table.  The enforcement of foreign keys changes
at once, but not within a transaction. -/
def prepare (sql : String) : Statement → Action Database Statement
  | .onTable name => throw (failed .badSyntax s!"no such table: {name}" sql)
  | .unreadable problem => throw (failed .badSyntax problem sql)
  | .setEnforcement on => do
    modify fun d => if d.inside then d else { d with enforcing := on }
    return .setEnforcement on
  | statement =>
    match problem? statement with
    | some text => throw (failed .badSyntax text sql)
    | none => return statement

/-- The values bound to parameters, the latest first. -/
abbrev Bindings := List (String × Value)

/-- Binds one more parameter, which must be one of those of a statement. -/
def bindOne (sql format : String) (slots : List String) (bound : Bindings) (p : Param) :
    Except Error Bindings :=
  if hasNull p.name then .error (nullByte sql)
  else if p.slot ∉ slots then
    .error (failed .badSyntax s!"statement has no parameter named {p.slot}" sql)
  else match p.value.stored? format with
    | some v => .ok ((p.slot, v) :: bound)
    | none => .error (failed .database s!"Failed to bind {p.slot}: {noError}" sql)

/-- Binds parameters in order.  Of several with one name the last counts. -/
def bindAll (sql format : String) (statement : Statement) (params : List Param) :
    Except Error Bindings :=
  let slots := statement.parameters
  params.foldlM (bindOne sql format slots) []

/-- The value of a parameter, null if none is bound to it. -/
def valueOf (bound : Bindings) (slot : String) : Value :=
  (bound.lookup slot).getD .null

/-- The rows of expressions, up to the first that has no value. -/
def evaluate (sql : String) (columns : List String) (bound : Bindings) :
    List (List Expression) → Delivery
  | [] => {}
  | cells :: rest =>
    match cells.mapM (Expression.value? (valueOf bound)) with
    | some values =>
      let delivery := evaluate sql columns bound rest
      { delivery with rows := ⟨columns, values⟩ :: delivery.rows }
    | none => { failure := some (failed .badSyntax "integer overflow" sql) }

/-- Ends the transaction that has begun. -/
def leave (sql text : String) : StateM Database Delivery := fun d =>
  if d.inside then ({}, { d with inside := false })
  else ({ failure := some (failed .badSyntax text sql) }, d)

/-- Runs a prepared statement. -/
def run (sql : String) (bound : Bindings) : Statement → StateM Database Delivery
  | .rows columns rows => return evaluate sql columns bound rows
  | .askEnforcement => fun d =>
    ({ rows := [⟨["foreign_keys"], [.int (if d.enforcing then 1 else 0)]⟩] }, d)
  | .begin => fun d =>
    if d.inside then
      ({ failure := some (failed .badSyntax
          "cannot start a transaction within a transaction" sql) }, d)
    else ({}, { d with inside := true })
  | .commit => leave sql "cannot commit - no transaction is active"
  | .rollback => leave sql "cannot rollback - no transaction is active"
  | .blank => return { failure := some (failed .database noError sql) }
  | _ => return {}

/-- What the first statement of a text delivers for values of its parameters. -/
def deliver (sql : String) (params : List Param) : Action Database Delivery := do
  if hasNull sql then throw (nullByte sql)
  let statement ← prepare sql (Statement.first sql)
  let d : Database ← get
  let bound ← ExceptT.mk (pure (bindAll sql d.format statement params))
  let delivery : Delivery ← run sql bound statement
  return delivery

/-- Runs the first statement of a text up to its first row. -/
def step (sql : String) (params : List Param) : Action Database Unit := do
  let delivery ← deliver sql params
  match delivery.rows, delivery.failure with
  | [], some e => throw e
  | _, _ => return ()

/-- Runs one of the statements of a text to its end. -/
def runOne (sql : String) (statement : Statement) : Action Database Unit := do
  if statement = .blank then return ()
  let prepared ← prepare sql statement
  let delivery : Delivery ← run sql [] prepared
  match delivery.failure with
  | some e => throw e
  | none => return ()

/-- Runs the statements of a text, none of them with values of parameters. -/
def execute (sql : String) : Action Database Unit := do
  if hasNull sql then throw (nullByte sql)
  (Statement.all sql).forM (runOne sql)

/-- Begins or ends a transaction of the connection, of which there is one at a time. -/
def setTransaction (sql : String) (wanted : Bool) : Action Database Unit := do
  let d : Database ← get
  if d.inTransaction = wanted then
    let text := if wanted then "Already in a transaction" else "Not in a transaction"
    throw (failed .database text sql)
  execute sql
  modify fun d => { d with inTransaction := wanted }

/-- The commands of a connection. -/
def connection : Connection Database where
  query sql params := do
    match ← (deliver sql params).run with
    | .ok delivery => return delivery
    | .error e => return { failure := some e }
  execute sql params := do
    step sql params
    let d : Database ← get
    return d.changes
  insert sql params := do
    step sql params
    let d : Database ← get
    return d.lastKey
  batch := execute
  begin := setTransaction "BEGIN IMMEDIATE" true
  commit := setTransaction "COMMIT" false
  rollback := setTransaction "ROLLBACK" false

end Database

end EntityStore.Sqlite
