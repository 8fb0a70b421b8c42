/-!
# Errors

What can go wrong with a database and with the model of its entities.  The wording
of an error is in `Error.message`; `Error.isCommandFailure` separates a failed
command, which leaves the caller with a default answer, from a mistake in the
program or its configuration.
-/

namespace EntityStore

/-- What happened to a database handle. -/
inductive ConnectionProblem where
  | connect
  | disconnected
  deriving DecidableEq, Repr

/-- Why a statement failed. -/
inductive QueryProblem where
  | badSyntax
  | constraint
  | notFound
  | permission
  | dataTruncation
  | busy
  | cancelled
  | database
  deriving DecidableEq, Repr

/-- Why a transaction cannot go on. -/
inductive TransactionProblem where
  | alreadyCommitted
  | alreadyRolledBack
  | faulted
  | nestedNotSupported
  deriving DecidableEq, Repr

/-- Why a schema cannot be brought about. -/
inductive SchemaProblem where
  | destructiveMigrationBlocked
  | unsupportedColumnType
  | tighteningRejected
  | invalid
  | migration
  deriving DecidableEq, Repr

/-- A value that is not of the expected kind. -/
structure Mismatch where
  expected : String
  actual : String
  column : Option String := none
  deriving DecidableEq, Repr

/-- An error.  The text of an underlying cause is kept where there is one. -/
inductive Error where
  | connection (problem : ConnectionProblem) (text : String) (cause : Option String)
  | query (problem : QueryProblem) (text : String) (sql : Option String) (cause : Option String)
  | type (mismatch : Mismatch)
  | transaction (problem : TransactionProblem) (text : String)
  | schema (problem : SchemaProblem) (text : String) (cause : Option String)
  | config (text : String) (cause : Option String)
  | translation (entity reason : String)
  | serialization (text : String)
  | custom (text : String)
  deriving DecidableEq, Repr

/-- The mismatch in words. -/
def Mismatch.detail (m : Mismatch) : String :=
  match m.column with
  | some column => s!"expected {m.expected} for column '{column}', found {m.actual}"
  | none => s!"expected {m.expected}, found {m.actual}"

namespace Error

/-- The error in words, without saying what kind of error it is. -/
def detail : Error → String
  | .connection _ text _ => text
  | .query _ text (some sql) _ => text ++ " (in `" ++ sql ++ "`)"
  | .query _ text none _ => text
  | .type m => m.detail
  | .transaction _ text => text
  | .schema _ text _ => text
  | .config text _ => text
  | .translation entity reason => s!"{reason} (predicate on {entity})"
  | .serialization text => text
  | .custom text => text

/-- The error in words. -/
def message : Error → String
  | .connection _ text _ => s!"Connection error: {text}"
  | .query _ text _ _ => s!"Query error: {text}"
  | .type m =>
    match m.column with
    | some column =>
      s!"Type error in column '{column}': expected {m.expected}, found {m.actual}"
    | none => s!"Type error: expected {m.expected}, found {m.actual}"
  | .transaction _ text => s!"Transaction error: {text}"
  | .schema _ text _ => s!"Schema error: {text}"
  | .config text _ => s!"Configuration error: {text}"
  | .translation entity reason =>
    s!"Translation error: {reason} (predicate on {entity})"
  | .serialization text => s!"Serialization error: {text}"
  | .custom text => text

/-- Whether the same command may succeed later. -/
def isRetryable : Error → Bool
  | .query .busy _ _ _ => true
  | _ => false

/-- Whether a single command failed, as opposed to a mistake in the model, the
configuration or the translation of a predicate. -/
def isCommandFailure : Error → Bool
  | .query .. | .type .. | .connection .. | .transaction .. => true
  | _ => false

/-- Whether a statement violated a constraint. -/
def isConstraintViolation : Error → Bool
  | .query .constraint _ _ _ => true
  | _ => false

/-- The statement that failed, if it is known. -/
def sql? : Error → Option String
  | .query _ _ sql _ => sql
  | _ => none

/-- What is wrong with the schema, if that is the error. -/
def schemaProblem? : Error → Option SchemaProblem
  | .schema problem _ _ => some problem
  | _ => none

/-- The text of the underlying cause, if there is one. -/
def cause? : Error → Option String
  | .connection _ _ cause | .query _ _ _ cause | .schema _ _ cause | .config _ cause => cause
  | _ => none

/-- A mismatch is put down to a column; other errors stay as they are. -/
def inColumn (column : String) : Error → Error
  | .type m => .type { m with column := some column }
  | e => e

/-- An error of the configuration without a cause. -/
def ofConfig (text : String) : Error :=
  .config text none

/-- An error of the schema without a cause. -/
def ofSchema (problem : SchemaProblem) (text : String) : Error :=
  .schema problem text none

end Error

end EntityStore
