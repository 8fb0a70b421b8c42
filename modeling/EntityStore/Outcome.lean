import EntityStore.Error

/-!
# Outcomes

An operation that runs a command has an outcome.  A failed command does not stop the
caller, who gets a default answer together with the error; other errors leave no answer.
-/

namespace EntityStore

/-- What an operation comes to. -/
inductive Outcome (α : Type) where
  | done (answer : α)
  /-- A command failed, and the answer is the default one. -/
  | degraded (answer : α) (error : Error)
  | failed (error : Error)
  deriving DecidableEq

namespace Outcome

variable {α β : Type}

/-- Whether all went well. -/
def isDone : Outcome α → Bool
  | done _ => true
  | _ => false

/-- Whether the answer is the default one. -/
def isDegraded : Outcome α → Bool
  | degraded .. => true
  | _ => false

/-- Whether there is no answer. -/
def isFailed : Outcome α → Bool
  | failed _ => true
  | _ => false

/-- What went wrong, if anything. -/
def error? : Outcome α → Option Error
  | done _ => none
  | degraded _ e | failed e => some e

/-- The answer, unless anything went wrong. -/
def toResult : Outcome α → Except Error α
  | done a => .ok a
  | degraded _ e | failed e => .error e

/-- The answer, be it the default one. -/
def toAnswer : Outcome α → Except Error α
  | done a | degraded a _ => .ok a
  | failed e => .error e

/-- The outcome with its answer changed. -/
def map (f : α → β) : Outcome α → Outcome β
  | done a => done (f a)
  | degraded a e => degraded (f a) e
  | failed e => failed e

end Outcome

end EntityStore
