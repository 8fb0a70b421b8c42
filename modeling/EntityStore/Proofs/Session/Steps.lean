import EntityStore.Context.Database
import EntityStore.Proofs.Session.Sent
import EntityStore.Proofs.Transaction.Lifecycle

/-!
# Operations within a transaction

The operations of a scope are part of one transaction.  Before its one command an operation makes
checks that do not need the connection.  `Passes` says all that an operation can do to a
transaction that has not ended, and what its outcome is then.
-/

namespace EntityStore

open Connection Sql

variable {σ α β : Type}

/-- The session whose operations are part of one transaction over a connection. -/
def Context.scopeOver (context : Context) (c : Connection σ) : Session (Transaction σ) where
  context
  connection := Transaction.connection c

/-- A scope is over the connection of its database. -/
theorem Context.scope_eq (context : Context) :
  context.scope = context.scopeOver Sqlite.Database.connection
  := rfl

/-- The outcome of an operation whose steps come to an error. -/
def Outcome.ofError (default : α) (e : Error) : Outcome α :=
  if e.isCommandFailure then .degraded default e else .failed e

/-- What is reported of an operation that comes to an outcome. -/
def Outcome.report (operation table : String) : Outcome α → List Event
  | .degraded _ e =>
    [{ operation, message := e.message, detail := e.sql?, context := some table }]
  | .done _ | .failed _ => []

namespace Call

/-- What an operation is called in reports. -/
def operation : Call → String
  | .fetch .. | .fetchAll .. => "fetch"
  | .first .. => "first"
  | .count .. => "count"
  | .insert .. => "insert"
  | .update .. => "update"
  | .delete .. | .deleteWhere .. => "delete"
  | .fetchGraph .. => "fetch_graph"
  | .runJoin .. => "join"
  | .runView .. => "view"

/-- What an operation is reported to be about. -/
def subject : Call → String
  | .fetch type _ | .fetchAll type | .first type _ | .count type _ | .insert type _
  | .update type _ | .delete type _ | .deleteWhere type _ => type.table
  | .fetchGraph plan _ => plan.root.table
  | .runJoin _ j => j.left.type.table
  | .runView _ v => v.destination

/-- The answer of an operation that fails on the connection. -/
def default : Call → Answer
  | .fetch type _ | .fetchAll type => .entities type []
  | .first type _ => .entity? type none
  | .count .. | .insert .. | .update .. | .delete .. | .deleteWhere .. => .number 0
  | .fetchGraph .. => .graph {}
  | .runJoin destination _ | .runView destination _ => .records destination []

end Call

namespace Session

/-! ### Checks -/

/-- Whether the condition on a table can be put in SQL. -/
def checkCondition (s : Session σ) (d : Descriptor) (tableAlias : Option String) (p : Predicate) :
    Except Error Unit :=
  (p.compile s.context.rules d tableAlias 0).result >>= fun _ => pure ()

/-- Whether a type is registered and the condition on it can be put in SQL. -/
def checkRows (s : Session σ) (type : EntityType) (p : Predicate) : Except Error Unit :=
  s.context.registry.descriptor type.record.name >>= fun d => s.checkCondition d none p

/-- Whether a record has been stored, and its type is registered. -/
def checkRecord (s : Session σ) (type : EntityType) (r : Record) : Except Error Unit :=
  if r.isNew then throw (unsaved type)
  else s.context.registry.descriptor type.record.name >>= fun _ => pure ()

/-- What an operation checks before it needs the connection. -/
def check (s : Session σ) : Call → Except Error Unit
  | .fetch type p | .first type p | .count type p | .deleteWhere type p => s.checkRows type p
  | .fetchAll type => s.checkRows type .always
  | .insert type _ => s.context.registry.descriptor type.record.name >>= fun _ => pure ()
  | .update type r | .delete type r => s.checkRecord type r
  | .fetchGraph _ none => pure ()
  | .fetchGraph plan (some p) => s.checkCondition plan.descriptor (some (stepAlias 0)) p
  | .runJoin destination j => j.statement destination >>= fun _ => pure ()
  | .runView .. => pure ()

end Session

namespace Transaction

/-! ### Steps of an operation -/

/-- The effect of a statement: it fails as the transaction cannot begin, or it is answered, and
if that is a failure the transaction is faulted. -/
theorem Effect.of_statement {begun begun' failed : Bool} {state state' : TransactionState}
    {s : TransactionStep} {added : List Exchange} {command : Command}
    (h : Effect begun state s failed added begun' state') (hs : s.statement? = some command) :
  (failed = true ∧ added = [.refusal] ∧ begun = false ∧ begun' = false ∧ state' = state) ∨
    (added = opening begun ++ [⟨command, failed⟩] ∧ begun' = true ∧
      state' = if failed then .faulted else state)
  := by
  cases h with
  | withhold | markFaulted => cases hs
  | @nested command hkind =>
      obtain ⟨kind, sql, params⟩ := command
      obtain rfl | rfl := hkind <;> cases hs
  | @begin command hkind =>
      obtain ⟨kind, sql, params⟩ := command
      obtain rfl := hkind
      cases hs
  | refused _ hbegun => exact .inl ⟨rfl, rfl, hbegun, rfl, rfl⟩
  | @statement _ asked hasked =>
      rw [hasked] at hs
      cases hs
      exact .inr ⟨rfl, rfl, rfl⟩

/-- What the steps of an operation with a check and a command come to in a transaction. -/
inductive Comes (check : Except Error Unit) (request : Option Command)
    (t : Transaction (Logged σ)) : Except Error α × Transaction (Logged σ) → Prop
  /-- The check fails, which is not the failure of a command. -/
  | refused {e : Error} (hcheck : check = .error e) (hfailure : e.isCommandFailure = false) :
      Comes check request t (.error e, t)
  /-- There is nothing to ask for. -/
  | idle (hcheck : check = .ok ()) (hrequest : request = none) (a : α) :
      Comes check request t (.ok a, t)
  /-- The command is run. -/
  | asked (hcheck : check = .ok ()) {command : Command} (hrequest : request = some command)
      (hstatement : (TransactionStep.command command).statement? = some command)
      {run : Except Error α × Transaction (Logged σ)}
      (heffect : HasEffect (.command command) t run) : Comes check request t run
  /-- The command succeeds, but its answer cannot be read. -/
  | unread (hcheck : check = .ok ()) {command : Command} (hrequest : request = some command)
      (hstatement : (TransactionStep.command command).statement? = some command)
      {e : Error} (hfailure : e.isCommandFailure = true) {t' : Transaction (Logged σ)}
      (heffect : HasEffect (.command command) t ((.ok () : Except Error Unit), t')) :
      Comes check request t (.error e, t')

variable {t : Transaction (Logged σ)} {check : Except Error Unit} {request : Option Command}

/-- A changed result is that of the same steps. -/
theorem Comes.map {answer : Except Error α} {t' : Transaction (Logged σ)}
    (h : Comes check request t (answer, t')) (f : α → β) :
  Comes check request t (answer.map f, t')
  := by
  cases h with
  | refused hcheck hfailure => exact .refused hcheck hfailure
  | idle hcheck hrequest a => exact .idle hcheck hrequest (f a)
  | asked hcheck hrequest hstatement heffect =>
      apply Comes.asked hcheck hrequest hstatement
      obtain ⟨added, hlog, heffect⟩ := heffect
      use added, hlog
      dsimp only at heffect ⊢
      rwa [isError_map]
  | unread hcheck hrequest hstatement hfailure heffect =>
      exact .unread hcheck hrequest hstatement hfailure heffect

/-- What an operation with a check and a command can do to a transaction that has not ended, and
its outcome. -/
inductive Passes (default : α) (check : Except Error Unit) (request : Option Command)
    (t : Transaction (Logged σ)) : Outcome α × Transaction (Logged σ) → Prop
  | refused {e : Error} (hcheck : check = .error e) (hfailure : e.isCommandFailure = false) :
      Passes default check request t (.failed e, t)
  | idle (hcheck : check = .ok ()) (hrequest : request = none) (a : α) :
      Passes default check request t (.done a, t)
  /-- The transaction cannot begin. -/
  | unbegun (hcheck : check = .ok ()) (e : Error) {t' : Transaction (Logged σ)}
      (hlog : t'.inner.log = t.inner.log ++ [.refusal]) (hwas : t.begun = false)
      (hbegun : t'.begun = false)
      (hstate : t'.state = if e.isCommandFailure then .faulted else t.state) :
      Passes default check request t (.ofError default e, t')
  | answered (hcheck : check = .ok ()) {command : Command} (hrequest : request = some command)
      (hkind : command.kind.isStatement = true) (a : α) {t' : Transaction (Logged σ)}
      (hlog : t'.inner.log = t.inner.log ++ (opening t.begun ++ [⟨command, false⟩]))
      (hbegun : t'.begun = true) (hstate : t'.state = t.state) :
      Passes default check request t (.done a, t')
  /-- The command fails, or what it answers is of no use. -/
  | faulted (hcheck : check = .ok ()) {command : Command} (hrequest : request = some command)
      (hkind : command.kind.isStatement = true) (e : Error) {t' : Transaction (Logged σ)}
      (hlog : t'.inner.log = t.inner.log ++ (opening t.begun ++ [⟨command, true⟩]))
      (hbegun : t'.begun = true) (hstate : t'.state = .faulted) :
      Passes default check request t (.ofError default e, t')

/-- The connection takes note of a failure after what it was asked last. -/
theorem fault_of_log (c : Connection σ) {before : List Exchange} {x : Exchange}
    (ht : t.state.isTerminal = false) (hlog : t.inner.log = before ++ [x]) :
  ((connection c.logged).fault t).inner.log = before ++ [{ x with failed := true }] ∧
    ((connection c.logged).fault t).begun = t.begun ∧
    ((connection c.logged).fault t).state = .faulted
  := by
  have hfault : (connection c.logged).fault t =
      { t.markFaulted with inner := c.logged.fault t.inner } := rfl
  rw [hfault, markFaulted_of_not_terminal ht]
  refine ⟨?_, rfl, rfl⟩
  show t.inner.log.modifyLast ({ · with failed := true }) = _
  rw [hlog, List.modifyLast_concat]

/-- What steps that come to an error leave, if it is the failure of a command. -/
theorem Comes.degraded (c : Connection σ) (ht : t.state.isTerminal = false) (default : α)
    {e : Error} (hfailure : e.isCommandFailure = true) {t' : Transaction (Logged σ)}
    (h : Comes check request t ((.error e : Except Error α), t')) :
  Passes default check request t (.ofError default e, (connection c.logged).fault t')
  := by
  -- In each case the command asked last is known, and it is the one noted as failed.
  have hnoted : ∀ {command : Command} {failed : Bool} {added : List Exchange},
      check = .ok () → request = some command →
      (TransactionStep.command command).statement? = some command →
      t'.inner.log = t.inner.log ++ added →
      Effect t.begun t.state (.command command) failed added t'.begun t'.state →
      Passes default check request t (.ofError default e, (connection c.logged).fault t') := by
    intro command failed added hcheck hrequest hstatement hlog heffect
    have hlive := heffect.isTerminal_eq ht
    obtain ⟨-, rfl, hwas, hbegun, -⟩ | ⟨rfl, hbegun, -⟩ := heffect.of_statement hstatement
    · obtain ⟨hnoted, hkept, hfaulted⟩ := fault_of_log c hlive hlog
      apply Passes.unbegun hcheck e hnoted hwas
      · rw [hkept, hbegun]
      · rw [hfaulted, if_pos hfailure]
    · rw [← List.append_assoc] at hlog
      obtain ⟨hnoted, hkept, hfaulted⟩ := fault_of_log c hlive hlog
      rw [List.append_assoc] at hnoted
      apply Passes.faulted hcheck hrequest
        (TransactionStep.isStatement_of_statement? hstatement) e hnoted
      · rw [hkept, hbegun]
      · exact hfaulted
  cases h with
  | refused hcheck hno =>
      rw [hno] at hfailure
      cases hfailure
  | asked hcheck hrequest hstatement heffect =>
      obtain ⟨added, hlog, heffect⟩ := heffect
      exact hnoted hcheck hrequest hstatement hlog heffect
  | unread hcheck hrequest hstatement _ heffect =>
      obtain ⟨added, hlog, heffect⟩ := heffect
      exact hnoted hcheck hrequest hstatement hlog heffect

/-- What steps that come to another error leave. -/
theorem Comes.failed (default : α) {e : Error} (hfailure : e.isCommandFailure = false)
    {t' : Transaction (Logged σ)} (h : Comes check request t ((.error e : Except Error α), t')) :
  Passes default check request t (.ofError default e, t')
  := by
  cases h with
  | refused hcheck =>
      have herror : Outcome.ofError default e = .failed e := by simp [Outcome.ofError, hfailure]
      rw [herror]
      exact .refused hcheck hfailure
  | asked hcheck hrequest hstatement heffect =>
      obtain ⟨added, hlog, heffect⟩ := heffect
      dsimp only at hlog heffect
      obtain ⟨-, rfl, hwas, hbegun, hstate⟩ | ⟨rfl, hbegun, hstate⟩ :=
        heffect.of_statement hstatement
      · apply Passes.unbegun hcheck e hlog hwas hbegun
        rw [hstate, hfailure]
        rfl
      · exact .faulted hcheck hrequest (TransactionStep.isStatement_of_statement? hstatement) e
          hlog hbegun hstate
  | unread _ _ _ hyes =>
      rw [hfailure] at hyes
      cases hyes

/-- What steps that succeed leave. -/
theorem Comes.done (default : α) {a : α} {t' : Transaction (Logged σ)}
    (h : Comes check request t ((.ok a : Except Error α), t')) :
  Passes default check request t (.done a, t')
  := by
  cases h with
  | idle hcheck hrequest => exact .idle hcheck hrequest a
  | asked hcheck hrequest hstatement heffect =>
      obtain ⟨added, hlog, heffect⟩ := heffect
      dsimp only at hlog heffect
      obtain ⟨hno, -⟩ | ⟨rfl, hbegun, hstate⟩ := heffect.of_statement hstatement
      · cases hno
      · exact .answered hcheck hrequest (TransactionStep.isStatement_of_statement? hstatement) a
          hlog hbegun hstate

/-- A changed outcome is that of the same operation. -/
theorem Passes.map {default : α} {outcome : Outcome α} {t' : Transaction (Logged σ)}
    (h : Passes default check request t (outcome, t')) (f : α → β) :
  Passes (f default) check request t (outcome.map f, t')
  := by
  have herror : ∀ e : Error, (Outcome.ofError default e).map f = .ofError (f default) e := by
    intro e
    unfold Outcome.ofError
    split <;> rfl
  cases h with
  | refused hcheck hfailure => exact .refused hcheck hfailure
  | idle hcheck hrequest a => exact .idle hcheck hrequest (f a)
  | unbegun hcheck e hlog hwas hbegun hstate =>
      rw [herror]
      exact .unbegun hcheck e hlog hwas hbegun hstate
  | answered hcheck hrequest hkind a hlog hbegun hstate =>
      exact .answered hcheck hrequest hkind (f a) hlog hbegun hstate
  | faulted hcheck hrequest hkind e hlog hbegun hstate =>
      rw [herror]
      exact .faulted hcheck hrequest hkind e hlog hbegun hstate

end Transaction

end EntityStore
