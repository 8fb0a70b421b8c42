import EntityStore.Proofs.Connection.Log
import EntityStore.Session.Call
import Mathlib.Data.List.Induction

/-!
# What operations send

A session over a connection with a log shows which commands an operation sends.  An operation
comes to one command at most, which is known beforehand.  That is sent if the connection becomes
ready, and nothing else is ever sent.
-/

namespace EntityStore

open Sql

variable {σ α β : Type}

namespace Session

/-- The session on the same connection with a log. -/
def logged (s : Session σ) : Session (Logged σ) where
  context := s.context
  connection := s.connection.logged
  enter := fun l =>
    let (answer, state) := s.enter l.state
    (answer, { l with state })

/-- Whether the connection becomes ready for commands. -/
def isReady (s : Session σ) (state : σ) : Bool :=
  !isError (s.enter state).1

/-- The commands that an operation sends in a state of the session. -/
def sent (s : Session σ) (call : Call) (t : SessionState σ) : List Command :=
  (s.logged.perform call ⟨⟨t.inner, []⟩, t.reports⟩).2.inner.log.map (·.command)

/-! ### The command of an operation -/

/-- The condition that a predicate on a table comes to, if it comes to one. -/
def condition? (s : Session σ) (d : Descriptor) (tableAlias : Option String) (p : Predicate) :
    Option Fragment :=
  (p.compile s.context.rules d tableAlias 0).result.toOption

/-- The query with a statement. -/
def query (statement : Fragment) : Command :=
  ⟨.query, statement.sql, statement.params⟩

/-- The execution of a statement. -/
def execution (statement : Fragment) : Command :=
  ⟨.execute, statement.sql, statement.params⟩

/-- The query for the records that fulfil a predicate. -/
def selection? (s : Session σ) (type : EntityType) (p : Predicate) (tail : String) :
    Option Command := do
  let d ← s.context.registry.ofType? type.record.name
  let condition ← s.condition? d none p
  return query (d.selectRows (Descriptor.clause condition d.guards) tail)

/-- The command that an operation is for, if it comes to one. -/
def request? (s : Session σ) : Call → Option Command
  | .fetch type p => s.selection? type p ""
  | .fetchAll type => s.selection? type .always ""
  | .first type p => s.selection? type p Descriptor.firstByKey
  | .count type p => do
    let d ← s.context.registry.ofType? type.record.name
    let condition ← s.condition? d none p
    return query (d.countRows (Descriptor.clause condition d.guards))
  | .insert type r => do
    let d ← s.context.registry.ofType? type.record.name
    let statement := d.insertRow type.record r
    return ⟨.insert, statement.sql, statement.params⟩
  | .update type r =>
    if r.isNew then none
    else do
      let d ← s.context.registry.ofType? type.record.name
      (d.updateRow? type.record r).map execution
  | .delete type r =>
    if r.isNew then none
    else do
      let d ← s.context.registry.ofType? type.record.name
      return execution
        (d.deleteRows (Descriptor.clause (Descriptor.keyIs (Descriptor.keyParam r 0)) []))
  | .deleteWhere type p => do
    let d ← s.context.registry.ofType? type.record.name
    let condition ← s.condition? d none p
    return execution (d.deleteRows (Descriptor.clause condition []))
  | .fetchGraph plan none => some (query (plan.select none))
  | .fetchGraph plan (some p) => do
    let condition ← s.condition? plan.descriptor (some (stepAlias 0)) p
    return query (plan.select (some condition))
  | .runJoin destination j => do
    let statement ← (j.statement destination).toOption
    statement.map query
  | .runView _ v => v.statement.map query

/-! ### Steps -/

/-- The commands in the log of a session. -/
def commands (t : SessionState (Logged σ)) : List Command :=
  t.inner.log.map (·.command)

/-- A step that sends a command if there is one and the connection becomes ready. -/
def Sends (s : Session σ) (m : StateM (SessionState (Logged σ)) α) (request : Option Command) :
    Prop :=
  ∀ t, commands (m t).2 = commands t ++ if s.isReady t.inner.state then request.toList else []

/-- A step that leaves the connection as it is. -/
def Quiet (m : Operation (Logged σ) α) : Prop :=
  ∀ t, (m t).2.inner = t.inner

theorem quiet_result (r : Except Error α) :
  Quiet (ExceptT.mk (pure r) : Operation (Logged σ) α)
  := fun _ => rfl

variable {s : Session σ} {m : Operation (Logged σ) α} {f : α → Operation (Logged σ) β}

/-- A step without effect sends nothing. -/
theorem Quiet.sends (h : Quiet m) :
  s.Sends m none
  := by
  intro t
  unfold commands
  rw [h t]
  simp

/-- What follows a quiet step sends what it sends alone, if it is reached. -/
theorem Quiet.bind {result : Except Error α} {request : α → Option Command} (h : Quiet m)
    (hresult : ∀ t, (m t).1 = result) (hf : ∀ a, result = .ok a → s.Sends (f a) (request a)) :
  s.Sends (m >>= f : Operation (Logged σ) β) (result.toOption.bind request)
  := by
  intro t
  have hinner := h t
  rw [bind_apply]
  have hr := hresult t
  cases hrun : m t with
  | mk answer t' =>
      rw [hrun] at hinner hr
      simp only at hinner hr
      subst hr
      unfold commands at *
      cases answer with
      | error e => simp [hinner, Except.toOption]
      | ok a =>
          have hrest := hf a rfl t'
          unfold commands at hrest
          simp only [hrest, hinner]
          rfl

/-- A quiet step does not change what has been sent. -/
theorem Sends.andThen {request : Option Command} (h : s.Sends m request)
    (hf : ∀ a, Quiet (f a)) :
  s.Sends (m >>= f : Operation (Logged σ) β) request
  := by
  intro t
  rw [← h t, bind_apply]
  cases hrun : m t with
  | mk answer t' =>
      cases answer with
      | error e => rfl
      | ok a =>
          unfold commands
          simp only [hf a t']

/-- A command of the connection is sent once that is ready. -/
theorem sends_onConnection {action : Action (Logged σ) α} {c : Command}
    (h : ∀ l, (action l).2.log.map (·.command) = l.log.map (·.command) ++ [c]) :
  s.Sends (s.logged.onConnection action) (some c)
  := by
  intro t
  unfold commands onConnection isReady logged
  simp only [bind_apply]
  cases henter : s.enter t.inner.state with
  | mk answer state =>
      cases answer with
      | error e => simp [isError]
      | ok ready =>
          show (action ⟨state, t.inner.log⟩).2.log.map (·.command) = _
          rw [h]
          simp [isError]

/-- The descriptor of a type is the registered one. -/
theorem toOption_descriptor (r : Registry) (typeName : String) :
  (r.descriptor typeName).toOption = r.ofType? typeName
  := by
  unfold Registry.descriptor
  cases r.ofType? typeName <;> rfl

/-- The descriptor of a type is looked up without the connection. -/
theorem Sends.descriptor {type : EntityType} {f : Descriptor → Operation (Logged σ) β}
    {request : Descriptor → Option Command} (h : ∀ d, s.Sends (f d) (request d)) :
  s.Sends (s.logged.descriptor type >>= f : Operation (Logged σ) β)
    ((s.context.registry.ofType? type.record.name).bind request)
  := by
  rw [← toOption_descriptor]
  apply (quiet_result _).bind (fun _ => rfl) fun d _ => h d

/-- A predicate is compiled without the connection. -/
theorem Sends.condition {d : Descriptor} {tableAlias : Option String} {p : Predicate}
    {f : Fragment → Operation (Logged σ) β} {request : Fragment → Option Command}
    (h : ∀ condition, s.Sends (f condition) (request condition)) :
  s.Sends (s.logged.condition d tableAlias p >>= f : Operation (Logged σ) β)
    ((s.condition? d tableAlias p).bind request)
  := by
  have hquiet : Quiet (s.logged.condition d tableAlias p) := fun _ => rfl
  apply hquiet.bind (fun _ => rfl) fun condition _ => h condition

/-- A record that has not been stored is refused without the connection. -/
theorem Sends.checkSaved {type : EntityType} {r : Record} {f : Unit → Operation (Logged σ) β}
    {request : Option Command} (h : s.Sends (f ()) request) :
  s.Sends (Session.checkSaved type r >>= f : Operation (Logged σ) β)
    (if r.isNew then none else request)
  := by
  unfold Session.checkSaved
  cases r.isNew with
  | true => exact Quiet.sends fun _ => rfl
  | false => exact h

/-- A fault changes what is noted about a command, but not the command. -/
theorem commands_afterFailure (operation table : String) (e : Error)
    (t : SessionState (Logged σ)) :
  commands (s.logged.afterFailure operation table e t) = commands t
  := by
  show (t.inner.log.modifyLast ({ · with failed := true })).map (·.command) = _
  unfold commands
  cases t.inner.log using List.reverseRecOn with
  | nil => rfl
  | append_singleton log x => simp [List.modifyLast_concat]

/-- The outcome of an operation has nothing to do with what it sends. -/
theorem Sends.settle {operation table : String} {default : α} {request : Option Command}
    (h : s.Sends m request) :
  s.Sends (s.logged.settle operation table default m) request
  := by
  intro t
  rw [← h t]
  unfold Session.settle
  cases hrun : m t with
  | mk answer t' =>
      cases answer with
      | ok a => rfl
      | error e =>
          simp only
          split
          · apply commands_afterFailure
          · rfl

/-- An answer that is made of an outcome has nothing to do with what is sent. -/
theorem Sends.reply {m : StateM (SessionState (Logged σ)) α} {request : Option Command}
    (h : s.Sends m request) {f : α → StateM (SessionState (Logged σ)) β}
    (hf : ∀ a t, (f a t).2 = t) :
  s.Sends (m >>= f) request
  := by
  intro t
  rw [← h t, stateBind_apply, hf]

theorem Sends.map {m : StateM (SessionState (Logged σ)) α} {request : Option Command}
    (h : s.Sends m request) (g : α → β) :
  s.Sends (g <$> m) request
  := h

/-! ### Operations -/

/-- A query is noted with its text and its parameters. -/
theorem commands_query (c : Connection σ) (statement : Fragment) (l : Logged σ) :
  (c.logged.query statement.sql statement.params l).2.log.map (·.command) =
    l.log.map (·.command) ++ [query statement]
  := by
  show (l.log ++ [_]).map Exchange.command = _
  rw [List.map_append]
  rfl

/-- The rows of a query are folded by one command. -/
theorem sends_foldRows (statement : Fragment) (step : α → Row → Except Error α) (start : α) :
  s.Sends (s.logged.onConnection
    (s.logged.connection.foldRows statement.sql statement.params step start))
    (some (query statement))
  := by
  apply sends_onConnection
  intro l
  have hquery := commands_query s.connection statement l
  unfold Connection.foldRows
  rw [liftBind_apply]
  cases (s.logged.connection.query statement.sql statement.params l).1.rows.foldlM step start with
  | error e =>
      rw [← hquery]
      show ((l.log ++ [_]).modifyLast fun x : Exchange => { x with failed := true }).map
        Exchange.command = (l.log ++ [_]).map Exchange.command
      simp [List.modifyLast_concat]
  | ok a =>
      cases (s.logged.connection.query statement.sql statement.params l).1.failure with
      | none => exact hquery
      | some e => exact hquery

/-- The first row of a query is asked for by one command. -/
theorem sends_firstRow? (statement : Fragment) :
  s.Sends (s.logged.onConnection
    (s.logged.connection.firstRow? statement.sql statement.params))
    (some (query statement))
  := by
  apply sends_onConnection
  intro l
  have hquery := commands_query s.connection statement l
  unfold Connection.firstRow?
  rw [map_apply, Connection.rows, liftBind_apply]
  cases (s.logged.connection.query statement.sql statement.params l).1.failure with
  | none => exact hquery
  | some e => exact hquery

/-- A command that is noted is in the log. -/
theorem commands_noting (command : Command) (action : Action σ α) (l : Logged σ) :
  (Connection.noting command action l).2.log.map (·.command) =
    l.log.map (·.command) ++ [command]
  := by
  show (l.log ++ [_]).map Exchange.command = _
  rw [List.map_append]
  rfl

theorem sends_records (type : RecordType) (statement : Fragment) :
  s.Sends (s.logged.records type statement) (some (query statement))
  := by
  apply Sends.andThen (sends_foldRows statement _ _)
  intro read
  apply quiet_result

theorem sends_select (type : EntityType) (p : Predicate) (tail : String) :
  s.Sends (s.logged.select type p tail) (s.selection? type p tail)
  := by
  apply Sends.descriptor
  intro d
  apply Sends.condition
  intro condition
  apply sends_records

theorem sends_remove (d : Descriptor) (clause : Fragment) :
  s.Sends (s.logged.remove d clause) (some (execution (d.deleteRows clause)))
  := by
  apply sends_onConnection
  apply commands_noting

theorem sends_recordsOf (destination : RecordType) (statement : Option Fragment) :
  s.Sends (s.logged.recordsOf destination statement) (statement.map query)
  := by
  cases statement with
  | none => exact Quiet.sends fun _ => rfl
  | some statement => apply sends_records

/-- An operation sends its command. -/
theorem sends_perform (s : Session σ) (call : Call) :
  s.Sends (s.logged.perform call) (s.request? call)
  := by
  cases call with
  | fetch type p => exact (sends_select type p "").settle.map _
  | fetchAll type => exact (sends_select type .always "").settle.map _
  | first type p =>
      apply Sends.map
      apply Sends.settle
      apply Sends.andThen (sends_select type p _)
      intro records
      apply quiet_result
  | count type p =>
      apply Sends.map
      apply Sends.settle
      apply Sends.descriptor
      intro d
      apply Sends.condition
      intro condition
      apply Sends.andThen (sends_firstRow? _)
      intro row
      cases row <;> exact fun _ => rfl
  | insert type r =>
      apply Sends.map
      apply Sends.reply
      · apply Sends.settle
        apply Sends.descriptor
        intro d
        apply sends_onConnection
        apply commands_noting
      · intro outcome t
        cases outcome <;> rfl
  | update type r =>
      apply Sends.map
      apply Sends.settle
      apply Sends.checkSaved
      apply Sends.descriptor
      intro d
      cases d.updateRow? type.record r with
      | none => exact Quiet.sends fun _ => rfl
      | some statement =>
          apply sends_onConnection
          apply commands_noting
  | delete type r =>
      apply Sends.map
      apply Sends.settle
      apply Sends.checkSaved
      apply Sends.descriptor
      intro d
      apply sends_remove
  | deleteWhere type p =>
      apply Sends.map
      apply Sends.settle
      apply Sends.descriptor
      intro d
      apply Sends.condition
      intro condition
      apply sends_remove
  | fetchGraph plan p =>
      apply Sends.map
      apply Sends.settle
      cases p with
      | none =>
          apply Sends.andThen (sends_foldRows _ _ _)
          intro loading
          apply quiet_result
      | some p =>
          rw [Option.mapM_some, bind_map_left]
          apply Sends.condition
          intro condition
          apply Sends.andThen (sends_foldRows _ _ _)
          intro loading
          apply quiet_result
  | runJoin destination j =>
      apply Sends.map
      apply Sends.settle
      apply (quiet_result _).bind (fun _ => rfl)
      intro statement _
      apply sends_recordsOf
  | runView destination v =>
      apply Sends.map
      apply Sends.settle
      apply sends_recordsOf

/-- An operation sends its command, and nothing else, if the connection becomes ready. -/
theorem sent_eq (s : Session σ) (call : Call) (t : SessionState σ) :
  s.sent call t = if s.isReady t.inner then (s.request? call).toList else []
  := sends_perform s call ⟨⟨t.inner, []⟩, t.reports⟩

/-- What is sent is the command of the operation. -/
theorem request?_of_mem_sent {s : Session σ} {call : Call} {t : SessionState σ} {c : Command}
    (h : c ∈ s.sent call t) :
  s.request? call = some c
  := by
  rw [sent_eq] at h
  split at h
  · exact Option.mem_toList.mp h
  · cases h

end Session

end EntityStore
