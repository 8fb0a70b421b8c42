import EntityStore.Proofs.Session.Steps

/-!
# Outcomes of operations within a transaction

The steps of every operation of a scope have a check and a command, so its outcome and its effect
are those of `Passes`.  Besides translations it reports nothing but its own failure.
-/

namespace EntityStore

open Connection Sql

variable {σ α β : Type}

namespace Session

open Transaction

/-! ### Steps of an operation in a scope -/

/-- Whether the reports that are added are about translations only. -/
def Translates (before after : List Event) : Prop :=
  ∃ events, after = before ++ events ∧ ∀ x ∈ events, x.operation = "translate"

/-- Nothing needs to be reported. -/
theorem translates_self (reports : List Event) :
  Translates reports reports
  := ⟨[], by simp⟩

/-- Reports follow reports. -/
theorem Translates.trans {before between after : List Event} (h : Translates before between)
    (h' : Translates between after) :
  Translates before after
  := by
  obtain ⟨events, rfl, hevents⟩ := h
  obtain ⟨events', rfl, hevents'⟩ := h'
  use events ++ events', List.append_assoc _ _ _
  intro x hx
  obtain hx | hx := List.mem_append.mp hx
  · exact hevents x hx
  · exact hevents' x hx

/-- Whether the steps of an operation have a check and a command, and report nothing but
translations. -/
def Runs (m : Operation (Transaction (Logged σ)) α) (check : Except Error Unit)
    (request : Option Command) : Prop :=
  ∀ t, t.inner.state.isTerminal = false →
    Comes check request t.inner ((m t).1, (m t).2.inner) ∧ Translates t.reports (m t).2.reports

/-- Whether a step has a result that does not depend on the connection and, if it is an error,
is not the failure of a command. -/
structure Prepares (m : Operation (Transaction (Logged σ)) α) (result : Except Error α) :
    Prop where
  result_eq : ∀ t, (m t).1 = result
  inner_eq : ∀ t, (m t).2.inner = t.inner
  translates : ∀ t, Translates t.reports (m t).2.reports
  isCommandFailure_eq : ∀ e, result = .error e → e.isCommandFailure = false

/-- A result that is known. -/
theorem prepares_result {result : Except Error α}
    (h : ∀ e, result = .error e → e.isCommandFailure = false) :
  Prepares (ExceptT.mk (pure result) : Operation (Transaction (Logged σ)) α) result
  where
  result_eq _ := rfl
  inner_eq _ := rfl
  translates t := translates_self t.reports
  isCommandFailure_eq := h

/-- The descriptor of a type. -/
theorem prepares_descriptor (s : Session (Transaction (Logged σ))) (type : EntityType) :
  Prepares (s.descriptor type) (s.context.registry.descriptor type.record.name)
  := by
  apply prepares_result
  intro e he
  unfold Registry.descriptor at he
  split at he <;> cases he
  rfl

/-- The condition a predicate comes to. -/
theorem prepares_condition (s : Session (Transaction (Logged σ))) (d : Descriptor)
    (tableAlias : Option String) (p : Predicate) :
  Prepares (s.condition d tableAlias p) (p.compile s.context.rules d tableAlias 0).result
  := by
  have hcompiled : (∀ x ∈ (p.compile s.context.rules d tableAlias 0).events,
        x.operation = "translate") ∧
      ∀ e, (p.compile s.context.rules d tableAlias 0).result = .error e →
        e.isCommandFailure = false := by
    unfold Predicate.compile
    dsimp only
    split
    · simp
    · unfold TranslationRules.degrade
      cases s.context.rules.policy with
      | strict => simp [Error.isCommandFailure]
      | failClosed => simp
  constructor
  · intro t
    rfl
  · intro t
    rfl
  · intro t
    exact ⟨_, rfl, hcompiled.1⟩
  · exact hcompiled.2

/-- The check that an entity has been stored. -/
theorem prepares_checkSaved (type : EntityType) (r : Record) :
  Prepares (checkSaved type r : Operation (Transaction (Logged σ)) Unit)
    (if r.isNew then throw (unsaved type) else pure ())
  := by
  unfold checkSaved
  cases r.isNew with
  | true =>
      apply prepares_result
      rintro e ⟨⟩
      rfl
  | false =>
      apply prepares_result
      rintro e ⟨⟩

/-- What follows a check is reached if that succeeds. -/
theorem Prepares.bind {m : Operation (Transaction (Logged σ)) α}
    {f : α → Operation (Transaction (Logged σ)) β} {result : Except Error α}
    {check : α → Except Error Unit} {request : α → Option Command} (hm : Prepares m result)
    (hf : ∀ a, Runs (f a) (check a) (request a)) :
  Runs (m >>= f : Operation (Transaction (Logged σ)) β) (result >>= check)
    (result.toOption.bind request)
  := by
  intro t ht
  have hresult := hm.result_eq t
  have hinner := hm.inner_eq t
  have htranslates := hm.translates t
  rw [bind_apply]
  cases hrun : m t with
  | mk answer t' =>
      rw [hrun] at hresult hinner htranslates
      dsimp only at hresult hinner htranslates
      subst hresult
      cases answer with
      | error e =>
          dsimp only
          rw [hinner]
          exact ⟨.refused rfl (hm.isCommandFailure_eq e rfl), htranslates⟩
      | ok a =>
          dsimp only
          rw [← hinner] at ht ⊢
          obtain ⟨hcomes, hrest⟩ := hf a t' ht
          exact ⟨hcomes, htranslates.trans hrest⟩

/-- Nothing is asked for a result that is known. -/
theorem runs_pure (a : α) :
  Runs (pure a : Operation (Transaction (Logged σ)) α) (pure ()) none
  := fun t _ => ⟨.idle rfl rfl a, translates_self t.reports⟩

/-- A changed result is that of the same steps. -/
theorem Runs.map {m : Operation (Transaction (Logged σ)) α} {check : Except Error Unit}
    {request : Option Command} (h : Runs m check request) (f : α → β) :
  Runs (f <$> m : Operation (Transaction (Logged σ)) β) check request
  := by
  intro t ht
  obtain ⟨hcomes, htranslates⟩ := h t ht
  rw [map_apply]
  exact ⟨hcomes.map f, htranslates⟩

variable {context : Context} {c : Connection σ}

/-- A command is run on the connection of the scope. -/
theorem runs_onConnection {m : Action (Transaction (Logged σ)) α} {command : Command}
    (hstatement : (TransactionStep.command command).statement? = some command)
    (h : ∀ t, t.state.isTerminal = false → HasEffect (.command command) t (m t)) :
  Runs ((context.scopeOver c.logged).onConnection m) (pure ()) (some command)
  := fun t ht => ⟨.asked rfl rfl hstatement (h t.inner ht), translates_self t.reports⟩

/-- The answer of a command is read, or the command counts as failed. -/
theorem runs_read {m : Action (Transaction (Logged σ)) α} {command : Command}
    {f : α → Operation (Transaction (Logged σ)) β}
    (hstatement : (TransactionStep.command command).statement? = some command)
    (h : ∀ t, t.state.isTerminal = false → HasEffect (.command command) t (m t))
    (hf : ∀ a, ∃ result : Except Error β, f a = ExceptT.mk (pure result) ∧
      ∀ e, result = .error e → e.isCommandFailure = true) :
  Runs ((context.scopeOver c.logged).onConnection m >>= f : Operation _ β) (pure ())
    (some command)
  := by
  intro t ht
  have heffect := h t.inner ht
  have hrun : (context.scopeOver c.logged).onConnection m t =
      ((m t.inner).1, { t with inner := (m t.inner).2 }) := rfl
  rw [bind_apply, hrun]
  cases hm : m t.inner with
  | mk answer t' =>
      rw [hm] at heffect
      cases answer with
      | error e => exact ⟨.asked rfl rfl hstatement heffect, translates_self t.reports⟩
      | ok a =>
          obtain ⟨result, hread, hfailure⟩ := hf a
          dsimp only
          rw [hread]
          cases result with
          | ok b => exact ⟨.asked rfl rfl hstatement heffect, translates_self t.reports⟩
          | error e =>
              exact ⟨.unread rfl rfl hstatement (hfailure e rfl) heffect, translates_self t.reports⟩

/-! ### Outcomes -/

/-- Whether an operation with a check and a command has the outcome and the effect of one, and
reports its own failure besides translations. -/
def Settles (m : StateM (SessionState (Transaction (Logged σ))) (Outcome α))
    (operation table : String) (default : α) (check : Except Error Unit)
    (request : Option Command) : Prop :=
  ∀ t, t.inner.state.isTerminal = false →
    Passes default check request t.inner ((m t).1, (m t).2.inner) ∧
    ∃ events, (m t).2.reports = t.reports ++ events ++ (m t).1.report operation table ∧
      ∀ x ∈ events, x.operation = "translate"

/-- What the steps of an operation come to is settled. -/
theorem Runs.settle {m : Operation (Transaction (Logged σ)) α} {check : Except Error Unit}
    {request : Option Command} (h : Runs m check request) (operation table : String)
    (default : α) :
  Settles ((context.scopeOver c.logged).settle operation table default m) operation table default
    check request
  := by
  intro t ht
  obtain ⟨hcomes, events, hreports, hevents⟩ := h t ht
  unfold Session.settle
  cases hrun : m t with
  | mk answer t' =>
      rw [hrun] at hcomes hreports
      cases answer with
      | ok a =>
          use hcomes.done default, events
          exact ⟨by simpa [Outcome.report] using hreports, hevents⟩
      | error e =>
          dsimp only
          cases hfailure : e.isCommandFailure with
          | false =>
              have hpasses := hcomes.failed default hfailure
              rw [Outcome.ofError, hfailure] at hpasses
              exact ⟨hpasses, events, by simpa [Outcome.report] using hreports, hevents⟩
          | true =>
              have hpasses := hcomes.degraded c ht default hfailure
              rw [Outcome.ofError, hfailure] at hpasses
              use hpasses, events, congrArg (· ++ _) hreports, hevents

/-- A changed outcome is that of the same operation. -/
theorem Settles.map {m : StateM (SessionState (Transaction (Logged σ))) (Outcome α)}
    {operation table : String} {default : α} {check : Except Error Unit}
    {request : Option Command} (h : Settles m operation table default check request) (f : α → β) :
  Settles (Outcome.map f <$> m) operation table (f default) check request
  := by
  intro t ht
  obtain ⟨hpasses, events, hreports, hevents⟩ := h t ht
  have hreport : ((m t).1.map f).report operation table = (m t).1.report operation table := by
    cases (m t).1 <;> rfl
  use hpasses.map f, events
  rw [← hreport] at hreports
  exact ⟨hreports, hevents⟩

/-! ### Operations -/

theorem runs_foldRows (statement : Fragment) (step : α → Row → Except Error α) (start : α) :
  Runs ((context.scopeOver c.logged).onConnection
    ((context.scopeOver c.logged).connection.foldRows statement.sql statement.params step start))
    (pure ()) (some (query statement))
  := runs_onConnection rfl fun _ ht => hasEffect_foldRows c ht rfl rfl step start

theorem runs_execute (statement : Fragment) :
  Runs ((context.scopeOver c.logged).onConnection
    ((context.scopeOver c.logged).connection.execute statement.sql statement.params))
    (pure ()) (some (execution statement))
  := runs_onConnection rfl fun _ ht => hasEffect_within c ht rfl rfl _

theorem runs_records (type : RecordType) (statement : Fragment) :
  Runs ((context.scopeOver c.logged).records type statement) (pure ()) (some (query statement))
  := (runs_foldRows statement _ _).map _

theorem runs_recordsOf (destination : RecordType) (statement : Option Fragment) :
  Runs ((context.scopeOver c.logged).recordsOf destination statement) (pure ())
    (statement.map query)
  := by
  cases statement with
  | none => apply runs_pure
  | some statement => apply runs_records

/-- What needs the descriptor of a type is reached if that is registered. -/
theorem Runs.descriptor {type : EntityType} {f : Descriptor → Operation (Transaction (Logged σ)) β}
    {check : Descriptor → Except Error Unit} {request : Descriptor → Option Command}
    (h : ∀ d, Runs (f d) (check d) (request d)) :
  Runs ((context.scopeOver c.logged).descriptor type >>= f : Operation _ β)
    (context.registry.descriptor type.record.name >>= check)
    ((context.registry.ofType? type.record.name).bind request)
  := by
  rw [← toOption_descriptor]
  exact (prepares_descriptor _ type).bind h

/-- What needs a condition is reached if that can be put in SQL. -/
theorem Runs.condition {d : Descriptor} {tableAlias : Option String} {p : Predicate}
    {f : Fragment → Operation (Transaction (Logged σ)) β} {request : Fragment → Option Command}
    (h : ∀ condition, Runs (f condition) (pure ()) (request condition)) :
  Runs ((context.scopeOver c.logged).condition d tableAlias p >>= f : Operation _ β)
    ((context.scopeOver c.logged).checkCondition d tableAlias p)
    (((context.scopeOver c.logged).condition? d tableAlias p).bind request)
  := (prepares_condition _ d tableAlias p).bind h

theorem runs_select (type : EntityType) (p : Predicate) (tail : String) :
  Runs ((context.scopeOver c.logged).select type p tail)
    ((context.scopeOver c.logged).checkRows type p)
    ((context.scopeOver c.logged).selection? type p tail)
  := by
  apply Runs.descriptor
  intro d
  apply Runs.condition
  intro condition
  apply runs_records

/-- An integer that cannot be read is the failure of a command. -/
theorem isCommandFailure_of_intAt {row : Row} {index : Nat} {e : Error}
    (h : row.intAt index = .error e) :
  e.isCommandFailure = true
  := by
  unfold Row.intAt Row.getAt at h
  split at h
  · next v _ =>
      change ((BaseType.integer.orMismatch v (v.asInt?.map .int)).map _) = _ at h
      unfold BaseType.orMismatch at h
      cases hint : v.asInt? <;> rw [hint] at h <;> cases h
      rfl
  · cases h
    rfl

/-- The statement of a join does not need the connection. -/
theorem prepares_statement (j : Join) (destination : RecordType) :
  Prepares (ExceptT.mk (pure (j.statement destination)) : Operation (Transaction (Logged σ)) _)
    (j.statement destination)
  := by
  apply prepares_result
  intro e he
  unfold Join.statement Join.render at he
  split at he
  · cases he
  · split at he
    · cases he
      rfl
    · dsimp only at he
      split at he <;> cases he
      rfl

/-- What needs an entity to be stored is reached if it is. -/
theorem Runs.checkSaved {type : EntityType} {r : Record}
    {f : Unit → Operation (Transaction (Logged σ)) β} {check : Except Error Unit}
    {request : Option Command} (h : Runs (f ()) check request) :
  Runs (Session.checkSaved type r >>= f : Operation _ β)
    (if r.isNew then throw (unsaved type) else check) (if r.isNew then none else request)
  := by
  have hrun := (prepares_checkSaved type r).bind (f := f) fun _ => h
  cases hnew : r.isNew <;> rw [hnew] at hrun <;> exact hrun

/-- The outcome of an insertion is that of its steps. -/
theorem perform_insert (s : Session σ) (type : EntityType) (r : Record) :
  s.perform (.insert type r) = Outcome.map counted <$>
    s.settle "insert" type.table 0 (s.descriptor type >>= fun d =>
      s.onConnection (s.connection.insert (d.insertRow type.record r).sql
        (d.insertRow type.record r).params))
  := by
  rw [perform, Session.insert, map_bind, map_eq_pure_bind]
  apply bind_congr
  intro outcome
  cases outcome <;> rfl

/-- An operation in a scope has the outcome and the effect of its check and its command. -/
theorem settles_perform (context : Context) (c : Connection σ) (call : Call) :
  Settles ((context.scopeOver c.logged).perform call) call.operation call.subject call.default
    ((context.scopeOver c.logged).check call) ((context.scopeOver c.logged).request? call)
  := by
  cases call with
  | fetch type p => exact ((runs_select type p _).settle _ _ _).map _
  | fetchAll type => exact ((runs_select type .always _).settle _ _ _).map _
  | first type p => exact (((runs_select type p _).map _).settle _ _ _).map _
  | count type p =>
      refine (Runs.settle ?_ "count" type.table (0 : Int64)).map _
      apply Runs.descriptor
      intro d
      apply Runs.condition
      intro condition
      apply runs_read rfl
      · intro t ht
        exact (hasEffect_rows c ht rfl rfl).map _
      · intro row
        cases row with
        | none => exact ⟨.ok 0, rfl, by simp⟩
        | some row => exact ⟨row.intAt 0, rfl, fun _ => isCommandFailure_of_intAt⟩
  | insert type r =>
      rw [perform_insert]
      refine (Runs.settle ?_ "insert" type.table (0 : Int64)).map _
      apply Runs.descriptor
      intro d
      apply runs_onConnection rfl
      intro t ht
      exact hasEffect_within c ht rfl rfl _
  | update type r =>
      refine (Runs.settle ?_ "update" type.table 0).map _
      apply Runs.checkSaved
      apply Runs.descriptor
      intro d
      cases d.updateRow? type.record r with
      | none => apply runs_pure
      | some statement => apply runs_execute
  | delete type r =>
      refine (Runs.settle ?_ "delete" type.table 0).map _
      apply Runs.checkSaved
      apply Runs.descriptor
      intro d
      apply runs_execute
  | deleteWhere type p =>
      refine (Runs.settle ?_ "delete" type.table 0).map _
      apply Runs.descriptor
      intro d
      apply Runs.condition
      intro condition
      apply runs_execute
  | fetchGraph plan p =>
      refine (Runs.settle ?_ "fetch_graph" plan.root.table ({} : LoadedGraph)).map _
      cases p with
      | none => exact (runs_foldRows _ _ _).map _
      | some p =>
          rw [Option.mapM_some, bind_map_left]
          apply Runs.condition
          intro condition
          exact (runs_foldRows _ _ _).map _
  | runJoin destination j =>
      refine (Runs.settle ?_ "join" j.left.type.table []).map _
      apply (prepares_statement j destination).bind
      intro statement
      apply runs_recordsOf
  | runView destination v => exact ((runs_recordsOf destination v.statement).settle _ _ _).map _

end Session

end EntityStore
