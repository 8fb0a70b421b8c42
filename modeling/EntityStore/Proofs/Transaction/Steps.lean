import EntityStore.Proofs.Connection.Log
import EntityStore.Transaction

/-!
# Steps within transactions

`Effect` says all that a step can do to a transaction that has not ended, and what the
connection is asked for it: nothing, or a begin that fails, or a begin if there has been
none and then at most one statement.
-/

namespace EntityStore

open Connection

variable {σ α β : Type}

namespace TransactionStep

/-- The statement that a step asks for, if it is one. -/
def statement? : TransactionStep → Option Command
  | .command ⟨.query, sql, params⟩ => some ⟨.query, sql, params⟩
  | .command ⟨.execute, sql, params⟩ => some ⟨.execute, sql, params⟩
  | .command ⟨.insert, sql, params⟩ => some ⟨.insert, sql, params⟩
  | .command ⟨.batch, sql, _⟩ => some { kind := .batch, sql }
  | .take sql params _ => some ⟨.query, sql, params⟩
  | _ => none

/-- Whether a step is a statement. -/
def isStatement (s : TransactionStep) : Bool :=
  s.statement?.isSome

/-- Whether a step marks the transaction. -/
def isMark : TransactionStep → Bool
  | .withhold | .markFaulted => true
  | .command _ | .take .. => false

/-- What a step asks for is a statement. -/
theorem isStatement_of_statement? {s : TransactionStep} {command : Command}
    (h : s.statement? = some command) :
  command.kind.isStatement = true
  := by
  unfold statement? at h
  split at h <;> cases h <;> rfl

end TransactionStep

namespace Transaction

/-- What a connection is asked before the first statement. -/
def opening (begun : Bool) : List Exchange :=
  if begun then [] else [.begun]

/-- What a step can do to a transaction that has not ended: whether it fails, what the
connection is asked for it, whether the transaction has begun then, and its state. -/
inductive Effect (begun : Bool) (state : TransactionState) :
    TransactionStep → Bool → List Exchange → Bool → TransactionState → Prop
  | withhold : Effect begun state .withhold false [] begun
      (if state = .active then .withheld else state)
  | markFaulted : Effect begun state .markFaulted false [] begun .faulted
  | nested {command : Command} (h : command.kind = .commit ∨ command.kind = .rollback) :
      Effect begun state (.command command) true [] begun state
  | begin {command : Command} (h : command.kind = .begin) :
      Effect begun state (.command command) false (opening begun) true state
  | refused {s : TransactionStep} (hmark : s.isMark = false) (hbegun : begun = false) :
      Effect begun state s true [.refusal] false state
  | statement {s : TransactionStep} {command : Command} (h : s.statement? = some command)
      (failed : Bool) :
      Effect begun state s failed (opening begun ++ [⟨command, failed⟩]) true
        (if failed then .faulted else state)

/-- Whether a run does to a transaction what a step can do. -/
def HasEffect (s : TransactionStep) (t : Transaction (Logged σ))
    (run : Except Error α × Transaction (Logged σ)) : Prop :=
  ∃ added, run.2.inner.log = t.inner.log ++ added ∧
    Effect t.begun t.state s (isError run.1) added run.2.begun run.2.state

/-- A changed result changes no effect. -/
theorem HasEffect.map {s : TransactionStep} {t : Transaction (Logged σ)}
    {m : Action (Transaction (Logged σ)) α} (h : HasEffect s t (m t)) (f : α → β) :
  HasEffect s t ((f <$> m : Action (Transaction (Logged σ)) β) t)
  := by
  obtain ⟨added, hlog, heffect⟩ := h
  rw [map_apply]
  use added, hlog
  cases hanswer : (m t).1 <;> rw [hanswer] at heffect <;> apply heffect

variable {t : Transaction (Logged σ)}

/-- What the begin of a transaction that has not ended comes to. -/
inductive Opening (t : Transaction (Logged σ)) :
    Except Error Unit × Transaction (Logged σ) → Prop
  | opened {t' : Transaction (Logged σ)} (hlog : t'.inner.log = t.inner.log ++ opening t.begun)
      (hbegun : t'.begun = true) (hstate : t'.state = t.state) : Opening t (.ok (), t')
  | refused {e : Error} {t' : Transaction (Logged σ)}
      (hlog : t'.inner.log = t.inner.log ++ [.refusal]) (hwas : t.begun = false)
      (hbegun : t'.begun = false) (hstate : t'.state = t.state) : Opening t (.error e, t')

/-- A transaction that has not ended begins unless it has begun. -/
theorem opening_ensureBegun (c : Connection σ) (ht : t.state.isTerminal = false) :
  Opening t (ensureBegun c.logged t)
  := by
  obtain ⟨⟨s, log⟩, begun, state⟩ := t
  cases state with
  | committed | rolledBack => cases ht
  | active | withheld | faulted =>
      cases begun with
      | true => exact .opened (by simp [opening]) rfl rfl
      | false =>
          cases hbegin : c.begin s with
          | mk answer s' =>
              simp only [ensureBegun, onInner, logged, noting, hbegin, Bool.false_eq_true,
                if_false]
              cases answer with
              | ok _ => exact .opened rfl rfl rfl
              | error e => exact .refused rfl rfl rfl rfl

/-- A mark is made on a transaction that has not ended. -/
theorem markFaulted_of_not_terminal (ht : t.state.isTerminal = false) :
  t.markFaulted = { t with state := .faulted }
  := by
  unfold markFaulted
  rw [if_neg (by simp [ht])]

/-- A begin that fails is the effect of a step that marks nothing. -/
theorem hasEffect_refused {s : TransactionStep} (hmark : s.isMark = false) {e : Error}
    {t' : Transaction (Logged σ)} (hlog : t'.inner.log = t.inner.log ++ [.refusal])
    (hwas : t.begun = false) (hbegun : t'.begun = false) (hstate : t'.state = t.state) :
  HasEffect s t ((.error e : Except Error α), t')
  := by
  use [.refusal], hlog
  show Effect t.begun t.state s true [.refusal] t'.begun t'.state
  rw [hbegun, hstate]
  apply Effect.refused hmark hwas

/-- A statement and, before the first one, the begin are the effect of a step that asks for the
statement. -/
theorem hasEffect_statement {s : TransactionStep} {command : Command}
    (hs : s.statement? = some command) {answer : Except Error α} {t' : Transaction (Logged σ)}
    (hlog : t'.inner.log = t.inner.log ++ opening t.begun ++ [⟨command, isError answer⟩])
    (hbegun : t'.begun = true)
    (hstate : t'.state = if isError answer then .faulted else t.state) :
  HasEffect s t (answer, t')
  := by
  rw [List.append_assoc] at hlog
  use opening t.begun ++ [⟨command, isError answer⟩], hlog
  dsimp only
  rw [hbegun, hstate]
  apply Effect.statement hs

/-- A noted command that is a statement, in a transaction that has begun for it. -/
theorem effect_guarded {t' : Transaction (Logged σ)} {s : TransactionStep} {command : Command}
    (hs : s.statement? = some command) (ht : t.state.isTerminal = false)
    (hlog : t'.inner.log = t.inner.log ++ opening t.begun) (hbegun : t'.begun = true)
    (hstate : t'.state = t.state) (action : Action σ α) :
  HasEffect s t (guarded (noting command action) t')
  := by
  rw [← hstate] at ht
  cases haction : action t'.inner.state with
  | mk answer s' =>
      simp only [guarded, onInner, noting, haction]
      cases answer with
      | ok a =>
          apply hasEffect_statement hs
          · rw [← hlog]
          · apply hbegun
          · apply hstate
      | error e =>
          dsimp only
          rw [markFaulted_of_not_terminal (by exact ht)]
          apply hasEffect_statement hs
          · rw [← hlog]
          · apply hbegun
          · rfl

/-- A statement within a transaction. -/
theorem hasEffect_within (c : Connection σ) (ht : t.state.isTerminal = false)
    {s : TransactionStep} {command : Command} (hs : s.statement? = some command)
    (hmark : s.isMark = false) (action : Action σ α) :
  HasEffect s t (within c.logged (noting command action) t)
  := by
  have hopening := opening_ensureBegun c ht
  unfold within
  rw [bind_apply]
  cases hensure : ensureBegun c.logged t with
  | mk answer t₁ =>
      rw [hensure] at hopening
      cases hopening with
      | opened hlog hbegun hstate => apply effect_guarded hs ht hlog hbegun hstate
      | refused hlog hwas hbegun hstate => apply hasEffect_refused hmark hlog hwas hbegun hstate

/-! ### Queries -/

/-- What a query within a transaction that has not ended comes to. -/
inductive Queried (t : Transaction (Logged σ)) (command : Command) :
    Delivery × Transaction (Logged σ) → Prop
  | refused {e : Error} {t' : Transaction (Logged σ)}
      (hlog : t'.inner.log = t.inner.log ++ [.refusal]) (hwas : t.begun = false)
      (hbegun : t'.begun = false) (hstate : t'.state = t.state) :
      Queried t command ({ failure := some e }, t')
  | answered {delivery : Delivery} {t' : Transaction (Logged σ)}
      (hlog : t'.inner.log =
        t.inner.log ++ opening t.begun ++ [⟨command, delivery.failure.isSome⟩])
      (hbegun : t'.begun = true)
      (hstate : t'.state = if delivery.failure.isSome then .faulted else t.state) :
      Queried t command (delivery, t')

/-- A query within a transaction that has not ended. -/
theorem queried_queryWithin (c : Connection σ) (ht : t.state.isTerminal = false) (sql : String)
    (params : List Param) :
  Queried t ⟨.query, sql, params⟩ (queryWithin c.logged (c.logged.query sql params) t)
  := by
  have hopening : Opening t ((ensureBegun c.logged).run t) := opening_ensureBegun c ht
  unfold queryWithin
  rw [stateBind_apply]
  cases hensure : (ensureBegun c.logged).run t with
  | mk answer t₁ =>
      rw [hensure] at hopening
      cases hopening with
      | refused hlog hwas hbegun hstate => exact .refused hlog hwas hbegun hstate
      | opened hlog hbegun hstate =>
          rw [← hstate] at ht
          cases hquery : c.query sql params t₁.inner.state with
          | mk delivery s' =>
              simp only [guardedQuery, onInner, logged, hquery]
              rw [markFaulted_of_not_terminal (by exact ht), hlog]
              cases hfailure : delivery.failure with
              | none => exact .answered (by simp [hfailure]) hbegun (by simp [hfailure, hstate])
              | some e => exact .answered (by simp [hfailure]) hbegun (by simp [hfailure])

/-- What can be done with what a query delivers: it fails if the query does, and if rows
cannot be used, which the connection takes note of. -/
inductive Used (c : Connection (Transaction (Logged σ))) (delivery : Delivery)
    (t : Transaction (Logged σ)) : Except Error α × Transaction (Logged σ) → Prop
  | ok (h : delivery.failure = none) (a : α) : Used c delivery t (.ok a, t)
  | failed (h : delivery.failure.isSome = true) (e : Error) : Used c delivery t (.error e, t)
  | unusable (h : delivery.rows ≠ []) (e : Error) : Used c delivery t (.error e, c.fault t)

/-- What comes of a query is the effect of a step that asks for it. -/
theorem Used.hasEffect {c : Connection σ} (ht : t.state.isTerminal = false)
    {s : TransactionStep} {command : Command} (hs : s.statement? = some command)
    (hmark : s.isMark = false) {delivery : Delivery} {t' : Transaction (Logged σ)}
    {run : Except Error α × Transaction (Logged σ)}
    (hused : Used (connection c.logged) delivery t' run)
    (hqueried : Queried t command (delivery, t')) :
  HasEffect s t run
  := by
  cases hqueried with
  | refused hlog hwas hbegun hstate =>
      cases hused with
      | ok h => cases h
      | unusable h => cases h rfl
      | failed => apply hasEffect_refused hmark hlog hwas hbegun hstate
  | answered hlog hbegun hstate =>
      cases hused with
      | ok h a =>
          rw [h] at hlog hstate
          apply hasEffect_statement hs
          · apply hlog
          · apply hbegun
          · apply hstate
      | failed h e =>
          rw [h] at hlog hstate
          apply hasEffect_statement hs
          · apply hlog
          · apply hbegun
          · apply hstate
      | unusable h e =>
          have hlive : t'.state.isTerminal = false := by
            rw [hstate]
            split
            · rfl
            · apply ht
          have hfault : (connection c.logged).fault t' =
              { t'.markFaulted with inner := c.logged.fault t'.inner } := rfl
          rw [hfault, markFaulted_of_not_terminal hlive]
          apply hasEffect_statement hs
          · show t'.inner.log.modifyLast ({ · with failed := true }) = _
            rw [hlog, List.modifyLast_concat]
            rfl
          · apply hbegun
          · rfl

/-- A query within a transaction whose delivery is used. -/
theorem hasEffect_query (c : Connection σ) (ht : t.state.isTerminal = false)
    {s : TransactionStep} {sql : String} {params : List Param}
    (hs : s.statement? = some ⟨.query, sql, params⟩) (hmark : s.isMark = false)
    {read : Delivery → Action (Transaction (Logged σ)) α}
    (hread : ∀ delivery u, Used (connection c.logged) delivery u (read delivery u)) :
  HasEffect s t
    (((liftM ((connection c.logged).query sql params) : Action _ Delivery) >>= read) t)
  := by
  rw [liftBind_apply]
  apply (hread _ _).hasEffect ht hs hmark
  apply queried_queryWithin c ht

/-! ### Every step -/

/-- The rows of a query within a transaction. -/
theorem hasEffect_rows (c : Connection σ) (ht : t.state.isTerminal = false)
    {s : TransactionStep} {sql : String} {params : List Param}
    (hs : s.statement? = some ⟨.query, sql, params⟩) (hmark : s.isMark = false) :
  HasEffect s t ((connection c.logged).rows sql params t)
  := by
  apply hasEffect_query c ht hs hmark
  intro delivery u
  cases hfailure : delivery.failure with
  | none => exact .ok hfailure _
  | some e => exact .failed (by simp [hfailure]) e

/-- Folding the rows of a query within a transaction. -/
theorem hasEffect_foldRows (c : Connection σ) (ht : t.state.isTerminal = false)
    {s : TransactionStep} {sql : String} {params : List Param}
    (hs : s.statement? = some ⟨.query, sql, params⟩) (hmark : s.isMark = false)
    (fold : α → Row → Except Error α) (start : α) :
  HasEffect s t ((connection c.logged).foldRows sql params fold start t)
  := by
  apply hasEffect_query c ht hs hmark
  intro delivery u
  cases hfold : delivery.rows.foldlM fold start with
  | error e =>
      apply Used.unusable
      intro hrows
      rw [hrows] at hfold
      cases hfold
  | ok a =>
      cases hfailure : delivery.failure with
      | none => exact .ok hfailure _
      | some e => exact .failed (by simp [hfailure]) e

/-- A begin within a transaction. -/
theorem hasEffect_begin (c : Connection σ) (ht : t.state.isTerminal = false)
    {command : Command} (hcommand : command.kind = .begin) :
  HasEffect (.command command) t (ensureBegun c.logged t)
  := by
  have hopening := opening_ensureBegun c ht
  cases hensure : ensureBegun c.logged t with
  | mk answer t' =>
      rw [hensure] at hopening
      cases hopening with
      | opened hlog hbegun hstate =>
          use opening t.begun, hlog
          show Effect t.begun t.state _ false _ t'.begun t'.state
          rw [hbegun, hstate]
          apply Effect.begin hcommand
      | refused hlog hwas hbegun hstate => apply hasEffect_refused rfl hlog hwas hbegun hstate

/-- A commit or a rollback within a transaction does nothing but fail. -/
theorem hasEffect_nested {command : Command}
    (hcommand : command.kind = .commit ∨ command.kind = .rollback) (e : Error) :
  HasEffect (.command command) t ((.error e, t) : Except Error Unit × Transaction (Logged σ))
  := by
  use [], by simp
  apply Effect.nested hcommand

/-- A step does to a transaction that has not ended what is said of it. -/
theorem hasEffect_step (c : Connection σ) (ht : t.state.isTerminal = false)
    (s : TransactionStep) :
  HasEffect s t (step c.logged s t)
  := by
  cases s with
  | command command =>
      obtain ⟨kind, sql, params⟩ := command
      cases kind with
      | query => exact (hasEffect_rows c ht rfl rfl).map _
      | execute => exact (hasEffect_within c ht rfl rfl _).map _
      | insert => exact (hasEffect_within c ht rfl rfl _).map _
      | batch => exact (hasEffect_within c ht rfl rfl _).map _
      | begin => exact (hasEffect_begin c ht rfl).map _
      | commit =>
          exact HasEffect.map (m := (connection c.logged).commit)
            (hasEffect_nested (.inl rfl) _) _
      | rollback =>
          exact HasEffect.map (m := (connection c.logged).rollback)
            (hasEffect_nested (.inr rfl) _) _
  | take sql params refuse => exact (hasEffect_foldRows c ht rfl rfl _ []).map _
  | withhold =>
      have hrun : step c.logged .withhold t = (.ok .done, t.withhold) := rfl
      have heffect := @Effect.withhold t.begun t.state
      rw [hrun]
      unfold withhold
      split <;> rename_i hactive
      · rw [if_pos hactive] at heffect
        use [], by simp, heffect
      · rw [if_neg hactive] at heffect
        use [], by simp, heffect
  | markFaulted =>
      have hrun : step c.logged .markFaulted t = (.ok .done, t.markFaulted) := rfl
      rw [hrun, markFaulted_of_not_terminal ht]
      use [], by simp
      apply Effect.markFaulted

end Transaction

end EntityStore
