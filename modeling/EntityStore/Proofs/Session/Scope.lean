import EntityStore.Proofs.Entity.Assignments
import EntityStore.Proofs.Session.Outcomes
import EntityStore.Proofs.Session.View
import EntityStore.Proofs.Transaction.Fault

/-!
# Failures in scopes

An operation that fails on its connection has a default answer and is reported once.  From then on
the scope is lost: whatever is done later, nothing makes its transaction commit.  An operation
that is refused before it needs the connection leaves no trace.
-/

namespace EntityStore

open Connection Sql

variable {σ τ α : Type}

/-- What can be done in a scope. -/
inductive ScopeStep where
  | call (call : Call)
  /-- The transaction is marked, or its connection is used for a command. -/
  | step (s : TransactionStep)

namespace Scope

/-- Does something with the connection of a session. -/
def onInner (m : StateM σ α) : StateM (SessionState σ) α := fun t =>
  let (a, inner) := m t.inner
  (a, { t with inner })

/-- Does something in a scope over a connection.  A call is noted with its outcome. -/
def step (context : Context) (c : Connection σ) :
    ScopeStep → StateM (SessionState (Transaction σ)) (List (Call × Outcome Answer))
  | .call call => do
    let outcome ← (context.scopeOver c).perform call
    return [(call, outcome)]
  | .step s => do
    let _ ← onInner (Transaction.step c s).run
    return []

/-- Does one thing after another in a scope, whatever comes of each. -/
def run (context : Context) (c : Connection σ) :
    List ScopeStep → StateM (SessionState (Transaction σ)) (List (Call × Outcome Answer))
  | [] => return []
  | s :: rest => do
    let outcomes ← step context c s
    let more ← run context c rest
    return outcomes ++ more

/-- Does one thing after another in a scope and ends it in a way. -/
def whole (context : Context) (c : Connection σ) (steps : List ScopeStep) (way : TransactionEnd) :
    StateM (SessionState (Transaction σ)) (List (Call × Outcome Answer) × Except Error Unit) := do
  let outcomes ← run context c steps
  let answer ← onInner (Transaction.finish c way).run
  return (outcomes, answer)

/-! ### Scopes seen through a view -/

section

variable {view : τ → σ} {c : Connection τ} {c' : Connection σ}

theorem follows_onInner {m : StateM τ α} {m' : StateM σ α} (h : Follows view m m') :
  Follows (SessionState.map view) (onInner m) (onInner m')
  := by
  intro t
  show ((m t.inner).1, SessionState.mk (view (m t.inner).2) t.reports) =
    ((m' (view t.inner)).1, SessionState.mk (m' (view t.inner)).2 t.reports)
  rw [← h t.inner]

theorem follows_step (context : Context) (h : Connection.Mirrors view c c') (s : ScopeStep) :
  Follows (SessionState.map (Transaction.map view)) (step context c s) (step context c' s)
  := by
  cases s with
  | call call =>
      have hscope : Session.Mirrors (Transaction.map view) (context.scopeOver c)
          (context.scopeOver c') := by
        constructor
        · rfl
        · exact Transaction.mirrors_connection h
        · apply follows_pure
      exact (hscope.perform call).bind fun _ => follows_pure _
  | step s => exact (follows_onInner (Transaction.follows_step h s)).bind fun _ => follows_pure _

theorem follows_run (context : Context) (h : Connection.Mirrors view c c')
    (steps : List ScopeStep) :
  Follows (SessionState.map (Transaction.map view)) (run context c steps) (run context c' steps)
  := by
  induction steps with
  | nil => apply follows_pure
  | cons s rest ih =>
      apply (follows_step context h s).bind
      intro outcomes
      apply ih.bind
      intro more
      apply follows_pure

/-- A scope does the same over both connections. -/
theorem follows_whole (context : Context) (h : Connection.Mirrors view c c')
    (steps : List ScopeStep) (way : TransactionEnd) :
  Follows (SessionState.map (Transaction.map view)) (whole context c steps way)
    (whole context c' steps way)
  := by
  apply (follows_run context h steps).bind
  intro outcomes
  apply (follows_onInner (Transaction.follows_finish h way)).bind
  intro answer
  apply follows_pure

end

/-! ### One call -/

/-- Whether a call has failed on the connection: its answer is the default one, or it has none
though the connection was given its statement. -/
def breaks (outcome : Outcome α) (asked : List Exchange) : Bool :=
  outcome.isDegraded || outcome.isFailed && asked.any (·.isStatement)

/-- What an operation with a check and a command comes to in a transaction, with what the
connection is asked for it. -/
structure Accounted (default : α) (check : Except Error Unit) (request : Option Command)
    (t t' : Transaction (Logged σ)) (outcome : Outcome α) (asked : List Exchange) : Prop where
  log_eq : t'.inner.log = t.inner.log ++ asked
  /-- No statement but its own is sent. -/
  own : ∀ x ∈ asked, x.isStatement = true → request = some x.command
  degraded : ∀ a e, outcome = .degraded a e → a = default ∧ e.isCommandFailure = true
  failed : ∀ e, outcome = .failed e → e.isCommandFailure = false
  state_eq : t'.state = if breaks outcome asked then .faulted else t.state
  unchanged : asked = [] → t' = t
  refused_iff : ∀ e, check = .error e ↔ outcome = .failed e ∧ asked = []

variable {default : α} {check : Except Error Unit} {request : Option Command}
  {t t' : Transaction (Logged σ)} {outcome : Outcome α}

open Transaction

/-- No begin is a statement. -/
theorem isStatement_opening {begun : Bool} {x : Exchange} (hx : x ∈ opening begun) :
  x.isStatement = false
  := by
  unfold opening at hx
  split at hx
  · cases hx
  · rw [List.mem_singleton.mp hx]
    rfl

/-- An operation that comes to an error after its connection has been asked for something. -/
theorem accounted_ofError {e : Error} {asked : List Exchange} (hcheck : check = .ok ())
    (hasked : asked ≠ []) (hlog : t'.inner.log = t.inner.log ++ asked)
    (hown : ∀ x ∈ asked, x.isStatement = true → request = some x.command)
    (hstate : t'.state =
      if e.isCommandFailure || asked.any (·.isStatement) then .faulted else t.state) :
  Accounted default check request t t' (.ofError default e) asked
  := by
  unfold Outcome.ofError
  cases hfailure : e.isCommandFailure with
  | true =>
      rw [hfailure] at hstate
      constructor
      · exact hlog
      · exact hown
      · rintro a e' ⟨⟩
        exact ⟨rfl, hfailure⟩
      · rintro e' ⟨⟩
      · exact hstate
      · exact fun h => absurd h hasked
      · simp [hcheck]
  | false =>
      rw [hfailure] at hstate
      constructor
      · exact hlog
      · exact hown
      · rintro a e' ⟨⟩
      · rintro e' ⟨⟩
        exact hfailure
      · exact hstate
      · exact fun h => absurd h hasked
      · simp [hcheck, hasked]

/-- The statement that is sent for an operation is its own. -/
theorem own_statement {begun failed : Bool} {command : Command} (h : request = some command) :
  ∀ x ∈ opening begun ++ [⟨command, failed⟩], x.isStatement = true → request = some x.command
  := by
  intro x hx hstatement
  obtain hx | hx := List.mem_append.mp hx
  · rw [isStatement_opening hx] at hstatement
    cases hstatement
  · rw [List.mem_singleton.mp hx, h]

/-- An operation that does not need its connection. -/
theorem accounted_self (hdegraded : outcome.isDegraded = false)
    (hfailed : ∀ e, outcome = .failed e → e.isCommandFailure = false)
    (hcheck : ∀ e, check = .error e ↔ outcome = .failed e) :
  Accounted default check request t t outcome []
  := by
  constructor
  · rw [List.append_nil]
  · simp
  · rintro a e rfl
    cases hdegraded
  · exact hfailed
  · simp [breaks, hdegraded]
  · exact fun _ => rfl
  · simpa using hcheck

/-- All that an operation does is accounted for. -/
theorem accounted_of_passes (h : Passes default check request t (outcome, t')) :
  ∃ asked, Accounted default check request t t' outcome asked
  := by
  cases h with
  | refused hcheck hfailure =>
      use []
      apply accounted_self rfl
      · rintro e ⟨⟩
        exact hfailure
      · simp [hcheck]
  | idle hcheck =>
      use []
      apply accounted_self rfl
      · rintro e ⟨⟩
      · simp [hcheck]
  | unbegun hcheck e hlog hwas hbegun hstate =>
      use [.refusal]
      apply accounted_ofError hcheck (by simp) hlog
      · intro x hx hstatement
        rw [List.mem_singleton.mp hx] at hstatement
        cases hstatement
      · have hnone : [Exchange.refusal].any (·.isStatement) = false := rfl
        rw [hstate, hnone, Bool.or_false]
  | @answered hcheck command hrequest hkind a t' hlog hbegun hstate =>
      use opening t.begun ++ [⟨command, false⟩]
      constructor
      · exact hlog
      · exact own_statement hrequest
      · rintro a e ⟨⟩
      · rintro e ⟨⟩
      · exact hstate
      · simp
      · simp [hcheck]
  | @faulted hcheck command hrequest hkind e t' hlog hbegun hstate =>
      use opening t.begun ++ [⟨command, true⟩]
      apply accounted_ofError hcheck (by simp) hlog (own_statement hrequest)
      have hsent : (opening t.begun ++ [Exchange.mk command true]).any (·.isStatement) = true := by
        simp [Exchange.isStatement, hkind]
      rw [hstate, hsent, Bool.or_true, if_pos rfl]

/-! ### Scopes that go on -/

/-- What holds of a scope that has not ended. -/
structure Open (t : SessionState (Transaction (Logged σ))) : Prop where
  isTerminal_eq : t.inner.state.isTerminal = false
  opened : Opened t.inner.begun t.inner.inner.log

/-- The start of a scope. -/
theorem open_start (s : σ) :
  Open ({ inner := { inner := { state := s } } } : SessionState (Transaction (Logged σ)))
  where
  isTerminal_eq := rfl
  opened := .waiting (by simp)

/-- An operation goes on with what has been asked. -/
theorem opened_of_passes (h : Passes default check request t (outcome, t'))
    (hopened : Opened t.begun t.inner.log) :
  Opened t'.begun t'.inner.log
  := by
  cases h with
  | refused | idle => exact hopened
  | unbegun _ e hlog hwas hbegun =>
      rw [hwas] at hopened
      rw [hbegun, hlog]
      exact hopened.refusal
  | answered _ _ hkind _ hlog hbegun | faulted _ _ hkind _ hlog hbegun =>
      rw [hbegun, hlog, ← List.append_assoc]
      exact hopened.opening.statement hkind

/-- What a call in an open scope comes to: it is accounted for, and it reports its own failure
besides translations. -/
theorem accounted_perform {t : SessionState (Transaction (Logged σ))} (h : Open t)
    (context : Context) (c : Connection σ) (call : Call) :
  let scope := context.scopeOver c.logged
  let done := scope.perform call t
  Open done.2 ∧
  (∃ asked, Accounted call.default (scope.check call) (scope.request? call) t.inner done.2.inner
    done.1 asked) ∧
  ∃ events, done.2.reports = t.reports ++ events ++ done.1.report call.operation call.subject ∧
    ∀ x ∈ events, x.operation = "translate"
  := by
  intro scope done
  obtain ⟨hpasses, hreports⟩ := Session.settles_perform context c call t h.isTerminal_eq
  obtain ⟨asked, haccounted⟩ := accounted_of_passes hpasses
  refine ⟨⟨?_, opened_of_passes hpasses h.opened⟩, ⟨asked, haccounted⟩, hreports⟩
  have hstate : done.2.inner.state = _ := haccounted.state_eq
  rw [hstate]
  split
  · rfl
  · exact h.isTerminal_eq

variable {u : SessionState (Transaction (Logged σ))}

/-- What is done in a scope leaves it open. -/
theorem Open.step (h : Open u) (context : Context) (c : Connection σ) (s : ScopeStep) :
  Open (Scope.step context c.logged s u).2
  := by
  cases s with
  | call call => exact (accounted_perform h context c call).1
  | step s =>
      obtain ⟨asked, hlog, heffect⟩ := hasEffect_step c h.isTerminal_eq s
      constructor
      · exact heffect.isTerminal_eq h.isTerminal_eq
      · show Opened (Transaction.step c.logged s u.inner).2.begun
          (Transaction.step c.logged s u.inner).2.inner.log
        rw [hlog]
        exact heffect.opened h.opened

/-- A faulted scope stays faulted. -/
theorem Open.faulted_step (h : Open u) (context : Context) (c : Connection σ)
    (hu : u.inner.state = .faulted) (s : ScopeStep) :
  (Scope.step context c.logged s u).2.inner.state = .faulted
  := by
  cases s with
  | call call =>
      obtain ⟨-, ⟨asked, haccounted⟩, -⟩ := accounted_perform h context c call
      have hstate : (Scope.step context c.logged (.call call) u).2.inner.state = _ :=
        haccounted.state_eq
      rw [hstate, hu, ite_self]
  | step s =>
      obtain ⟨asked, -, heffect⟩ := hasEffect_step c h.isTerminal_eq s
      exact heffect.faulted_iff.mpr (.inl hu)

/-- Any number of steps leaves a scope open. -/
theorem Open.run (h : Open u) (context : Context) (c : Connection σ) (steps : List ScopeStep) :
  Open (Scope.run context c.logged steps u).2
  := by
  induction steps generalizing u with
  | nil => exact h
  | cons s rest ih => exact ih (h.step context c s)

/-- A faulted scope stays faulted, whatever is done in it. -/
theorem Open.faulted_run (h : Open u) (context : Context) (c : Connection σ)
    (hu : u.inner.state = .faulted) (steps : List ScopeStep) :
  (Scope.run context c.logged steps u).2.inner.state = .faulted
  := by
  induction steps generalizing u with
  | nil => exact hu
  | cons s rest ih => exact ih (h.step context c s) (h.faulted_step context c hu s)

/-! ### Lost scopes -/

/-- Whether a scope is going to be rolled back, whatever is done in it and however it is left.  An
attempt to commit it is an error.  Its connection is asked for a rollback if it has begun, and
never for a commit. -/
def Lost (context : Context) (c : Connection σ) (u : SessionState (Transaction (Logged σ))) :
    Prop :=
  ∀ more way,
    let left := (Scope.run context c.logged more u).2.inner
    let ended := whole context c.logged more way u
    (way = .commit → isError ended.1.2 = true) ∧
    ended.2.inner.state = .rolledBack ∧
    (∃ failed, ended.2.inner.inner.log =
      left.inner.log ++ if left.begun then [.plain .rollback failed] else []) ∧
    ∀ x ∈ ended.2.inner.inner.log, x.command.kind ≠ .commit

/-- However a faulted transaction is ended, it is rolled back as far as it has begun. -/
theorem finish_of_faulted (c : Connection σ) (ht : t.state = .faulted) (way : TransactionEnd) :
  (Transaction.finish c.logged way t).2.state = .rolledBack ∧
    ∃ failed, (Transaction.finish c.logged way t).2.inner.log =
      t.inner.log ++ if t.begun then [.plain .rollback failed] else []
  := by
  have hcommit : (commit c.logged t).2 = (abandon c.logged t).2 := by
    unfold Transaction.commit
    rw [ht]
    dsimp only
    cases hrun : abandon c.logged t with
    | mk answer t' => cases answer <;> rfl
  have hclose : close c.logged (abandon c.logged t).2 = (abandon c.logged t).2 := rfl
  have hfinish : (Transaction.finish c.logged way t).2 = (abandon c.logged t).2 := by
    cases way with
    | commit =>
        show close c.logged (commit c.logged t).2 = _
        rw [hcommit, hclose]
    | rollback =>
        have hrollback : rollback c.logged t = abandon c.logged t := by
          unfold Transaction.rollback
          rw [ht]
          rfl
        show close c.logged (rollback c.logged t).2 = _
        rw [hrollback, hclose]
    | leave => exact hcommit
  rw [hfinish]
  use rfl, isError (c.rollback t.inner.state).1
  unfold abandon
  cases t.begun with
  | false => simp
  | true => rfl

/-- A faulted scope is lost. -/
theorem Open.lost (h : Open u) (context : Context) (c : Connection σ)
    (hu : u.inner.state = .faulted) :
  Lost context c u
  := by
  intro more way left ended
  have hopen : Open (Scope.run context c.logged more u).2 := h.run context c more
  have hleft : left.state = .faulted := h.faulted_run context c hu more
  have hended : ended.2.inner = (Transaction.finish c.logged way left).2 := rfl
  obtain ⟨hstate, failed, hlog⟩ := finish_of_faulted c hleft way
  rw [hended]
  refine ⟨?_, hstate, ⟨failed, hlog⟩, ?_⟩
  · rintro rfl
    exact isError_finish_commit c hleft
  · intro x hx hkind
    rw [hlog] at hx
    obtain ⟨y, hy, hcommit⟩ := hopen.opened.exists_commit_iff.mp ⟨x, hx, hkind⟩
    split at hy
    · rw [List.mem_singleton.mp hy] at hcommit
      cases hcommit
    · cases hy

/-! ### Reports -/

/-- No operation is called a translation. -/
theorem operation_ne (call : Call) :
  call.operation ≠ "translate"
  := by
  cases call <;> simp [Call.operation]

/-- Besides translations, the reports about an operation are about its own failure. -/
theorem filter_reports {call : Call} {before after events : List Event} {outcome : Outcome Answer}
    (h : after = before ++ events ++ outcome.report call.operation call.subject)
    (hevents : ∀ x ∈ events, x.operation = "translate") :
  after.filter (·.operation ≠ "translate") =
    before.filter (·.operation ≠ "translate") ++ outcome.report call.operation call.subject
  := by
  have hnone : events.filter (·.operation ≠ "translate") = [] := by
    rw [List.filter_eq_nil_iff]
    intro x hx
    simp [hevents x hx]
  have hall : (outcome.report call.operation call.subject).filter (·.operation ≠ "translate") =
      outcome.report call.operation call.subject := by
    rw [List.filter_eq_self]
    intro x hx
    cases outcome with
    | done | failed => cases hx
    | degraded a e =>
        rw [List.mem_singleton.mp hx]
        simp [operation_ne]
  rw [h, List.filter_append, List.filter_append, hnone, hall, List.append_nil]

/-- Besides translations, a run reports the failures of its calls, in their order. -/
theorem Open.reports_run (h : Open u) (context : Context) (c : Connection σ)
    (steps : List ScopeStep) :
  (Scope.run context c.logged steps u).2.reports.filter (·.operation ≠ "translate") =
    u.reports.filter (·.operation ≠ "translate") ++
      (Scope.run context c.logged steps u).1.flatMap fun done =>
        done.2.report done.1.operation done.1.subject
  := by
  induction steps generalizing u with
  | nil => exact (List.append_nil _).symm
  | cons s rest ih =>
      have hrun : Scope.run context c.logged (s :: rest) u =
          ((Scope.step context c.logged s u).1 ++
              (Scope.run context c.logged rest (Scope.step context c.logged s u).2).1,
            (Scope.run context c.logged rest (Scope.step context c.logged s u).2).2) := rfl
      rw [hrun]
      dsimp only
      rw [ih (h.step context c s), List.flatMap_append, ← List.append_assoc]
      congr 1
      cases s with
      | call call =>
          obtain ⟨-, -, events, hreports, hevents⟩ := accounted_perform h context c call
          have hstep : Scope.step context c.logged (.call call) u =
              ([(call, ((context.scopeOver c.logged).perform call u).1)],
                ((context.scopeOver c.logged).perform call u).2) := rfl
          rw [hstep, List.flatMap_singleton]
          exact filter_reports hreports hevents
      | step s => exact (List.append_nil _).symm

/-- After anything that has been done in a scope, on any connection: what a call does is accounted
for.  It has the default answer and one report of its own exactly if a command failed.  A call that
is refused before it needs the connection leaves the transaction as it is, and one that breaks
loses the scope. -/
theorem lost_of_breaks (context : Context) (c : Connection σ) (s : σ) (steps : List ScopeStep) :
  let start : SessionState (Transaction (Logged σ)) := { inner := { inner := { state := s } } }
  let scope := context.scopeOver c.logged
  let before := Scope.run context c.logged steps start
  context.scope = context.scopeOver Sqlite.Database.connection ∧
  (∀ way, let ended := whole context c.logged steps way start
    (ended.1, ended.2.map (Transaction.map Logged.state)) =
      whole context c steps way { inner := { inner := s } }) ∧
  before.2.reports.filter (·.operation ≠ "translate") =
    before.1.flatMap (fun done => done.2.report done.1.operation done.1.subject) ∧
  ∀ call, let done := scope.perform call before.2
    call.operation ≠ "translate" ∧
    (∃ events, (∀ x ∈ events, x.operation = "translate") ∧ done.2.reports =
      before.2.reports ++ events ++ done.1.report call.operation call.subject) ∧
    ∃ asked, Accounted call.default (scope.check call) (scope.request? call) before.2.inner
        done.2.inner done.1 asked ∧
      (breaks done.1 asked = true → Lost context c done.2)
  := by
  intro start scope before
  have hopen : Open before.2 := (open_start s).run context c steps
  refine ⟨context.scope_eq, ?_, ?_, ?_⟩
  · intro way ended
    exact follows_whole context (mirrors_logged c) steps way start
  · exact (open_start s).reports_run context c steps
  · intro call done
    obtain ⟨hdone, ⟨asked, haccounted⟩, events, hreports, hevents⟩ :=
      accounted_perform hopen context c call
    use operation_ne call, ⟨events, hevents, hreports⟩, asked, haccounted
    intro hbreaks
    apply hdone.lost context c
    have hstate : done.2.inner.state = _ := haccounted.state_eq
    rw [hstate, hbreaks, if_pos rfl]

/-- What is refused leaves no trace: a note that has not been stored, a type that is not registered
and a predicate without SQL.  A transaction that cannot begin is reported and loses the scope, and
so does, without a report, an update that fails for a reason of its own. -/
theorem lost_notes :
  let note := integers "Note" ["Age"]
  let context : Context := { (sessionOf note).context with config := { policy := .strict } }
  let scope := context.scopeOver Script.connection.logged
  let start (script : Script) : SessionState (Transaction (Logged Script)) :=
    { inner := { inner := { state := script } } }
  let gone : Error := .connection .connect "gone" none
  let closed := start { rules := [{ kind := some .begin, failure := some gone }] }
  let locked := start { rules := [{ kind := some .execute, failure := some (.custom "locked") }] }
  let degraded := scope.perform (.fetch note .always) closed
  let failed := scope.perform (.update note ⟨1, [some (.int 1), some (.int 18)]⟩) locked
  (∀ refused ∈ [(Call.update note {}, Session.unsaved note),
      (.count (integers "Task" []) .always, .ofConfig "entity Task is not registered"),
      (.deleteWhere note (.isFalse "Read"), .translation "Note" "unknown column 'Read' on Note")],
    scope.check refused.1 = .error refused.2 ∧
      (scope.perform refused.1 closed).1 = .failed refused.2 ∧
      (scope.perform refused.1 closed).2.inner = closed.inner) ∧
  (degraded.1 = .degraded (.entities note []) gone ∧
    degraded.2.reports = [⟨"fetch", "Connection error: gone", none, some "Note"⟩] ∧
    Lost context Script.connection degraded.2) ∧
  failed.1 = .failed (.custom "locked") ∧ failed.2.reports = [] ∧
    Lost context Script.connection failed.2
  := by
  intro note context scope start gone closed locked degraded failed
  have hall := fun script => (lost_of_breaks context Script.connection script []).2.2.2
  have hdegraded : degraded.1 = .degraded (.entities note []) gone := by decide +kernel
  have hfailed : failed.1 = .failed (.custom "locked") := by decide +kernel
  refine ⟨?_, ⟨hdegraded, ?_, ?_⟩, hfailed, ?_, ?_⟩
  · intro refused hrefused
    have hcheck : scope.check refused.1 = .error refused.2 := by
      simp only [List.mem_cons, List.not_mem_nil, or_false] at hrefused
      obtain rfl | rfl | rfl := hrefused <;> decide +kernel
    obtain ⟨-, -, asked, haccounted, -⟩ := hall _ refused.1
    obtain ⟨houtcome, hasked⟩ := (haccounted.refused_iff _).mp hcheck
    exact ⟨hcheck, houtcome, haccounted.unchanged hasked⟩
  · decide +kernel
  · obtain ⟨-, -, asked, -, hlost⟩ := hall _ (.fetch note .always)
    apply hlost
    show breaks degraded.1 asked = true
    rw [hdegraded]
    rfl
  · decide +kernel
  · obtain ⟨-, -, asked, haccounted, hlost⟩ :=
      hall _ (.update note ⟨1, [some (.int 1), some (.int 18)]⟩)
    apply hlost
    have hlog : failed.2.inner.inner.log = [] ++ asked := haccounted.log_eq
    have hsent : failed.2.inner.inner.log.any (·.isStatement) = true := by decide +kernel
    rw [hlog] at hsent
    show breaks failed.1 asked = true
    rw [hfailed]
    exact hsent

end Scope

end EntityStore
