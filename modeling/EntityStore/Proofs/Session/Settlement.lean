import EntityStore.Proofs.Session.Scope

/-!
# Attempts to commit

Whoever asks for a commit is told if the work is lost: without an error nothing was begun or it is
committed, and a rollback is an error.  The one exception is a transaction that was marked not to be
committed and in which nothing failed.  It is rolled back as its owner asked for, and that is no
error.  So it is with transactions on any connection, and with scopes.
-/

namespace EntityStore

open Connection

variable {σ : Type}

/-- A step marks a transaction in one of two ways. -/
theorem TransactionStep.isMark_eq_false_iff {s : TransactionStep} :
  s.isMark = false ↔ s ≠ .withhold ∧ s ≠ .markFaulted
  := by
  cases s <;> simp [isMark]

namespace Transaction

/-! ### One attempt -/

/-- How an attempt to commit can come out: whether it fails, what the connection is asked for it,
and the state in the end. -/
inductive Attempt : Bool → TransactionState → Bool → List Exchange → TransactionState → Prop
  | idle : Attempt false .active false [] .committed
  | committed : Attempt true .active false [.plain .commit false] .committed
  /-- The commit fails. -/
  | reverted (failed : Bool) :
      Attempt true .active true [.plain .commit true, .plain .rollback failed] .rolledBack
  | spared : Attempt false .withheld false [] .rolledBack
  | withheld (failed : Bool) :
      Attempt true .withheld failed [.plain .rollback failed] .rolledBack
  | blocked : Attempt false .faulted true [] .rolledBack
  | faulted (failed : Bool) :
      Attempt true .faulted true [.plain .rollback failed] .rolledBack

variable {t : Transaction (Logged σ)}

/-- What a rollback comes to. -/
theorem abandon_logged (c : Connection σ) (t : Transaction (Logged σ)) :
  ∃ failed, isError (abandon c.logged t).1 = (t.begun && failed) ∧
    (abandon c.logged t).2.inner.log =
      t.inner.log ++ (if t.begun then [.plain .rollback failed] else []) ∧
    (abandon c.logged t).2.state = .rolledBack
  := by
  use isError (c.rollback t.inner.state).1
  unfold abandon
  cases t.begun with
  | false => simp [isError]
  | true => exact ⟨rfl, rfl, rfl⟩

/-- Every attempt to commit a transaction that has not ended comes out in one of these ways. -/
theorem attempt_commit (c : Connection σ) (ht : t.state.isTerminal = false) :
  ∃ asked, (commit c.logged t).2.inner.log = t.inner.log ++ asked ∧
    Attempt t.begun t.state (isError (commit c.logged t).1) asked (commit c.logged t).2.state
  := by
  obtain ⟨failed, hfailed, hlog, hstate⟩ := abandon_logged c t
  unfold commit
  cases hcurrent : t.state with
  | committed | rolledBack =>
      rw [hcurrent] at ht
      cases ht
  | active =>
      dsimp only
      unfold settle
      cases hbegun : t.begun with
      | false => exact ⟨[], by simp, .idle⟩
      | true =>
          rw [if_pos rfl]
          cases hcommit : c.commit t.inner.state with
          | mk answer s =>
              simp only [onInner, logged, noting, hcommit]
              cases answer with
              | ok _ => exact ⟨_, rfl, .committed⟩
              | error e => exact ⟨_, List.append_assoc _ _ _, .reverted _⟩
  | withheld =>
      dsimp only
      refine ⟨_, hlog, ?_⟩
      rw [hfailed, hstate]
      cases t.begun with
      | false => exact .spared
      | true => exact .withheld failed
  | faulted =>
      dsimp only
      cases hrun : abandon c.logged t with
      | mk answer t' =>
          rw [hrun] at hlog hstate
          have hattempt : Attempt t.begun .faulted true
              (if t.begun then [.plain .rollback failed] else []) t'.state := by
            rw [hstate]
            cases t.begun with
            | false => exact .blocked
            | true => exact .faulted failed
          cases answer with
          | ok _ => exact ⟨_, hlog, hattempt⟩
          | error e => exact ⟨_, hlog, hattempt⟩

/-- What is asked in an attempt is the end of a transaction. -/
theorem Attempt.ending {begun failed : Bool} {state final : TransactionState}
    {asked : List Exchange} (h : Attempt begun state failed asked final) :
  Ending begun asked
  := by
  cases h with
  | idle | spared | blocked => exact .untouched
  | committed => exact .committed
  | reverted => exact .reverted _
  | withheld | faulted => exact .rolledBack _

/-- Whether an attempt to commit tells what became of the work, unless there is an excuse. -/
structure Honest (excused : Prop) (log : List Exchange) (failed : Bool)
    (final : TransactionState) : Prop where
  /-- Without an error nothing was begun, or it is committed. -/
  settled : failed = false → (∀ x ∈ log, x.hasBegun = false) ∨
    (.plain .commit false ∈ log ∧ final = .committed) ∨
    (excused ∧ .plain .rollback false ∈ log ∧ final = .rolledBack)
  /-- A rollback is an error. -/
  told : (∃ x ∈ log, x.command.kind = .rollback) → failed = true ∨ excused
  /-- With an excuse what has begun is rolled back, which is an error only if the rollback fails. -/
  reversed : excused → (∃ x ∈ log, x.hasBegun = true) →
    final = .rolledBack ∧ (failed = true ↔ .plain .rollback true ∈ log)

/-- An attempt to commit tells what became of the work, unless the transaction was withheld. -/
theorem Attempt.honest {begun failed : Bool} {state final : TransactionState}
    {before asked : List Exchange} (h : Attempt begun state failed asked final)
    (hopened : Opened begun before) :
  Honest (state = .withheld) (before ++ asked) failed final
  := by
  have hbegun := hopened.begun_iff h.ending
  have hend {x : Exchange} (hkind : x.isEnd = true) : x ∈ before ++ asked ↔ x ∈ asked := by
    rw [List.mem_append]
    apply or_iff_right
    intro hx
    rw [hopened.isEnd_eq hx] at hkind
    cases hkind
  have hnone (hidle : begun = false) : ∀ x ∈ before ++ asked, x.hasBegun = false := by
    intro x hx
    cases hhas : x.hasBegun with
    | false => rfl
    | true =>
        rw [hbegun.mp ⟨x, hx, hhas⟩] at hidle
        cases hidle
  constructor
  · rintro rfl
    cases h with
    | idle | spared => exact .inl (hnone rfl)
    | committed => exact .inr (.inl ⟨by simp, rfl⟩)
    | withheld => exact .inr (.inr ⟨rfl, by simp, rfl⟩)
  · rintro ⟨x, hx, hkind⟩
    have hmem := (hend (by simp [Exchange.isEnd, hkind])).mp hx
    cases h with
    | idle | spared | blocked => cases hmem
    | committed =>
        rw [List.mem_singleton.mp hmem] at hkind
        cases hkind
    | reverted | faulted => exact .inl rfl
    | withheld => exact .inr rfl
  · rintro rfl hhas
    rw [hend rfl]
    have htrue := hbegun.mp hhas
    cases h with
    | spared => cases htrue
    | withheld => exact ⟨rfl, by simp [Exchange.plain]⟩

theorem Honest.congr {excused excused' : Prop} {log : List Exchange} {failed : Bool}
    {final : TransactionState} (h : Honest excused log failed final)
    (hexcused : excused ↔ excused') :
  Honest excused' log failed final
  := propext hexcused ▸ h

/-! ### What speaks against a commit -/

/-- The state of a transaction that has not ended, by whether it was marked not to be committed and
whether something was at fault. -/
structure Standing (marked fault : Prop) (state : TransactionState) : Prop where
  isTerminal_eq : state.isTerminal = false
  faulted_iff : state = .faulted ↔ fault
  active_iff : state = .active ↔ ¬ marked ∧ ¬ fault

/-- A transaction is withheld if it was marked and nothing is at fault. -/
theorem Standing.withheld_iff {marked fault : Prop} {state : TransactionState}
    (h : Standing marked fault state) :
  state = .withheld ↔ marked ∧ ¬ fault
  := by
  have hterminal := h.isTerminal_eq
  rw [← h.faulted_iff]
  have hmarked : state ≠ .faulted → (marked ↔ state ≠ .active) := by
    rw [ne_eq, ne_eq, h.faulted_iff, h.active_iff]
    tauto
  cases state with
  | committed | rolledBack => cases hterminal
  | active | withheld | faulted => simp_all

/-- One more step, which may mark the transaction and may be at fault. -/
theorem Standing.step {marked fault marks faults : Prop} {state state' : TransactionState}
    (h : Standing marked fault state) (hterminal : state'.isTerminal = false)
    (hfaulted : state' = .faulted ↔ state = .faulted ∨ faults)
    (hactive : state' = .active ↔ state = .active ∧ ¬ marks ∧ ¬ faults) :
  Standing (marked ∨ marks) (fault ∨ faults) state'
  where
  isTerminal_eq := hterminal
  faulted_iff := by rw [hfaulted, h.faulted_iff]
  active_iff := by
    rw [hactive, h.active_iff]
    tauto

theorem Standing.congr {marked marked' fault fault' : Prop} {state : TransactionState}
    (h : Standing marked fault state) (hmarked : marked ↔ marked') (hfault : fault ↔ fault') :
  Standing marked' fault' state
  := propext hmarked ▸ propext hfault ▸ h

/-- The state of a transaction after some steps. -/
theorem Ongoing.standing {steps : List TransactionStep} (h : Ongoing steps t) :
  Standing (.withhold ∈ steps)
    (.markFaulted ∈ steps ∨ ∃ x ∈ t.inner.log, x.isFault = true) t.state
  where
  isTerminal_eq := h.isTerminal_eq
  faulted_iff := h.faulted_iff
  active_iff := by
    have hmarks : (∀ s ∈ steps, s.isMark = false) ↔
        TransactionStep.withhold ∉ steps ∧ TransactionStep.markFaulted ∉ steps := by
      simp only [TransactionStep.isMark_eq_false_iff, ne_eq, imp_and, forall_and,
        List.forall_mem_ne']
    rw [h.active_iff, hmarks, not_or, and_assoc]

/-! ### Attempts after steps -/

/-- An attempt to commit leaves nothing to close. -/
theorem finish_commit (c : Connection σ) (ht : t.state.isTerminal = false) :
  finish c.logged .commit t = commit c.logged t
  := by
  have hterminal := (ends_commit c ht).1
  show ((commit c.logged t).1, close c.logged (commit c.logged t).2) = _
  cases hrun : commit c.logged t with
  | mk answer t' =>
      rw [hrun] at hterminal
      unfold close commit
      cases hstate : t'.state <;> first | rfl | (rw [hstate] at hterminal; cases hterminal)

/-- The last attempt tells what became of the work, unless the transaction was marked not to be
committed and nothing is at fault.  No statement comes with it. -/
theorem Standing.honest {marked fault : Prop} (h : Standing marked fault t.state)
    (hopened : Opened t.begun t.inner.log) (c : Connection σ) :
  let done := finish c.logged .commit t
  ((∃ x ∈ done.2.inner.log, x.isFault = true) ↔ ∃ x ∈ t.inner.log, x.isFault = true) ∧
    Honest (marked ∧ ¬ fault) done.2.inner.log (isError done.1) done.2.state
  := by
  obtain ⟨asked, hlog, hattempt⟩ := attempt_commit c h.isTerminal_eq
  dsimp only
  rw [finish_commit c h.isTerminal_eq, hlog]
  exact ⟨hattempt.ending.exists_isFault_iff _, (hattempt.honest hopened).congr h.withheld_iff⟩

end Transaction

namespace Scope

open Transaction

variable {t t' : Transaction (Logged σ)} {α : Type} {default : α} {check : Except Error Unit}
  {request : Option Command} {outcome : Outcome α}

theorem isDegraded_ofError (default : α) (e : Error) :
  (Outcome.ofError default e).isDegraded = e.isCommandFailure
  := by
  unfold Outcome.ofError
  cases e.isCommandFailure <;> rfl

/-- A statement, and the begin before the first one, are at fault if the statement fails. -/
theorem exists_isFault_iff {begun failed : Bool} {command : Command}
    (h : command.kind.isStatement = true) :
  (∃ x ∈ opening begun ++ [⟨command, failed⟩], x.isFault = true) ↔ failed = true
  := by
  have hopening : ¬ ∃ x ∈ opening begun, x.isFault = true := by
    rintro ⟨x, hx, hfault⟩
    rw [Effect.not_isFault_opening hx] at hfault
    cases hfault
  simp only [List.mem_append, or_and_right, exists_or, List.mem_singleton, exists_eq_left]
  rw [or_iff_right hopening, Exchange.isFault, Exchange.isStatement, h, Bool.true_and]

/-- An operation is at fault if its statement fails, or if it has the default answer. -/
theorem standing_of_passes (h : Passes default check request t (outcome, t')) :
  ∃ asked, t'.inner.log = t.inner.log ++ asked ∧
    (t'.state = .faulted ↔ t.state = .faulted ∨
      ((∃ x ∈ asked, x.isFault = true) ∨ outcome.isDegraded = true)) ∧
    (t'.state = .active ↔ t.state = .active ∧
      ¬ ((∃ x ∈ asked, x.isFault = true) ∨ outcome.isDegraded = true))
  := by
  cases h with
  | refused | idle => exact ⟨[], by simp [Outcome.isDegraded]⟩
  | unbegun _ e hlog _ _ hstate =>
      refine ⟨[.refusal], hlog, ?_⟩
      have hfault : Exchange.refusal.isFault = false := rfl
      rw [hstate, isDegraded_ofError]
      cases e.isCommandFailure <;> simp [hfault]
  | answered _ _ hkind a hlog _ hstate =>
      refine ⟨_, hlog, ?_⟩
      rw [hstate, exists_isFault_iff hkind]
      simp [Outcome.isDegraded]
  | faulted _ _ hkind e hlog _ hstate =>
      refine ⟨_, hlog, ?_⟩
      rw [hstate, exists_isFault_iff hkind]
      simp

/-- What holds of a scope that goes on, after some steps with the outcomes of their calls. -/
structure Kept (steps : List ScopeStep) (outcomes : List (Call × Outcome Answer))
    (u : SessionState (Transaction (Logged σ))) : Prop where
  isOpen : Open u
  standing : Standing (.step .withhold ∈ steps)
    (.step .markFaulted ∈ steps ∨ (∃ x ∈ u.inner.inner.log, x.isFault = true) ∨
      ∃ done ∈ outcomes, done.2.isDegraded = true) u.inner.state

/-- The start of a scope. -/
theorem kept_start (s : σ) :
  Kept [] [] ({ inner := { inner := { state := s } } } : SessionState (Transaction (Logged σ)))
  where
  isOpen := open_start s
  standing := ⟨rfl, by simp, by simp⟩

variable {u : SessionState (Transaction (Logged σ))} {steps : List ScopeStep}
  {outcomes : List (Call × Outcome Answer)}

/-- One more call. -/
theorem Kept.call (h : Kept steps outcomes u) {call : Call} {outcome : Outcome Answer}
    {u' : SessionState (Transaction (Logged σ))} (hopen : Open u') {default : Answer}
    (hpasses : Passes default check request u.inner (outcome, u'.inner)) :
  Kept (steps ++ [.call call]) (outcomes ++ [(call, outcome)]) u'
  where
  isOpen := hopen
  standing := by
    obtain ⟨asked, hlog, hfaulted, hactive⟩ := standing_of_passes hpasses
    -- A call marks nothing.
    have hunmarked (p : Prop) : ¬ p ↔ ¬ False ∧ ¬ p := by simp
    have hstep := h.standing.step hopen.isTerminal_eq hfaulted
      (hactive.trans (and_congr_right' (hunmarked _)))
    rw [hlog]
    apply hstep.congr
    · simp
    · simp only [List.mem_append, or_and_right, exists_or, List.mem_singleton, reduceCtorEq,
        or_false, exists_eq_left]
      exact or_assoc.trans (or_congr_right or_or_or_comm)

/-- One more mark of the transaction, or command on its connection. -/
theorem Kept.mark (h : Kept steps outcomes u) {s : TransactionStep} {failed : Bool}
    {added : List Exchange} {u' : SessionState (Transaction (Logged σ))} (hopen : Open u')
    (hlog : u'.inner.inner.log = u.inner.inner.log ++ added)
    (heffect : Effect u.inner.begun u.inner.state s failed added u'.inner.begun u'.inner.state) :
  Kept (steps ++ [.step s]) outcomes u'
  where
  isOpen := hopen
  standing := by
    have hactive : u'.inner.state = .active ↔ u.inner.state = .active ∧ ¬ s = .withhold ∧
        ¬ (s = .markFaulted ∨ ∃ x ∈ added, x.isFault = true) := by
      rw [heffect.active_iff, TransactionStep.isMark_eq_false_iff, not_or, and_assoc]
    have hstep := h.standing.step hopen.isTerminal_eq heffect.faulted_iff hactive
    rw [hlog]
    apply hstep.congr
    · simp [eq_comm (a := s)]
    · simp only [List.mem_append, or_and_right, exists_or, List.mem_singleton,
        ScopeStep.step.injEq, eq_comm (a := s)]
      exact or_or_or_comm.trans (or_congr_right or_right_comm)

/-- One more step. -/
theorem Kept.step (h : Kept steps outcomes u) (context : Context) (c : Connection σ)
    (s : ScopeStep) :
  Kept (steps ++ [s]) (outcomes ++ (Scope.step context c.logged s u).1)
    (Scope.step context c.logged s u).2
  := by
  have hopen := h.isOpen.step context c s
  cases s with
  | call call =>
      obtain ⟨hpasses, -⟩ := Session.settles_perform context c call u h.isOpen.isTerminal_eq
      exact h.call hopen hpasses
  | step s =>
      obtain ⟨added, hlog, heffect⟩ := hasEffect_step c h.isOpen.isTerminal_eq s
      have hrun : (Scope.step context c.logged (.step s) u).1 = [] := rfl
      rw [hrun, List.append_nil]
      exact h.mark hopen hlog heffect

/-- Any number of further steps. -/
theorem Kept.run (h : Kept steps outcomes u) (context : Context) (c : Connection σ)
    (more : List ScopeStep) :
  Kept (steps ++ more) (outcomes ++ (Scope.run context c.logged more u).1)
    (Scope.run context c.logged more u).2
  := by
  induction more generalizing steps outcomes u with
  | nil =>
      have hrun : Scope.run context c.logged [] u = ([], u) := rfl
      rwa [hrun, List.append_nil, List.append_nil]
  | cons s rest ih =>
      have hrun : Scope.run context c.logged (s :: rest) u =
          ((Scope.step context c.logged s u).1 ++
              (Scope.run context c.logged rest (Scope.step context c.logged s u).2).1,
            (Scope.run context c.logged rest (Scope.step context c.logged s u).2).2) := rfl
      have hrest := ih (h.step context c s)
      rw [List.append_assoc, List.append_assoc, List.singleton_append] at hrest
      rwa [hrun]

end Scope

open Transaction

/-- On any connection, after any steps of a transaction and after any calls in a scope: an attempt
to commit tells what became of the work.  The one excuse is that the transaction was marked not to
be committed, and neither by a mark nor by a statement nor by a call was anything at fault. -/
theorem honest_commit (c : Connection σ) (s : σ) :
  (∀ steps : List TransactionStep,
    let noted := Transaction.whole c.logged steps .commit { inner := { state := s } }
    let log := noted.2.inner.log
    (noted.1, Transaction.map Logged.state noted.2) =
      Transaction.whole c steps .commit { inner := s } ∧
    Honest (.withhold ∈ steps ∧ .markFaulted ∉ steps ∧ ∀ x ∈ log, x.isFault = false)
      log (isError noted.1.2) noted.2.state) ∧
  ∀ (context : Context) (steps : List ScopeStep),
    let ended := Scope.whole context c.logged steps .commit { inner := { inner := { state := s } } }
    let log := ended.2.inner.inner.log
    (ended.1, ended.2.map (Transaction.map Logged.state)) =
      Scope.whole context c steps .commit { inner := { inner := s } } ∧
    Honest (.step .withhold ∈ steps ∧ .step .markFaulted ∉ steps ∧
        (∀ x ∈ log, x.isFault = false) ∧ ∀ done ∈ ended.1.1, done.2.isDegraded = false)
      log (isError ended.1.2) ended.2.inner.state
  := by
  constructor
  · intro steps noted log
    use Transaction.follows_whole c steps .commit _
    have hongoing := (ongoing_start s).run c steps
    obtain ⟨hfaults, hhonest⟩ := hongoing.standing.honest hongoing.opened c
    apply hhonest.congr
    simp only [List.nil_append, ← hfaults, not_or, not_exists, not_and, Bool.not_eq_true]
    rfl
  · intro context steps ended log
    use Scope.follows_whole context (mirrors_logged c) steps .commit _
    have hkept := (Scope.kept_start s).run context c steps
    obtain ⟨hfaults, hhonest⟩ := hkept.standing.honest hkept.isOpen.opened c
    apply hhonest.congr
    simp only [List.nil_append, ← hfaults, not_or, not_exists, not_and, Bool.not_eq_true]
    rfl

/-- A transaction that is marked not to be committed is rolled back with its statement, and the
attempt to commit is no error. -/
theorem withheld_update_reversed :
  let steps : List TransactionStep := [.command { kind := .execute, sql := "UPDATE a" }, .withhold]
  let done := Transaction.whole Script.connection.logged steps .commit { inner := { state := {} } }
  done.1 = ([.ok (.changes 1), .ok .done], .ok ()) ∧
  done.2.inner.log =
    [.begun, ⟨{ kind := .execute, sql := "UPDATE a" }, false⟩, .plain .rollback false] ∧
  done.2.state = .rolledBack ∧
  ¬ Honest False done.2.inner.log (isError done.1.2) done.2.state
  := by
  intro steps done
  have hlog : done.2.inner.log =
      [.begun, ⟨{ kind := .execute, sql := "UPDATE a" }, false⟩, .plain .rollback false] := rfl
  refine ⟨rfl, hlog, rfl, ?_⟩
  intro h
  obtain hfailed | hexcused := h.told ⟨.plain .rollback false, by simp [hlog], rfl⟩
  · cases hfailed
  · exact hexcused

end EntityStore
