import EntityStore.Proofs.Transaction.Steps
import EntityStore.Proofs.Transaction.View

/-!
# The lifecycle of a transaction

Whatever is done within a transaction and however it is ended, its connection sees at most
one transaction.  What has been asked of the connection while the transaction goes on is
`Opened`, which every step keeps, and what its end adds to that is an `Ending`.
-/

namespace EntityStore

open Connection

variable {σ α : Type}

namespace Exchange

/-- Whether the command is a begin that succeeded. -/
def hasBegun (x : Exchange) : Bool :=
  x.command.kind = .begin && !x.failed

/-- Whether the command commits or rolls back. -/
def isEnd (x : Exchange) : Bool :=
  x.command.kind = .commit || x.command.kind = .rollback

/-- Whether the command is a statement that failed. -/
def isFault (x : Exchange) : Bool :=
  x.isStatement && x.failed

/-- No statement failed if every statement succeeded. -/
theorem not_exists_isFault_iff {log : List Exchange} :
  (¬∃ x ∈ log, x.isFault = true) ↔ ∀ x ∈ log, x.isStatement = true → x.failed = false
  := by
  simp [isFault]

/-- A statement is not a begin. -/
theorem hasBegun_of_isStatement {x : Exchange} (h : x.isStatement = true) :
  x.hasBegun = false
  := by
  obtain ⟨⟨kind, _, _⟩, _⟩ := x
  cases kind <;> first | rfl | cases h

/-- A statement ends nothing. -/
theorem isEnd_of_isStatement {x : Exchange} (h : x.isStatement = true) :
  x.isEnd = false
  := by
  obtain ⟨⟨kind, _, _⟩, _⟩ := x
  cases kind <;> first | rfl | cases h

end Exchange

namespace Transaction

/-! ### While a transaction goes on -/

/-- What a connection has been asked within a transaction that has not ended: begins that
failed, and statements once a begin has succeeded. -/
inductive Opened : Bool → List Exchange → Prop
  | waiting {refused : List Exchange} (hrefused : ∀ x ∈ refused, x = .refusal) :
      Opened false refused
  | begun {refused ran : List Exchange} (hrefused : ∀ x ∈ refused, x = .refusal)
      (hran : ∀ x ∈ ran, x.isStatement = true) : Opened true (refused ++ .begun :: ran)

/-- The begin that is due. -/
theorem Opened.opening {begun : Bool} {log : List Exchange} (h : Opened begun log) :
  Opened true (log ++ opening begun)
  := by
  cases h with
  | waiting hrefused => exact .begun hrefused (by simp)
  | begun hrefused hran =>
      rw [Transaction.opening, if_pos rfl, List.append_nil]
      exact .begun hrefused hran

/-- One more begin that failed. -/
theorem Opened.refusal {log : List Exchange} (h : Opened false log) :
  Opened false (log ++ [.refusal])
  := by
  cases h with
  | waiting hrefused =>
      apply Opened.waiting
      intro x hx
      obtain hx | hx := List.mem_append.mp hx
      · exact hrefused x hx
      · exact List.mem_singleton.mp hx

/-- One more statement. -/
theorem Opened.statement {log : List Exchange} (h : Opened true log) {x : Exchange}
    (hx : x.isStatement = true) :
  Opened true (log ++ [x])
  := by
  cases h with
  | begun hrefused hran =>
      rw [List.append_assoc, List.cons_append]
      apply Opened.begun hrefused
      intro y hy
      obtain hy | hy := List.mem_append.mp hy
      · exact hran y hy
      · rw [List.mem_singleton.mp hy, hx]

namespace Effect

variable {begun begun' failed : Bool} {state state' : TransactionState} {s : TransactionStep}
  {added : List Exchange}

/-- A step goes on with what has been asked. -/
theorem opened (h : Effect begun state s failed added begun' state') {log : List Exchange}
    (hlog : Opened begun log) :
  Opened begun' (log ++ added)
  := by
  cases h with
  | withhold | markFaulted | nested => rwa [List.append_nil]
  | begin => apply hlog.opening
  | refused _ hbegun =>
      rw [hbegun] at hlog
      apply hlog.refusal
  | statement hs =>
      rw [← List.append_assoc]
      apply hlog.opening.statement
      apply TransactionStep.isStatement_of_statement? hs

/-- No begin is a failed statement. -/
theorem not_isFault_opening {x : Exchange} (hx : x ∈ opening begun) :
  x.isFault = false
  := by
  unfold opening at hx
  split at hx
  · cases hx
  · rw [List.mem_singleton.mp hx]
    rfl

/-- The failed statements of a step that is one. -/
theorem exists_isFault_iff {command : Command} (hs : s.statement? = some command) :
  (∃ x ∈ opening begun ++ [⟨command, failed⟩], x.isFault = true) ↔ failed = true
  := by
  have hcommand : Exchange.isFault ⟨command, failed⟩ = failed := by
    simp [Exchange.isFault, Exchange.isStatement,
      TransactionStep.isStatement_of_statement? hs]
  constructor
  · rintro ⟨x, hx, hfault⟩
    obtain hx | hx := List.mem_append.mp hx
    · rw [not_isFault_opening hx] at hfault
      cases hfault
    · rwa [List.mem_singleton.mp hx, hcommand] at hfault
  · intro hfailed
    use ⟨command, failed⟩, by simp
    rw [hcommand, hfailed]

/-- A step faults a transaction if it marks it so, or if it is a statement that fails. -/
theorem faulted_iff (h : Effect begun state s failed added begun' state') :
  state' = .faulted ↔
    state = .faulted ∨ s = .markFaulted ∨ ∃ x ∈ added, x.isFault = true
  := by
  cases h with
  | withhold => cases state <;> simp
  | markFaulted => simp
  | nested => simp
  | begin =>
      have hnone : ¬∃ x ∈ opening begun, x.isFault = true := by
        rintro ⟨x, hx, hfault⟩
        rw [not_isFault_opening hx] at hfault
        cases hfault
      simp [hnone]
  | refused hmark =>
      have hs : s ≠ .markFaulted := by
        rintro rfl
        cases hmark
      simp [hs, Exchange.isFault, Exchange.isStatement, Exchange.refusal, Exchange.plain,
        CommandKind.isStatement]
  | statement hs =>
      have hmark : s ≠ .markFaulted := by
        rintro rfl
        cases hs
      rw [exists_isFault_iff hs]
      cases failed <;> simp [hmark]

/-- A step leaves a transaction active if it does not mark it, and is no statement that
fails. -/
theorem active_iff (h : Effect begun state s failed added begun' state') :
  state' = .active ↔
    state = .active ∧ s.isMark = false ∧ ¬∃ x ∈ added, x.isFault = true
  := by
  cases h with
  | withhold => cases state <;> simp [TransactionStep.isMark]
  | markFaulted => simp [TransactionStep.isMark]
  | nested => simp [TransactionStep.isMark]
  | begin =>
      have hnone : ¬∃ x ∈ opening begun, x.isFault = true := by
        rintro ⟨x, hx, hfault⟩
        rw [not_isFault_opening hx] at hfault
        cases hfault
      simp only [hnone, TransactionStep.isMark, not_false_eq_true, and_true]
  | refused hmark =>
      simp [hmark, Exchange.isFault, Exchange.isStatement, Exchange.refusal, Exchange.plain,
        CommandKind.isStatement]
  | statement hs =>
      have hmark : s.isMark = false := by
        cases s <;> first | rfl | cases hs
      rw [exists_isFault_iff hs]
      cases failed <;> simp [hmark]

/-- A step does not end a transaction. -/
theorem isTerminal_eq (h : Effect begun state s failed added begun' state')
    (hstate : state.isTerminal = false) :
  state'.isTerminal = false
  := by
  cases h with
  | withhold => split <;> first | rfl | exact hstate
  | markFaulted => rfl
  | nested | begin | refused => exact hstate
  | statement => split <;> first | rfl | exact hstate

end Effect

/-- What holds of a transaction while it goes on, after some steps. -/
structure Ongoing (steps : List TransactionStep) (t : Transaction (Logged σ)) : Prop where
  isTerminal_eq : t.state.isTerminal = false
  opened : Opened t.begun t.inner.log
  faulted_iff : t.state = .faulted ↔
    .markFaulted ∈ steps ∨ ∃ x ∈ t.inner.log, x.isFault = true
  active_iff : t.state = .active ↔
    (∀ s ∈ steps, s.isMark = false) ∧ ¬∃ x ∈ t.inner.log, x.isFault = true

/-- The start of a transaction. -/
theorem ongoing_start (s : σ) :
  Ongoing [] ({ inner := { state := s } } : Transaction (Logged σ))
  where
  isTerminal_eq := rfl
  opened := .waiting (by simp)
  faulted_iff := by simp
  active_iff := by simp

/-- One more step. -/
theorem Ongoing.step {steps : List TransactionStep} {t : Transaction (Logged σ)}
    (h : Ongoing steps t) (c : Connection σ) (s : TransactionStep) :
  Ongoing (steps ++ [s]) (step c.logged s t).2
  := by
  obtain ⟨added, hlog, heffect⟩ := hasEffect_step c h.isTerminal_eq s
  constructor
  · apply heffect.isTerminal_eq h.isTerminal_eq
  · rw [hlog]
    apply heffect.opened h.opened
  · rw [heffect.faulted_iff, h.faulted_iff, hlog]
    simp only [List.mem_append, List.mem_singleton, or_and_right, exists_or, eq_comm (a := s)]
    apply or_or_or_comm
  · rw [heffect.active_iff, h.active_iff, hlog]
    simp only [List.mem_append, List.mem_singleton, or_and_right, exists_or, or_imp,
      forall_and, forall_eq, not_or]
    apply and_and_and_comm

/-- Any number of further steps. -/
theorem Ongoing.run {steps : List TransactionStep} {t : Transaction (Logged σ)}
    (h : Ongoing steps t) (c : Connection σ) (more : List TransactionStep) :
  Ongoing (steps ++ more) (run c.logged more t).2
  := by
  induction more generalizing steps t with
  | nil => rwa [List.append_nil]
  | cons s rest ih =>
      have hrest := ih (h.step c s)
      rwa [List.append_assoc, List.singleton_append] at hrest

/-! ### The end of a transaction -/

/-- How a transaction ends on its connection, if it has begun and if it has not. -/
inductive Ending : Bool → List Exchange → Prop
  | untouched : Ending false []
  | committed : Ending true [.plain .commit false]
  | rolledBack (failed : Bool) : Ending true [.plain .rollback failed]
  /-- A commit that fails is followed by a rollback. -/
  | reverted (failed : Bool) : Ending true [.plain .commit true, .plain .rollback failed]

/-- Whether a transaction ends another, with a commit if that has begun and may be
committed. -/
def Ends (t : Transaction (Logged σ)) (committing : Prop) (t' : Transaction (Logged σ)) : Prop :=
  t'.state.isTerminal = true ∧ ∃ ending, t'.inner.log = t.inner.log ++ ending ∧
    Ending t.begun ending ∧
    ((∃ x ∈ ending, x.command.kind = .commit) ↔ t.begun = true ∧ committing)

/-- A rollback ends a transaction. -/
theorem ends_abandon (c : Connection σ) (t : Transaction (Logged σ)) :
  Ends t False (abandon c.logged t).2
  := by
  use rfl
  unfold abandon
  cases hbegun : t.begun with
  | false =>
      use [], by simp, .untouched
      simp
  | true =>
      use [.plain .rollback (isError (c.rollback t.inner.state).1)], rfl, .rolledBack _
      simp [Exchange.plain]

/-- A commit, or the rollback after it, ends a transaction. -/
theorem ends_settle (c : Connection σ) (t : Transaction (Logged σ)) :
  Ends t True (settle c.logged t).2
  := by
  unfold settle
  cases hbegun : t.begun with
  | false =>
      rw [if_neg Bool.false_ne_true]
      use rfl, [], by simp
      rw [hbegun]
      exact ⟨.untouched, by simp⟩
  | true =>
      rw [if_pos rfl]
      cases hcommit : c.commit t.inner.state with
      | mk answer s =>
          simp only [onInner, logged, noting, hcommit]
          cases answer with
          | ok _ =>
              use rfl, [.plain .commit false], rfl
              rw [hbegun]
              exact ⟨.committed, by simp [Exchange.plain]⟩
          | error e =>
              use rfl, [.plain .commit true, .plain .rollback (isError (c.rollback s).1)]
              rw [hbegun]
              exact ⟨List.append_assoc _ _ _, .reverted _, by simp [Exchange.plain]⟩

variable {t : Transaction (Logged σ)}

/-- A transaction is committed only if it is active. -/
theorem ends_commit (c : Connection σ) (ht : t.state.isTerminal = false) :
  Ends t (t.state = .active) (commit c.logged t).2
  := by
  unfold commit
  cases hstate : t.state with
  | committed | rolledBack =>
      rw [hstate] at ht
      cases ht
  | active => simpa using ends_settle c t
  | withheld => simpa using ends_abandon c t
  | faulted =>
      have habandon := ends_abandon c t
      dsimp only
      cases hrun : abandon c.logged t with
      | mk answer t' =>
          rw [hrun] at habandon
          cases answer <;> simpa using habandon

/-- A transaction that is rolled back is not committed. -/
theorem ends_rollback (c : Connection σ) (ht : t.state.isTerminal = false) :
  Ends t False (rollback c.logged t).2
  := by
  unfold rollback
  rw [if_neg (by simp [ht])]
  apply ends_abandon

/-- A transaction that has ended is left as it is. -/
theorem Ends.close {committing : Prop} {t' : Transaction (Logged σ)} (h : Ends t committing t')
    (c : Connection σ) :
  Ends t committing (close c.logged t')
  := by
  have hclose : Transaction.close c.logged t' = t' := by
    have hterminal := h.1
    unfold Transaction.close commit
    cases hstate : t'.state <;> first | rfl | (rw [hstate] at hterminal; cases hterminal)
  rwa [hclose]

/-- A transaction is committed in the end only if it is active and not to be rolled back. -/
theorem ends_finish (c : Connection σ) (ht : t.state.isTerminal = false) (way : TransactionEnd) :
  Ends t (t.state = .active ∧ way ≠ .rollback) (finish c.logged way t).2
  := by
  cases way with
  | commit =>
      have hcommit : Ends t _ (finish c.logged .commit t).2 := (ends_commit c ht).close c
      simpa using hcommit
  | rollback =>
      have hrollback : Ends t _ (finish c.logged .rollback t).2 := (ends_rollback c ht).close c
      simpa using hrollback
  | leave =>
      have hleave : Ends t _ (finish c.logged .leave t).2 := ends_commit c ht
      simpa using hleave

/-! ### All of a transaction -/

/-- Whether what a connection was asked is at most one transaction. -/
structure OneTransaction (log : List Exchange) : Prop where
  /-- At most one begin succeeds. -/
  begun_once : log.countP (·.hasBegun) ≤ 1
  /-- No statement comes before it. -/
  begun_first : ∀ x ∈ log.takeWhile (!·.hasBegun), x.isStatement = false
  /-- Nothing is ended without it. -/
  not_ended : (∀ x ∈ log, x.hasBegun = false) → ∀ x ∈ log, x.isEnd = false
  /-- What has begun is ended once, and nothing comes after that. -/
  ended : (∃ x ∈ log, x.hasBegun = true) → ∃ before ending, log = before ++ ending ∧
    Ending true ending ∧ ∀ x ∈ before, x.isEnd = false

namespace Ending

variable {begun : Bool} {ending : List Exchange}

/-- No end is a begin. -/
theorem hasBegun_eq (h : Ending begun ending) :
  ∀ x ∈ ending, x.hasBegun = false
  := by
  cases h <;> simp [Exchange.hasBegun, Exchange.plain]

/-- No end is a statement. -/
theorem isStatement_eq (h : Ending begun ending) :
  ∀ x ∈ ending, x.isStatement = false
  := by
  cases h <;> simp [Exchange.isStatement, Exchange.plain, CommandKind.isStatement]

/-- The statements that failed are those that did before the end. -/
theorem exists_isFault_iff (h : Ending begun ending) (log : List Exchange) :
  (∃ x ∈ log ++ ending, x.isFault = true) ↔ ∃ x ∈ log, x.isFault = true
  := by
  constructor
  · rintro ⟨x, hx, hfault⟩
    obtain hx | hx := List.mem_append.mp hx
    · exact ⟨x, hx, hfault⟩
    · rw [Exchange.isFault, h.isStatement_eq x hx] at hfault
      cases hfault
  · rintro ⟨x, hx, hfault⟩
    exact ⟨x, List.mem_append_left _ hx, hfault⟩

end Ending

namespace Opened

variable {begun : Bool} {log ending : List Exchange}

/-- Nothing is ended while a transaction goes on. -/
theorem isEnd_eq (h : Opened begun log) {x : Exchange} (hx : x ∈ log) :
  x.isEnd = false
  := by
  cases h with
  | waiting hrefused =>
      rw [hrefused x hx]
      rfl
  | begun hrefused hran =>
      simp only [List.mem_append, List.mem_cons] at hx
      obtain hx | rfl | hx := hx
      · rw [hrefused x hx]
        rfl
      · rfl
      · exact Exchange.isEnd_of_isStatement (hran x hx)

/-- A transaction has begun once a begin has succeeded. -/
theorem begun_iff (h : Opened begun log) (hending : Ending begun ending) :
  (∃ x ∈ log ++ ending, x.hasBegun = true) ↔ begun = true
  := by
  cases h with
  | waiting hrefused =>
      cases hending
      constructor
      · rintro ⟨x, hx, hbegun⟩
        rw [List.append_nil] at hx
        rw [hrefused x hx] at hbegun
        cases hbegun
      · intro hbegun
        cases hbegun
  | begun =>
      constructor
      · exact fun _ => rfl
      · intro _
        use .begun, by simp
        rfl

/-- A transaction begins once. -/
theorem countP_hasBegun_le (h : Opened begun log) (hending : Ending begun ending) :
  (log ++ ending).countP (·.hasBegun) ≤ 1
  := by
  have hzero : ∀ xs : List Exchange, (∀ x ∈ xs, x.hasBegun = false) →
      xs.countP (·.hasBegun) = 0 := by
    intro xs hxs
    apply List.countP_eq_zero.mpr
    intro x hx
    simp [hxs x hx]
  have hrefusals : ∀ {refused : List Exchange}, (∀ x ∈ refused, x = .refusal) →
      ∀ x ∈ refused, x.hasBegun = false := by
    intro refused hrefused x hx
    rw [hrefused x hx]
    rfl
  rw [List.countP_append, hzero ending hending.hasBegun_eq]
  cases h with
  | waiting hrefused => simp [hzero _ (hrefusals hrefused)]
  | @begun refused ran hrefused hran =>
      have hstatements := hzero ran fun x hx => Exchange.hasBegun_of_isStatement (hran x hx)
      apply Nat.le_of_eq
      rw [List.countP_append, List.countP_cons_of_pos (by decide), hstatements,
        hzero refused (hrefusals hrefused)]

/-- No statement comes before the begin. -/
theorem isStatement_of_mem_takeWhile (h : Opened begun log) (hending : Ending begun ending)
    {x : Exchange} (hx : x ∈ (log ++ ending).takeWhile (!·.hasBegun)) :
  x.isStatement = false
  := by
  cases h with
  | waiting hrefused =>
      cases hending
      rw [List.append_nil] at hx
      rw [hrefused x (List.takeWhile_subset _ hx)]
      rfl
  | @begun refused ran hrefused hran =>
      have hpos : ∀ x ∈ refused, (!x.hasBegun) = true := by
        intro x hx
        rw [hrefused x hx]
        rfl
      rw [List.append_assoc, List.takeWhile_append_of_pos hpos, List.cons_append,
        List.takeWhile_cons_of_neg (by decide), List.append_nil] at hx
      rw [hrefused x hx]
      rfl

/-- A transaction that goes on is committed by its end only. -/
theorem exists_commit_iff (h : Opened begun log) :
  (∃ x ∈ log ++ ending, x.command.kind = .commit) ↔ ∃ x ∈ ending, x.command.kind = .commit
  := by
  constructor
  · rintro ⟨x, hx, hcommit⟩
    obtain hx | hx := List.mem_append.mp hx
    · have hend := h.isEnd_eq hx
      unfold Exchange.isEnd at hend
      rw [hcommit] at hend
      cases hend
    · exact ⟨x, hx, hcommit⟩
  · rintro ⟨x, hx, hcommit⟩
    exact ⟨x, List.mem_append_right _ hx, hcommit⟩

/-- What has been asked within a transaction, and then its end, is at most one
transaction. -/
theorem oneTransaction (h : Opened begun log) (hending : Ending begun ending) :
  OneTransaction (log ++ ending)
  where
  begun_once := h.countP_hasBegun_le hending
  begun_first _ hx := h.isStatement_of_mem_takeWhile hending hx
  not_ended := by
    intro hnone x hx
    cases hbegun : begun with
    | true =>
        obtain ⟨y, hy, hhas⟩ := (h.begun_iff hending).mpr hbegun
        rw [hnone y hy] at hhas
        cases hhas
    | false =>
        rw [hbegun] at hending
        cases hending
        rw [List.append_nil] at hx
        apply h.isEnd_eq hx
  ended := by
    intro hbegun
    rw [(h.begun_iff hending).mp hbegun] at hending
    use log, ending, rfl, hending
    exact fun x hx => h.isEnd_eq hx

end Opened

/-- All of a transaction: its steps, and then its end. -/
def whole (c : Connection σ) (steps : List TransactionStep) (way : TransactionEnd) :
    StateM (Transaction σ) (List (Except Error Reply) × Except Error Unit) := do
  let answers ← run c steps
  let answer ← (finish c way).run
  return (answers, answer)

/-- A log changes nothing in all of a transaction. -/
theorem follows_whole (c : Connection σ) (steps : List TransactionStep) (way : TransactionEnd) :
  Follows (map Logged.state) (whole c.logged steps way) (whole c steps way)
  := by
  apply (follows_run (mirrors_logged c) steps).bind
  intro answers
  apply Follows.bind (follows_finish (mirrors_logged c) way)
  intro answer
  apply follows_pure

/-- Whatever is done within a transaction and however it is ended, on any connection: the
connection sees at most one transaction.  It is asked to commit exactly if that has begun, is
not to be rolled back, no statement failed and no mark was made.  A commit or a rollback
within the transaction fails and does nothing. -/
theorem one_transaction (c : Connection σ) (s : σ) (steps : List TransactionStep)
    (way : TransactionEnd) :
  let noted := whole c.logged steps way { inner := { state := s } }
  let log := noted.2.inner.log
  (noted.1, map Logged.state noted.2) = whole c steps way { inner := s } ∧
  OneTransaction log ∧
  ((∃ x ∈ log, x.command.kind = .commit) ↔
    (∃ x ∈ log, x.hasBegun = true) ∧ way ≠ .rollback ∧
    (∀ x ∈ log, x.isStatement = true → x.failed = false) ∧ ∀ s ∈ steps, s.isMark = false) ∧
  ∀ t : Transaction σ,
    (connection c).commit t = (.error (.transaction .nestedNotSupported
      "commit a TransactionContext through its own commit()"), t) ∧
    (connection c).rollback t = (.error (.transaction .nestedNotSupported
      "roll back a TransactionContext through its own rollback()"), t)
  := by
  intro noted log
  have hview : (noted.1, map Logged.state noted.2) = whole c steps way { inner := s } :=
    follows_whole c steps way _
  have hongoing := (ongoing_start s).run c steps
  obtain ⟨-, ending, hlog, hending, hcommit⟩ := ends_finish c hongoing.isTerminal_eq way
  use hview
  have hdone : log = _ ++ ending := hlog
  rw [hdone]
  use hongoing.opened.oneTransaction hending
  constructor
  · rw [hongoing.opened.exists_commit_iff, hcommit, hongoing.opened.begun_iff hending,
      hongoing.active_iff, List.nil_append, ← hending.exists_isFault_iff,
      Exchange.not_exists_isFault_iff]
    tauto
  · intro t
    exact ⟨rfl, rfl⟩

end Transaction

end EntityStore
