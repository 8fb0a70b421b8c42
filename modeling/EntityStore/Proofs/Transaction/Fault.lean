import EntityStore.Connection.Scripted
import EntityStore.Proofs.Transaction.Lifecycle

/-!
# Faults

A statement that fails on its connection dooms the transaction: nothing that is done later
makes it commit.  A begin that fails is an error of the statement that asked for it, but it
leaves no trace in the transaction.
-/

namespace EntityStore

open Connection

variable {σ : Type}

namespace Transaction

/-- Whether a transaction is not going to be committed, whatever is done: its connection is
not asked to, and an attempt is reported as an error. -/
def Doomed (c : Connection σ) (t : Transaction (Logged σ)) : Prop :=
  ∀ more way, let rest := whole c.logged more way t
    (∀ x ∈ rest.2.inner.log, x.command.kind ≠ .commit) ∧
    (way = .commit → isError rest.1.2 = true)

/-! ### A faulted transaction is doomed -/

variable {t : Transaction (Logged σ)} {steps : List TransactionStep}

/-- A faulted transaction stays faulted. -/
theorem state_run_of_faulted (h : Ongoing steps t) (c : Connection σ) (ht : t.state = .faulted)
    (more : List TransactionStep) :
  (run c.logged more t).2.state = .faulted
  := by
  induction more generalizing steps t with
  | nil => apply ht
  | cons s rest ih =>
      obtain ⟨_, -, heffect⟩ := hasEffect_step c h.isTerminal_eq s
      apply ih (h.step c s)
      rw [heffect.faulted_iff]
      exact .inl ht

/-- An attempt to commit a faulted transaction is reported as an error. -/
theorem isError_finish_commit (c : Connection σ) (ht : t.state = .faulted) :
  isError (finish c.logged .commit t).1 = true
  := by
  show isError (commit c.logged t).1 = true
  unfold commit
  rw [ht]
  dsimp only
  cases hrun : abandon c.logged t with
  | mk answer t' => cases answer <;> rfl

/-- A faulted transaction is doomed. -/
theorem doomed_of_faulted (h : Ongoing steps t) (c : Connection σ) (ht : t.state = .faulted) :
  Doomed c t
  := by
  intro more way rest
  have hongoing := h.run c more
  have hstate := state_run_of_faulted h c ht more
  constructor
  · obtain ⟨-, ending, hlog, -, hcommit⟩ := ends_finish c hongoing.isTerminal_eq way
    have hrest : rest.2.inner.log = _ ++ ending := hlog
    intro x hx hkind
    rw [hrest] at hx
    obtain ⟨-, hactive, -⟩ := hcommit.mp (hongoing.opened.exists_commit_iff.mp ⟨x, hx, hkind⟩)
    rw [hstate] at hactive
    cases hactive
  · rintro rfl
    exact isError_finish_commit c hstate

/-- An active transaction is not doomed: an attempt to commit it asks the connection, or
there is nothing to ask for. -/
theorem not_doomed_of_active (h : Ongoing steps t) (c : Connection σ) (ht : t.state = .active) :
  ¬Doomed c t
  := by
  intro hdoomed
  obtain ⟨hnone, herror⟩ := hdoomed [] .commit
  cases hbegun : t.begun with
  | true =>
      obtain ⟨-, ending, hlog, -, hcommit⟩ := ends_finish c h.isTerminal_eq .commit
      obtain ⟨x, hx, hkind⟩ := hcommit.mpr ⟨hbegun, ht, by simp⟩
      apply hnone x _ hkind
      show x ∈ (finish c.logged .commit t).2.inner.log
      rw [hlog]
      exact List.mem_append_right _ hx
  | false =>
      have hanswer : isError (finish c.logged .commit t).1 = true := herror rfl
      have hcommit : (finish c.logged .commit t).1 = (commit c.logged t).1 := rfl
      rw [hcommit, commit, ht] at hanswer
      simp only [settle, hbegun, Bool.false_eq_true, if_false] at hanswer
      cases hanswer

/-! ### Statements that fail -/

/-- What failed within a transaction is a statement, or a begin. -/
theorem Opened.isFault_or_refusal {begun : Bool} {log : List Exchange} (h : Opened begun log)
    {x : Exchange} (hx : x ∈ log) (hfailed : x.failed = true) :
  x.isFault = true ∨ x = .refusal
  := by
  cases h with
  | waiting hrefused => exact .inr (hrefused x hx)
  | begun hrefused hran =>
      simp only [List.mem_append, List.mem_cons] at hx
      obtain hx | rfl | hx := hx
      · exact .inr (hrefused x hx)
      · cases hfailed
      · left
        rw [Exchange.isFault, hran x hx, hfailed]
        rfl

/-- A statement is answered by an error if it failed or if a begin for it did. -/
theorem Effect.failed_iff {begun begun' failed : Bool} {state state' : TransactionState}
    {s : TransactionStep} {added : List Exchange}
    (h : Effect begun state s failed added begun' state') (hs : s.isStatement = true) :
  failed = true ↔ ∃ x ∈ added, x.failed = true
  := by
  cases h with
  | withhold | markFaulted => cases hs
  | @nested command hkind =>
      obtain ⟨kind, sql, params⟩ := command
      obtain rfl | rfl := hkind <;> cases hs
  | @begin command hkind =>
      obtain ⟨kind, sql, params⟩ := command
      obtain rfl := hkind
      cases hs
  | refused => simp [Exchange.refusal, Exchange.plain]
  | statement =>
      unfold opening
      split <;> simp [Exchange.begun, Exchange.plain]

/-- Some statement is answered by an error if something failed on the connection. -/
theorem exists_isError_iff (h : Ongoing steps t) (c : Connection σ)
    {more : List TransactionStep} (hmore : ∀ s ∈ more, s.isStatement = true) :
  (∃ x ∈ (run c.logged more t).2.inner.log, x.failed = true) ↔
    (∃ x ∈ t.inner.log, x.failed = true) ∨
      ∃ answer ∈ (run c.logged more t).1, isError answer = true
  := by
  induction more generalizing steps t with
  | nil =>
      have hrun : run c.logged [] t = ([], t) := rfl
      simp [hrun]
  | cons s rest ih =>
      obtain ⟨added, hlog, heffect⟩ := hasEffect_step c h.isTerminal_eq s
      have hrun : run c.logged (s :: rest) t =
          ((step c.logged s t).1 :: (run c.logged rest (step c.logged s t).2).1,
            (run c.logged rest (step c.logged s t).2).2) := rfl
      have hfailed := heffect.failed_iff (hmore s List.mem_cons_self)
      rw [hrun]
      dsimp only
      rw [ih (h.step c s) (fun s hs => hmore s (List.mem_cons_of_mem _ hs)), hlog]
      simp only [List.mem_append, List.mem_cons, or_and_right, exists_or, exists_eq_left,
        hfailed, or_assoc]

/-- Statements mark nothing. -/
theorem isMark_eq_of_isStatement {s : TransactionStep} (hs : s.isStatement = true) :
  s.isMark = false
  := by
  cases s <;> first | rfl | cases hs

/-- After statements within a transaction, on any connection: some of them are answered by an
error exactly if a statement or a begin failed, but the transaction is doomed exactly if a
statement did. -/
theorem doomed_iff (c : Connection σ) (s : σ) (steps : List TransactionStep)
    (hsteps : ∀ s ∈ steps, s.isStatement = true) :
  let noted := run c.logged steps { inner := { state := s } }
  let log := noted.2.inner.log
  (noted.1, map Logged.state noted.2) = run c steps { inner := s } ∧
  ((∃ answer ∈ noted.1, isError answer = true) ↔
    (∃ x ∈ log, x.isFault = true) ∨ .refusal ∈ log) ∧
  (Doomed c noted.2 ↔ ∃ x ∈ log, x.isFault = true)
  := by
  intro noted log
  have hview : (noted.1, map Logged.state noted.2) = run c steps { inner := s } :=
    follows_run (mirrors_logged c) steps _
  have hongoing := (ongoing_start s).run c steps
  have hanswers := exists_isError_iff (ongoing_start s) c hsteps
  have hmarks : TransactionStep.markFaulted ∉ [] ++ steps := by
    intro hmem
    cases hsteps _ hmem
  have hfaulted : noted.2.state = .faulted ↔ ∃ x ∈ log, x.isFault = true := by
    rw [hongoing.faulted_iff]
    exact or_iff_right hmarks
  use hview
  constructor
  · have herror : (∃ answer ∈ noted.1, isError answer = true) ↔ ∃ x ∈ log, x.failed = true := by
      rw [hanswers]
      simp only [List.not_mem_nil, false_and, exists_false, false_or]
      rfl
    rw [herror]
    constructor
    · rintro ⟨x, hx, hfailed⟩
      obtain hfault | rfl := hongoing.opened.isFault_or_refusal hx hfailed
      · exact .inl ⟨x, hx, hfault⟩
      · exact .inr hx
    · rintro (⟨x, hx, hfault⟩ | hrefusal)
      · exact ⟨x, hx, ((Bool.and_eq_true _ _).mp hfault).2⟩
      · exact ⟨.refusal, hrefusal, rfl⟩
  · constructor
    · intro hdoomed
      by_contra hnone
      apply not_doomed_of_active hongoing c _ hdoomed
      rw [hongoing.active_iff]
      exact ⟨fun s hs => isMark_eq_of_isStatement (hsteps s hs), hnone⟩
    · intro hfault
      exact doomed_of_faulted hongoing c (hfaulted.mpr hfault)

/-- An update that fails dooms the transaction, though the next one succeeds. -/
theorem failed_update_dooms :
  let steps : List TransactionStep :=
    [.command { kind := .execute, sql := "UPDATE a" },
      .command { kind := .execute, sql := "UPDATE b" }]
  let script : Script :=
    { rules := [{ kind := some .execute, times := some 1, failure := some (.custom "locked") }] }
  (∀ s ∈ steps, s.isStatement = true) ∧
  Doomed Script.connection (run Script.connection.logged steps { inner := { state := script } }).2
  := by
  intro steps script
  have hsteps : ∀ s ∈ steps, s.isStatement = true := by
    intro s hs
    obtain rfl | rfl : s = _ ∨ s = _ := by simpa [steps] using hs
    · rfl
    · rfl
  obtain ⟨-, -, hdoomed⟩ := doomed_iff Script.connection script steps hsteps
  use hsteps
  apply hdoomed.mpr
  use ⟨{ kind := .execute, sql := "UPDATE a" }, true⟩
  constructor
  · exact .tail _ (.head _)
  · rfl

/-- A begin that fails is an error of the first update, but the second one begins the
transaction, succeeds and is committed. -/
theorem refused_begin_forgotten :
  let steps : List TransactionStep :=
    [.command { kind := .execute, sql := "UPDATE a" },
      .command { kind := .execute, sql := "UPDATE b" }]
  let script : Script :=
    { rules := [{ kind := some .begin, times := some 1, failure := some (.custom "locked") }] }
  let done := whole Script.connection steps .commit { inner := script }
  done.1 = ([.error (.custom "locked"), .ok (.changes 1)], .ok ()) ∧
  done.2.inner.log =
    [{ kind := .begin }, { kind := .begin }, { kind := .execute, sql := "UPDATE b" },
      { kind := .commit }]
  := by
  intro steps script done
  constructor <;> rfl

end Transaction

end EntityStore
