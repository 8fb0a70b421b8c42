import EntityStore.Proofs.Transaction.Lifecycle
import EntityStore.Schema.Reconcile

/-!
# Statements in one transaction

A batch executes statements in one transaction up to the first that fails.  The transaction is
committed if all of them succeed, and rolled back otherwise.
-/

namespace EntityStore

open Connection Transaction

variable {σ : Type}

namespace Reconcile

/-- Statements without parameters that all succeeded. -/
def succeeded (statements : List String) : List Exchange :=
  statements.map (.batch · false)

/-- What a connection is asked to execute statements in one transaction, and whether that
fails. -/
inductive Batch (statements : List String) : Bool → List Exchange → Prop
  | refused : Batch statements true [.refusal]
  | broken {done : List String} {sql : String} {rest : List String}
      (h : statements = done ++ sql :: rest) (failed : Bool) :
      Batch statements true
        (.begun :: succeeded done ++ [.batch sql true, .plain .rollback failed])
  | reverted (failed : Bool) :
      Batch statements true
        (.begun :: succeeded statements ++ [.plain .commit true, .plain .rollback failed])
  | committed : Batch statements false (.begun :: succeeded statements ++ [.plain .commit false])

/-- What comes of statements that are executed up to the first that fails, within a
transaction that has begun and has the given log. -/
inductive Ran (statements : List String) (log : List Exchange) :
    Except Error Unit × Transaction (Logged σ) → Prop
  | all {s : Logged σ} (hlog : s.log = log ++ succeeded statements) :
      Ran statements log (.ok (), ⟨s, true, .active⟩)
  | broken {done : List String} {sql : String} {rest : List String} {s : Logged σ} (e : Error)
      (h : statements = done ++ sql :: rest)
      (hlog : s.log = log ++ (succeeded done ++ [.batch sql true])) :
      Ran statements log (.error e, ⟨s, true, .faulted⟩)

/-- One statement. -/
theorem batch_apply (c : Connection σ) (sql : String) (s : Logged σ) :
  (Transaction.connection c.logged).batch sql ⟨s, true, .active⟩ =
    match c.batch sql s.state with
    | (.ok (), s') => (.ok (), ⟨⟨s', s.log ++ [.batch sql false]⟩, true, .active⟩)
    | (.error e, s') => (.error e, ⟨⟨s', s.log ++ [.batch sql true]⟩, true, .faulted⟩)
  := by
  show (guarded (noting { kind := .batch, sql } (c.batch sql))) ⟨s, true, .active⟩ = _
  unfold guarded onInner noting
  obtain ⟨_ | _, _⟩ := c.batch sql s.state <;> rfl

/-- Statements are executed up to the first that fails. -/
theorem ran_runAll (c : Connection σ) (statements : List String) (s : Logged σ) :
  Ran statements s.log
    (runAll (Transaction.connection c.logged) statements ⟨s, true, .active⟩)
  := by
  induction statements generalizing s with
  | nil => exact .all (List.append_nil _).symm
  | cons sql rest ih =>
      have hrun : runAll (Transaction.connection c.logged) (sql :: rest) =
          (do
            (Transaction.connection c.logged).batch sql
            runAll (Transaction.connection c.logged) rest) := rfl
      rw [hrun, bind_apply, batch_apply]
      cases hbatch : c.batch sql s.state with
      | mk answer s' =>
          cases answer with
          | error e =>
              have hlog : s.log ++ [.batch sql true] =
                  s.log ++ (succeeded [] ++ [.batch sql true]) := rfl
              exact .broken e rfl hlog
          | ok _ =>
              have hrest := ih ⟨s', s.log ++ [.batch sql false]⟩
              dsimp only at hrest ⊢
              generalize runAll (Transaction.connection c.logged) rest _ = result at hrest ⊢
              cases hrest with
              | all hlog =>
                  apply Ran.all
                  rw [hlog, List.append_assoc]
                  rfl
              | @broken done failing later _ e h hlog =>
                  have hstatements : sql :: rest = (sql :: done) ++ failing :: later := by
                    rw [h, List.cons_append]
                  apply Ran.broken e hstatements
                  rw [hlog, List.append_assoc]
                  rfl

/-- A command within a transaction that has not begun is done once that has. -/
theorem within_unbegun {α : Type} (c : Connection σ) (command : Action σ α) (s : σ) :
  within c command ⟨s, false, .active⟩ =
    match c.begin s with
    | (.ok (), s') => within c command ⟨s', true, .active⟩
    | (.error e, s') => (.error e, ⟨s', false, .active⟩)
  := by
  unfold within
  rw [bind_apply]
  simp only [ensureBegun, onInner, Bool.false_eq_true, if_false]
  obtain ⟨_ | _, _⟩ := c.begin s <;> rfl

/-- Statements within a transaction that has not begun are executed once that has. -/
theorem runAll_unbegun (c : Connection σ) {statements : List String} (hne : statements ≠ [])
    (s : σ) :
  runAll (Transaction.connection c) statements ⟨s, false, .active⟩ =
    match c.begin s with
    | (.ok (), s') => runAll (Transaction.connection c) statements ⟨s', true, .active⟩
    | (.error e, s') => (.error e, ⟨s', false, .active⟩)
  := by
  obtain ⟨sql, rest, rfl⟩ := List.exists_cons_of_ne_nil hne
  have hrun : runAll (Transaction.connection c) (sql :: rest) =
      (within c (c.batch sql) >>= fun _ => runAll (Transaction.connection c) rest) := rfl
  rw [hrun, bind_apply, within_unbegun]
  obtain ⟨_ | _, s'⟩ := c.begin s
  · rfl
  · dsimp only
    rw [bind_apply]

/-- Statements in one transaction. -/
theorem batch_of_apply (c : Connection σ) {statements : List String} (hne : statements ≠ [])
    (s : Logged σ) :
  ∃ asked, (apply c.logged statements s).2.log = s.log ++ asked ∧
    Batch statements (isError (apply c.logged statements s).1) asked
  := by
  unfold apply
  rw [runAll_unbegun c.logged hne s]
  cases hbegin : c.begin s.state with
  | mk answer s' =>
      cases answer with
      | error e =>
          simp only [logged, noting, hbegin]
          use [.refusal]
          exact ⟨rfl, .refused⟩
      | ok _ =>
          have hran := ran_runAll c statements ⟨s', s.log ++ [.begun]⟩
          have hlogged : c.logged.begin s = (.ok (), ⟨s', s.log ++ [.begun]⟩) := by
            simp only [logged, noting, hbegin]
            rfl
          rw [hlogged]
          dsimp only at hran ⊢
          generalize runAll (Transaction.connection c.logged) statements _ = result at hran ⊢
          cases hran with
          | @all u hlog =>
              cases hcommit : c.commit u.state with
              | mk answer s'' =>
                  simp only [Transaction.commit, settle, onInner, logged, noting, hcommit,
                    if_true]
                  rw [hlog]
                  cases answer with
                  | ok _ =>
                      refine ⟨_, ?_, .committed⟩
                      simp only [List.append_assoc, List.cons_append, List.nil_append]
                      rfl
                  | error e =>
                      refine ⟨_, ?_, .reverted (isError (c.rollback s'').1)⟩
                      simp only [List.append_assoc, List.cons_append, List.nil_append]
                      rfl
          | @broken done sql rest u e h hlog =>
              dsimp only
              have hrollback : (Transaction.rollback c.logged ⟨u, true, .faulted⟩).2.inner.log =
                  u.log ++ [.plain .rollback (isError (c.rollback u.state).1)] := rfl
              refine ⟨_, ?_, .broken h (isError (c.rollback u.state).1)⟩
              show (Transaction.rollback c.logged ⟨u, true, .faulted⟩).2.inner.log = _
              rw [hrollback, hlog]
              simp only [List.append_assoc, List.cons_append, List.nil_append]

/-! ### Without the log -/

/-- Statements one after the other. -/
theorem follows_runAll {τ : Type} {view : τ → σ} {c : Connection τ} {c' : Connection σ}
    (h : Mirrors view c c') (statements : List String) :
  Follows view (runAll c statements) (runAll c' statements)
  := by
  induction statements with
  | nil => apply follows_pure
  | cons sql rest ih => exact (h.batch sql).andThen fun _ => ih

/-- Statements in one transaction. -/
theorem follows_apply (c : Connection σ) (statements : List String) :
  Follows Logged.state (apply c.logged statements) (apply c statements)
  := by
  intro s
  have hrun := follows_runAll (mirrors_connection (mirrors_logged c)) statements
    ⟨s, false, .active⟩
  have hstart : Transaction.map Logged.state ⟨s, false, .active⟩ = ⟨s.state, false, .active⟩ := rfl
  rw [hstart] at hrun
  unfold apply
  rw [← hrun]
  cases hresult : runAll (Transaction.connection c.logged) statements ⟨s, false, .active⟩ with
  | mk answer t =>
      cases answer with
      | error e =>
          dsimp only
          rw [← follows_rollback (mirrors_logged c) t]
          rfl
      | ok _ =>
          dsimp only
          rw [← follows_commit (mirrors_logged c) t]
          rfl

/-! ### What was executed -/

/-- The statements that were executed within the transaction of a log. -/
def executed (log : List Exchange) : List String :=
  (((log.dropWhile (!·.hasBegun)).takeWhile (!·.isEnd)).filter
    (·.command.kind = .batch)).map (·.command.sql)

/-- A batch executes its statements only. -/
theorem Batch.sql_mem {statements : List String} {failed : Bool} {asked : List Exchange}
    (h : Batch statements failed asked) {x : Exchange} (hx : x ∈ asked)
    (hkind : x.command.kind = .batch) :
  x.command.sql ∈ statements
  := by
  have hsucceeded : ∀ {done : List String}, x ∈ succeeded done → x.command.sql ∈ done := by
    intro done hx
    obtain ⟨sql, hsql, rfl⟩ := List.mem_map.mp hx
    exact hsql
  cases h with
  | refused =>
      rw [List.mem_singleton.mp hx] at hkind
      cases hkind
  | broken h =>
      simp only [List.cons_append, List.mem_cons, List.mem_append, List.not_mem_nil,
        or_false] at hx
      rw [h]
      obtain rfl | hx | rfl | rfl := hx
      · cases hkind
      · exact List.mem_append_left _ (hsucceeded hx)
      · exact List.mem_append_right _ List.mem_cons_self
      · cases hkind
  | reverted =>
      simp only [List.cons_append, List.mem_cons, List.mem_append, List.not_mem_nil,
        or_false] at hx
      obtain rfl | hx | rfl | rfl := hx
      · cases hkind
      · exact hsucceeded hx
      · cases hkind
      · cases hkind
  | committed =>
      simp only [List.cons_append, List.mem_cons, List.mem_append, List.not_mem_nil,
        or_false] at hx
      obtain rfl | hx | rfl := hx
      · cases hkind
      · exact hsucceeded hx
      · cases hkind

/-- A batch that does not fail is committed. -/
theorem Batch.executed_eq {statements : List String} {asked : List Exchange}
    (h : Batch statements false asked) :
  (∀ x ∈ asked, x.failed = false) ∧ ∀ before after : List Exchange,
    (∀ x ∈ before, x.hasBegun = false) → executed (before ++ asked ++ after) = statements
  := by
  cases h with
  | committed =>
      constructor
      · intro x hx
        simp only [List.cons_append, List.mem_cons, List.mem_append, List.not_mem_nil,
          or_false] at hx
        obtain rfl | hx | rfl := hx
        · rfl
        · obtain ⟨sql, -, rfl⟩ := List.mem_map.mp hx
          rfl
        · rfl
      · intro before after hbefore
        have hgoes : ∀ x ∈ succeeded statements, (!x.isEnd) = true := by
          intro x hx
          obtain ⟨sql, -, rfl⟩ := List.mem_map.mp hx
          rfl
        have hkind : ∀ x ∈ succeeded statements, decide (x.command.kind = .batch) = true := by
          intro x hx
          obtain ⟨sql, -, rfl⟩ := List.mem_map.mp hx
          rfl
        unfold executed
        rw [List.append_assoc, List.dropWhile_append_of_pos (by simpa using hbefore),
          List.cons_append, List.cons_append, List.dropWhile_cons_of_neg (by decide),
          List.takeWhile_cons_of_pos (by decide), List.append_assoc,
          List.takeWhile_append_of_pos hgoes, List.singleton_append,
          List.takeWhile_cons_of_neg (by decide), List.append_nil,
          List.filter_cons_of_neg (by decide), List.filter_eq_self.mpr hkind]
        simp [succeeded, Exchange.batch, Function.comp_def]

/-- Nothing is executed by asking. -/
theorem executed_of_queries {log : List Exchange} (h : ∀ x ∈ log, x.command.kind = .query) :
  executed log = []
  := by
  have hnone : ∀ x ∈ log, (!x.hasBegun) = true := by
    intro x hx
    simp [Exchange.hasBegun, h x hx]
  have hdrop : log.dropWhile (!·.hasBegun) = [] := by
    rw [← List.append_nil log, List.dropWhile_append_of_pos hnone]
    rfl
  unfold executed
  rw [hdrop]
  rfl

end Reconcile

end EntityStore
