import EntityStore.Connection.Command
import Mathlib.Data.List.ModifyLast
import Mathlib.Tactic.Common

/-!
# Connections with a log

Any connection can keep a log of the commands it is given, each with whether it failed.
The log changes nothing: seen without it, the connection does what it did before, and so
does everything that is done on it.
-/

namespace EntityStore

/-- Whether a command is a statement, as opposed to the begin or the end of a transaction. -/
def CommandKind.isStatement : CommandKind → Bool
  | .query | .execute | .insert | .batch => true
  | .begin | .commit | .rollback => false

/-- A command that a connection was given, and whether it failed. -/
structure Exchange where
  command : Command
  failed : Bool
  deriving DecidableEq

namespace Exchange

/-- Whether the command is a statement. -/
def isStatement (x : Exchange) : Bool :=
  x.command.kind.isStatement

/-- A command of a kind that has no text. -/
def plain (kind : CommandKind) (failed : Bool) : Exchange :=
  ⟨{ kind }, failed⟩

/-- A begin that succeeded. -/
def begun : Exchange := plain .begin false

/-- A begin that failed. -/
def refusal : Exchange := plain .begin true

/-- A statement without parameters. -/
def batch (sql : String) (failed : Bool) : Exchange :=
  ⟨{ kind := .batch, sql }, failed⟩

end Exchange

/-- The state of a connection with the commands it was given. -/
structure Logged (σ : Type) where
  state : σ
  log : List Exchange := []

variable {σ τ α β : Type}

/-- Whether a result is an error. -/
def isError : Except Error α → Bool
  | .ok _ => false
  | .error _ => true

/-- A changed result is an error if the result is. -/
theorem isError_map (f : α → β) (answer : Except Error α) :
  isError (answer.map f) = isError answer
  := by
  cases answer <;> rfl

/-- One of two results is an error if either is. -/
theorem isError_bind (applied restored : Except Error Unit) :
  isError (applied.bind fun _ => restored) = (isError applied || isError restored)
  := by
  cases applied <;> rfl

namespace Connection

/-- Notes a command with whether it fails. -/
def noting (command : Command) (action : Action σ α) : Action (Logged σ) α := fun s =>
  let (answer, state) := action s.state
  (answer, ⟨state, s.log ++ [⟨command, isError answer⟩]⟩)

/-- The connection with a log of the commands it is given.  A query whose rows could not be
used counts as failed. -/
def logged (c : Connection σ) : Connection (Logged σ) where
  query sql params := fun s =>
    let (delivery, state) := c.query sql params s.state
    (delivery, ⟨state, s.log ++ [⟨{ kind := .query, sql, params }, delivery.failure.isSome⟩]⟩)
  execute sql params := noting { kind := .execute, sql, params } (c.execute sql params)
  insert sql params := noting { kind := .insert, sql, params } (c.insert sql params)
  batch sql := noting { kind := .batch, sql } (c.batch sql)
  begin := noting { kind := .begin } c.begin
  commit := noting { kind := .commit } c.commit
  rollback := noting { kind := .rollback } c.rollback
  fault s := ⟨c.fault s.state, s.log.modifyLast ({ · with failed := true })⟩

end Connection

/-! ### Runs -/

/-- A step goes on with the result of the one before. -/
theorem stateBind_apply (m : StateM σ α) (f : α → StateM σ β) (s : σ) :
  (m >>= f) s = f (m s).1 (m s).2
  := rfl

/-- A step goes on with the result of one that cannot fail. -/
theorem liftBind_apply (m : StateM σ α) (f : α → Action σ β) (s : σ) :
  ((liftM m : Action σ α) >>= f : Action σ β) s = f (m s).1 (m s).2
  := rfl

/-- A step goes on with the result of the one before, unless that fails. -/
theorem bind_apply (m : Action σ α) (f : α → Action σ β) (s : σ) :
  (m >>= f : Action σ β) s = match m s with
    | (.ok a, s') => f a s'
    | (.error e, s') => (.error e, s')
  := by
  show (match m s with | (answer, s') => ExceptT.bindCont f answer s') = _
  obtain ⟨_ | _, _⟩ := m s <;> rfl

/-- A result that is given comes from the one before. -/
theorem exists_of_bind_apply {m : Action σ α} {f : α → Action σ β} {s : σ} {b : β}
    (h : ((m >>= f : Action σ β) s).1 = .ok b) :
  ∃ a s', m s = (.ok a, s') ∧ (f a s').1 = .ok b
  := by
  rw [bind_apply] at h
  cases hrun : m s with
  | mk answer s' =>
      rw [hrun] at h
      cases answer with
      | error e => cases h
      | ok a => exact ⟨a, s', rfl, h⟩

/-- A changed result is that of the same run. -/
theorem map_apply (f : α → β) (m : Action σ α) (s : σ) :
  (f <$> m : Action σ β) s = ((m s).1.map f, (m s).2)
  := by
  show (m >>= fun a => pure (f a) : Action σ β) s = _
  rw [bind_apply]
  obtain ⟨_ | _, _⟩ := m s <;> rfl

/-! ### Seen through a view -/

/-- Whether a step does what another does, seen through a view of its state. -/
def Follows (view : τ → σ) (m : StateM τ α) (m' : StateM σ α) : Prop :=
  ∀ t, ((m t).1, view (m t).2) = m' (view t)

section

variable {view : τ → σ}

/-- A step without effect. -/
theorem follows_pure (a : α) :
  Follows view (pure a) (pure a)
  := fun _ => rfl

/-- Steps that go on with the results of steps. -/
theorem Follows.bind {m : StateM τ α} {m' : StateM σ α} {f : α → StateM τ β}
    {f' : α → StateM σ β} (hm : Follows view m m') (hf : ∀ a, Follows view (f a) (f' a)) :
  Follows view (m >>= f) (m' >>= f')
  := by
  intro t
  have hrest := hf (m t).1 (m t).2
  have hfirst : m' (view t) = ((m t).1, view (m t).2) := (hm t).symm
  show ((f (m t).1 (m t).2).1, view (f (m t).1 (m t).2).2) =
    f' (m' (view t)).1 (m' (view t)).2
  rw [hrest, hfirst]

/-- Steps that go on with the results of steps unless those fail. -/
theorem Follows.andThen {m : Action τ α} {m' : Action σ α} {f : α → Action τ β}
    {f' : α → Action σ β} (hm : Follows view m m') (hf : ∀ a, Follows view (f a) (f' a)) :
  Follows view (m >>= f : Action τ β) (m' >>= f' : Action σ β)
  := by
  have h : Follows view (ExceptT.run m >>= ExceptT.bindCont f)
      (ExceptT.run m' >>= ExceptT.bindCont f') := by
    apply Follows.bind hm
    rintro (e | a)
    · apply follows_pure
    · apply hf
  apply h

/-- A step that cannot fail among those that can. -/
theorem Follows.lift {m : StateM τ α} {m' : StateM σ α} (hm : Follows view m m') :
  Follows view (liftM m : Action τ α) (liftM m' : Action σ α)
  := by
  intro t
  show (Except.ok (m t).1, view (m t).2) = (Except.ok (m' (view t)).1, (m' (view t)).2)
  rw [← hm t]

/-- A change of the state. -/
theorem follows_modify {change : τ → τ} {change' : σ → σ}
    (h : ∀ t, view (change t) = change' (view t)) :
  Follows view (modify change : Action τ Unit) (modify change' : Action σ Unit)
  := by
  intro t
  show (Except.ok (), view (change t)) = (Except.ok (), change' (view t))
  rw [h]

/-- A changed result. -/
theorem Follows.map {m : Action τ α} {m' : Action σ α} (hm : Follows view m m') (f : α → β) :
  Follows view (f <$> m : Action τ β) (f <$> m' : Action σ β)
  := hm.andThen fun _ => follows_pure _

end

namespace Connection

/-- Whether a connection does what another does, seen through a view of its state. -/
structure Mirrors (view : τ → σ) (c : Connection τ) (c' : Connection σ) : Prop where
  query : ∀ sql params, Follows view (c.query sql params) (c'.query sql params)
  execute : ∀ sql params, Follows view (c.execute sql params) (c'.execute sql params)
  insert : ∀ sql params, Follows view (c.insert sql params) (c'.insert sql params)
  batch : ∀ sql, Follows view (c.batch sql) (c'.batch sql)
  begin : Follows view c.begin c'.begin
  commit : Follows view c.commit c'.commit
  rollback : Follows view c.rollback c'.rollback
  fault : ∀ t, view (c.fault t) = c'.fault (view t)

/-- A noted command is done as before. -/
theorem follows_noting (command : Command) (action : Action σ α) :
  Follows Logged.state (noting command action) action
  := fun _ => rfl

/-- A log changes nothing. -/
theorem mirrors_logged (c : Connection σ) :
  Mirrors Logged.state c.logged c
  where
  query _ _ _ := rfl
  execute _ _ := follows_noting _ _
  insert _ _ := follows_noting _ _
  batch _ := follows_noting _ _
  begin := follows_noting _ _
  commit := follows_noting _ _
  rollback := follows_noting _ _
  fault _ := rfl

namespace Mirrors

variable {view : τ → σ} {c : Connection τ} {c' : Connection σ}

/-- All rows of a query. -/
theorem rows (h : Mirrors view c c') (sql : String) (params : List Param) :
  Follows view (c.rows sql params) (c'.rows sql params)
  := by
  apply (h.query sql params).lift.andThen
  intro delivery
  cases delivery.failure <;> apply follows_pure

/-- Folding the rows of a query. -/
theorem foldRows (h : Mirrors view c c') (sql : String) (params : List Param)
    (step : α → Row → Except Error α) (start : α) :
  Follows view (c.foldRows sql params step start) (c'.foldRows sql params step start)
  := by
  apply (h.query sql params).lift.andThen
  intro delivery
  cases delivery.rows.foldlM step start with
  | error e => exact (follows_modify h.fault).andThen fun _ => follows_pure _
  | ok a => cases delivery.failure <;> apply follows_pure

/-- A command as a value. -/
theorem perform (h : Mirrors view c c') (command : Command) :
  Follows view (c.perform command) (c'.perform command)
  := by
  unfold Connection.perform
  split
  · exact (h.rows _ _).map _
  · exact (h.execute _ _).map _
  · exact (h.insert _ _).map _
  · exact (h.batch _).map _
  · exact h.begin.map _
  · exact h.commit.map _
  · exact h.rollback.map _

end Mirrors

end Connection

end EntityStore
