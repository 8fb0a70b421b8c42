import EntityStore.Proofs.Connection.Log
import EntityStore.Session.Call

/-!
# Sessions seen through a view

If a connection does what another does, seen through a view of its state, so do the operations
of a session on it.  In particular a log changes nothing in a session.
-/

namespace EntityStore

open Connection Sql

variable {σ τ α β : Type}

/-- The state of a session over a view of the state of its connection. -/
def SessionState.map (view : τ → σ) (t : SessionState τ) : SessionState σ :=
  ⟨view t.inner, t.reports⟩

namespace Session

/-- Whether a session has the context of another and its connection does what that of the other
does, seen through a view of its state. -/
structure Mirrors (view : τ → σ) (s : Session τ) (s' : Session σ) : Prop where
  context : s.context = s'.context
  connection : Connection.Mirrors view s.connection s'.connection
  enter : Follows view s.enter s'.enter

/-- A result that is known does not need the connection. -/
theorem follows_result {view : SessionState τ → SessionState σ} (r : Except Error α) :
  Follows view (ExceptT.mk (pure r) : Operation τ α) (ExceptT.mk (pure r) : Operation σ α)
  := fun _ => rfl

/-- The check that an entity has been stored does not need the connection. -/
theorem follows_checkSaved {view : SessionState τ → SessionState σ} (type : EntityType)
    (r : Record) :
  Follows view (checkSaved type r) (checkSaved type r)
  := by
  unfold checkSaved
  cases r.isNew <;> apply follows_result

namespace Mirrors

variable {view : τ → σ} {s : Session τ} {s' : Session σ}

/-! ### Parts of operations -/

/-- A command of the connection. -/
theorem onConnection (h : Mirrors view s s') {m : Action τ α} {m' : Action σ α}
    (hm : Follows view m m') :
  Follows (SessionState.map view) (s.onConnection m) (s'.onConnection m')
  := by
  intro t
  have hready := h.enter.andThen (fun _ => hm) t.inner
  show (((s.enter >>= fun _ => m : Action τ α) t.inner).1,
      SessionState.map view { t with inner := ((s.enter >>= fun _ => m : Action τ α) t.inner).2 }) =
    (((s'.enter >>= fun _ => m' : Action σ α) (view t.inner)).1,
      { SessionState.map view t with
        inner := ((s'.enter >>= fun _ => m' : Action σ α) (view t.inner)).2 })
  rw [← hready]
  rfl

/-- The descriptor of a type. -/
theorem descriptor (h : Mirrors view s s') (type : EntityType) :
  Follows (SessionState.map view) (s.descriptor type) (s'.descriptor type)
  := by
  unfold Session.descriptor
  rw [h.context]
  apply follows_result

/-- The condition a predicate comes to. -/
theorem condition (h : Mirrors view s s') (d : Descriptor) (tableAlias : Option String)
    (p : Predicate) :
  Follows (SessionState.map view) (s.condition d tableAlias p) (s'.condition d tableAlias p)
  := by
  unfold Session.condition
  rw [h.context]
  intro t
  rfl

/-- What is noted after a command has failed. -/
theorem map_afterFailure (h : Mirrors view s s') (operation table : String) (e : Error)
    (t : SessionState τ) :
  (s.afterFailure operation table e t).map view =
    s'.afterFailure operation table e (t.map view)
  := by
  show SessionState.mk (view (s.connection.fault t.inner)) _ = _
  rw [h.connection.fault]
  rfl

/-- The outcome of an operation. -/
theorem settle (h : Mirrors view s s') (operation table : String) (default : α)
    {m : Operation τ α} {m' : Operation σ α} (hm : Follows (SessionState.map view) m m') :
  Follows (SessionState.map view) (s.settle operation table default m)
    (s'.settle operation table default m')
  := by
  intro t
  have hbody := hm t
  unfold Session.settle
  rw [← hbody]
  cases hrun : m t with
  | mk answer t' =>
      cases answer with
      | ok a => rfl
      | error e =>
          dsimp only
          rw [← h.map_afterFailure]
          cases e.isCommandFailure <;> rfl

/-- The records a statement reads. -/
theorem records (h : Mirrors view s s') (type : RecordType) (statement : Fragment) :
  Follows (SessionState.map view) (s.records type statement) (s'.records type statement)
  := by
  unfold Session.records
  rw [h.context]
  apply (h.onConnection (h.connection.foldRows _ _ _ _)).andThen
  intro read
  apply follows_result

/-- The records of a statement, if there is one. -/
theorem recordsOf (h : Mirrors view s s') (destination : RecordType)
    (statement : Option Fragment) :
  Follows (SessionState.map view) (s.recordsOf destination statement)
    (s'.recordsOf destination statement)
  := by
  cases statement with
  | none => apply follows_result
  | some statement => apply h.records

/-- The records that fulfil a predicate. -/
theorem select (h : Mirrors view s s') (type : EntityType) (p : Predicate) (tail : String) :
  Follows (SessionState.map view) (s.select type p tail) (s'.select type p tail)
  := by
  apply (h.descriptor type).andThen
  intro d
  apply (h.condition d none p).andThen
  intro condition
  apply h.records

/-- The removal of rows. -/
theorem remove (h : Mirrors view s s') (d : Descriptor) (clause : Fragment) :
  Follows (SessionState.map view) (s.remove d clause) (s'.remove d clause)
  := h.onConnection (h.connection.execute _ _)


/-! ### Operations -/

/-- The outcome of an operation as an answer. -/
theorem follows_answer {view : SessionState τ → SessionState σ} {m : StateM (SessionState τ) α}
    {m' : StateM (SessionState σ) α} (hm : Follows view m m') (f : α → β) :
  Follows view (f <$> m) (f <$> m')
  := hm.bind fun _ => follows_pure _

/-- An operation does the same in both sessions. -/
theorem perform (h : Mirrors view s s') (call : Call) :
  Follows (SessionState.map view) (s.perform call) (s'.perform call)
  := by
  cases call with
  | fetch type p => exact follows_answer (h.settle _ _ _ (h.select type p _)) _
  | fetchAll type => exact follows_answer (h.settle _ _ _ (h.select type .always _)) _
  | first type p =>
      apply follows_answer
      apply h.settle
      exact (h.select type p _).andThen fun _ => follows_pure _
  | count type p =>
      apply follows_answer
      apply h.settle
      apply (h.descriptor type).andThen
      intro d
      apply (h.condition d none p).andThen
      intro condition
      have hrows := h.connection.rows (d.countRows (Descriptor.clause condition d.guards)).sql
        (d.countRows (Descriptor.clause condition d.guards)).params
      apply (h.onConnection (hrows.map _)).andThen
      intro row
      cases row <;> apply follows_result
  | insert type r =>
      apply follows_answer
      have hinsert : Follows (SessionState.map view) _ _ :=
        h.settle "insert" type.table (0 : Int64) <| (h.descriptor type).andThen fun d =>
          h.onConnection (h.connection.insert (d.insertRow type.record r).sql
            (d.insertRow type.record r).params)
      apply hinsert.bind
      intro outcome
      cases outcome <;> apply follows_pure
  | update type r =>
      apply follows_answer
      apply h.settle
      apply (follows_checkSaved type r).andThen
      intro _
      apply (h.descriptor type).andThen
      intro d
      cases d.updateRow? type.record r with
      | none => apply follows_result
      | some statement => exact h.onConnection (h.connection.execute _ _)
  | delete type r =>
      apply follows_answer
      apply h.settle
      apply (follows_checkSaved type r).andThen
      intro _
      apply (h.descriptor type).andThen
      intro d
      apply h.remove
  | deleteWhere type p =>
      apply follows_answer
      apply h.settle
      apply (h.descriptor type).andThen
      intro d
      apply (h.condition d none p).andThen
      intro condition
      apply h.remove
  | fetchGraph plan p =>
      apply follows_answer
      apply h.settle
      apply Follows.andThen
      · cases p with
        | none => apply follows_result
        | some p => exact (h.condition _ _ p).map _
      · intro condition
        rw [h.context]
        apply (h.onConnection (h.connection.foldRows _ _ _ _)).andThen
        intro loading
        apply follows_result
  | runJoin destination j =>
      apply follows_answer
      apply h.settle
      exact (follows_result _).andThen fun statement => h.recordsOf _ _
  | runView destination v => exact follows_answer (h.settle _ _ _ (h.recordsOf _ _)) _

end Mirrors

end Session

end EntityStore
