import EntityStore.Proofs.Connection.Log
import EntityStore.Transaction

/-!
# Transactions seen through a view

If a connection does what another does, seen through a view of its state, so does a
transaction over it.  In particular a log changes nothing in a transaction.
-/

namespace EntityStore

open Connection

variable {σ τ α : Type}

namespace Transaction

/-- The transaction over a view of the state of its connection. -/
def map (view : τ → σ) (t : Transaction τ) : Transaction σ :=
  ⟨view t.inner, t.begun, t.state⟩

section

variable {view : τ → σ}

/-- A command of the connection. -/
theorem follows_onInner {m : StateM τ α} {m' : StateM σ α} (h : Follows view m m') :
  Follows (map view) (onInner m) (onInner m')
  := by
  intro t
  show ((m t.inner).1, map view { t with inner := (m t.inner).2 }) =
    ((m' (view t.inner)).1, { map view t with inner := (m' (view t.inner)).2 })
  rw [← h t.inner]
  rfl

/-- A mark is seen through a view. -/
theorem map_markFaulted (t : Transaction τ) :
  map view t.markFaulted = (map view t).markFaulted
  := by
  unfold markFaulted
  split <;> rename_i h
  · rw [if_pos (by exact h)]
  · rw [if_neg (by exact h)]
    rfl

/-- A mark is seen through a view. -/
theorem map_withhold (t : Transaction τ) :
  map view t.withhold = (map view t).withhold
  := by
  unfold withhold
  split <;> rename_i h
  · rw [if_pos (by exact h)]
    rfl
  · rw [if_neg (by exact h)]

/-- A command whose failure is noted. -/
theorem follows_guarded {m : Action τ α} {m' : Action σ α} (h : Follows view m m') :
  Follows (map view) (guarded m) (guarded m')
  := by
  intro t
  have hcommand := follows_onInner h t
  unfold guarded
  rw [← hcommand]
  cases honInner : onInner m t with
  | mk answer t' =>
      cases answer with
      | ok a => rfl
      | error e => simp only [map_markFaulted]

/-- A query whose failure is noted. -/
theorem follows_guardedQuery {m : StateM τ Delivery} {m' : StateM σ Delivery}
    (h : Follows view m m') :
  Follows (map view) (guardedQuery m) (guardedQuery m')
  := by
  intro t
  have hquery := follows_onInner h t
  unfold guardedQuery
  rw [← hquery]
  cases honInner : onInner m t with
  | mk delivery t' => cases hfailure : delivery.failure <;> simp [hfailure, map_markFaulted]

variable {c : Connection τ} {c' : Connection σ}

/-- The begin of a transaction. -/
theorem follows_ensureBegun (h : Mirrors view c c') :
  Follows (map view) (ensureBegun c) (ensureBegun c')
  := by
  intro t
  have hbegin := follows_onInner h.begin t
  have hstate : (map view t).state = t.state := rfl
  have hbegun : (map view t).begun = t.begun := rfl
  unfold ensureBegun
  rw [hstate, hbegun, ← hbegin]
  cases t.state with
  | committed | rolledBack => rfl
  | active | withheld | faulted =>
      cases t.begun with
      | true => rfl
      | false =>
          cases onInner c.begin t with
          | mk answer t' => cases answer <;> rfl

/-- The connection within a transaction. -/
theorem mirrors_connection (h : Mirrors view c c') :
  Mirrors (map view) (connection c) (connection c')
  where
  query sql params := by
    apply Follows.bind (follows_ensureBegun h)
    rintro (e | _)
    · apply follows_pure
    · apply follows_guardedQuery (h.query sql params)
  execute sql params :=
    (follows_ensureBegun h).andThen fun _ => follows_guarded (h.execute sql params)
  insert sql params :=
    (follows_ensureBegun h).andThen fun _ => follows_guarded (h.insert sql params)
  batch sql := (follows_ensureBegun h).andThen fun _ => follows_guarded (h.batch sql)
  begin := follows_ensureBegun h
  commit := fun _ => rfl
  rollback := fun _ => rfl
  fault t := by
    have hmark : map view t.markFaulted = (map view t).markFaulted := map_markFaulted t
    simp only [connection]
    rw [← hmark]
    simp only [map, h.fault]

/-- A step. -/
theorem follows_step (h : Mirrors view c c') (s : TransactionStep) :
  Follows (map view) (step c s) (step c' s)
  := by
  cases s with
  | command command => apply (mirrors_connection h).perform
  | take sql params refuse => exact ((mirrors_connection h).foldRows sql params _ []).map _
  | withhold => exact (follows_modify map_withhold).andThen fun _ => follows_pure _
  | markFaulted => exact (follows_modify map_markFaulted).andThen fun _ => follows_pure _

/-- One step after another. -/
theorem follows_run (h : Mirrors view c c') (steps : List TransactionStep) :
  Follows (map view) (run c steps) (run c' steps)
  := by
  induction steps with
  | nil => apply follows_pure
  | cons s rest ih =>
      apply Follows.bind (follows_step h s)
      intro answer
      apply ih.bind
      intro answers
      apply follows_pure

/-- The rollback of a transaction as far as it has begun. -/
theorem follows_abandon (h : Mirrors view c c') :
  Follows (map view) (abandon c) (abandon c')
  := by
  intro t
  have hrollback := follows_onInner h.rollback t
  have hbegun : (map view t).begun = t.begun := rfl
  unfold abandon
  rw [hbegun, ← hrollback]
  cases t.begun <;> rfl

/-- The commit of a transaction that nothing speaks against. -/
theorem follows_settle (h : Mirrors view c c') :
  Follows (map view) (settle c) (settle c')
  := by
  intro t
  have hcommit := follows_onInner h.commit t
  have hbegun : (map view t).begun = t.begun := rfl
  unfold settle
  rw [hbegun, ← hcommit]
  cases t.begun with
  | false => rfl
  | true =>
      cases onInner c.commit t with
      | mk answer t' =>
          cases answer with
          | ok _ => rfl
          | error e =>
              have hrollback := follows_onInner h.rollback t'
              simp only [if_true]
              rw [← hrollback]
              rfl

/-- The commit of a transaction. -/
theorem follows_commit (h : Mirrors view c c') :
  Follows (map view) (commit c) (commit c')
  := by
  intro t
  have habandon := follows_abandon h t
  have hsettle := follows_settle h t
  have hstate : (map view t).state = t.state := rfl
  unfold commit
  rw [hstate, ← habandon, ← hsettle]
  cases t.state with
  | faulted =>
      cases abandon c t with
      | mk answer t' => cases answer <;> rfl
  | _ => rfl

/-- The rollback of a transaction. -/
theorem follows_rollback (h : Mirrors view c c') :
  Follows (map view) (rollback c) (rollback c')
  := by
  intro t
  have habandon := follows_abandon h t
  have hstate : (map view t).state = t.state := rfl
  unfold rollback
  rw [hstate, ← habandon]
  cases t.state.isTerminal <;> rfl

/-- The end of a transaction. -/
theorem follows_finish (h : Mirrors view c c') (way : TransactionEnd) :
  Follows (map view) (finish c way) (finish c' way)
  := by
  intro t
  have hclose : ∀ t, close c' (map view t) = map view (close c t) := by
    intro t
    unfold close
    rw [← follows_commit h t]
  cases way with
  | commit =>
      unfold finish
      rw [← follows_commit h t]
      dsimp only
      rw [hclose]
      rfl
  | rollback =>
      unfold finish
      rw [← follows_rollback h t]
      dsimp only
      rw [hclose]
      rfl
  | leave =>
      unfold finish
      dsimp only
      rw [hclose]

end

end Transaction

end EntityStore
