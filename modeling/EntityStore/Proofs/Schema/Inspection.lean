import EntityStore.Proofs.Connection.Log
import EntityStore.Proofs.Schema.Difference
import EntityStore.Schema.Reconcile

/-!
# Plans are made by asking

To plan the changes of a schema the connection is only queried.  A plan comes about only if
all queries succeed.
-/

namespace EntityStore

open Connection

variable {σ α β : Type}

/-- Whether a step does what another does without the log, only queries the connection and
succeeds only if all queries do. -/
structure Inquires (m : Action (Logged σ) α) (m' : Action σ α) : Prop where
  follows : Follows Logged.state m m'
  asks : ∀ s, ∃ asked : List Exchange, (m s).2.log = s.log ++ asked ∧
    (∀ x ∈ asked, x.command.kind = .query) ∧
    (isError (m s).1 = false → ∀ x ∈ asked, x.failed = false)

namespace Inquires

/-- A step that asks nothing. -/
theorem mk_pure (answer : Except Error α) :
  Inquires (ExceptT.mk (pure answer) : Action (Logged σ) α) (ExceptT.mk (pure answer))
  where
  follows := follows_pure answer
  asks _ := ⟨[], (List.append_nil _).symm, by simp, by simp⟩

/-- Steps that go on with the results of steps. -/
theorem bind {m : Action (Logged σ) α} {m' : Action σ α} {f : α → Action (Logged σ) β}
    {f' : α → Action σ β} (hm : Inquires m m') (hf : ∀ a, Inquires (f a) (f' a)) :
  Inquires (m >>= f) (m' >>= f')
  where
  follows := hm.follows.andThen fun a => (hf a).follows
  asks s := by
    obtain ⟨asked, hlog, hkind, hok⟩ := hm.asks s
    rw [bind_apply]
    cases hrun : m s with
    | mk answer s' =>
        rw [hrun] at hlog hok
        cases answer with
        | error e => exact ⟨asked, hlog, hkind, hok⟩
        | ok a =>
            obtain ⟨more, hlog', hkind', hok'⟩ := (hf a).asks s'
            use asked ++ more
            constructor
            · dsimp only
              rw [hlog', hlog, List.append_assoc]
            · constructor
              · intro x hx
                exact (List.mem_append.mp hx).elim (hkind x) (hkind' x)
              · intro hanswer x hx
                exact (List.mem_append.mp hx).elim (hok rfl x) (hok' hanswer x)

/-- A changed result. -/
theorem map {m : Action (Logged σ) α} {m' : Action σ α} (hm : Inquires m m') (f : α → β) :
  Inquires (f <$> m) (f <$> m')
  := hm.bind fun a => mk_pure (.ok (f a))

/-- One step for each member of a list. -/
theorem foldlM {f : β → α → Action (Logged σ) β} {f' : β → α → Action σ β}
    (hf : ∀ b a, Inquires (f b a) (f' b a)) (as : List α) (b : β) :
  Inquires (as.foldlM f b) (as.foldlM f' b)
  := by
  induction as generalizing b with
  | nil => exact mk_pure (.ok b)
  | cons a as ih =>
      rw [List.foldlM_cons, List.foldlM_cons]
      exact (hf b a).bind ih

end Inquires

/-- All rows of a query are asked for once. -/
theorem log_rows (c : Connection σ) (sql : String) (params : List Param) (s : Logged σ) :
  (c.logged.rows sql params s).2.log =
    s.log ++ [⟨{ kind := .query, sql, params }, isError (c.logged.rows sql params s).1⟩]
  := by
  unfold Connection.rows
  rw [liftBind_apply]
  cases hquery : c.query sql params s.state with
  | mk delivery state =>
      simp only [logged, hquery]
      cases hfailure : delivery.failure <;> rfl

/-- All rows of a query. -/
theorem inquires_rows (c : Connection σ) (sql : String) (params : List Param) :
  Inquires (c.logged.rows sql params) (c.rows sql params)
  where
  follows := (mirrors_logged c).rows sql params
  asks s := by
    use [⟨{ kind := .query, sql, params }, isError (c.logged.rows sql params s).1⟩]
    use log_rows c sql params s
    simp

namespace Live

/-- Rows that are read one by one. -/
theorem inquires_readRows (c : Connection σ) (sql : String) (read : Row → Except Error α) :
  Inquires (readRows c.logged sql read) (readRows c sql read)
  := (inquires_rows c sql []).bind fun _ => .mk_pure _

/-- The columns of an index. -/
theorem inquires_indexColumns (c : Connection σ) (index : String) :
  Inquires (indexColumns c.logged index) (indexColumns c index)
  := (inquires_readRows c _ _).map _

/-- What a row of the catalog is about. -/
theorem inquires_addIndex (c : Connection σ) (names : ConstraintNames) (found : Indexes)
    (row : Row) :
  Inquires (addIndex c.logged names found row) (addIndex c names found row)
  := by
  apply (Inquires.mk_pure _).bind
  intro name
  apply (Inquires.mk_pure _).bind
  intro origin
  split
  · exact (inquires_indexColumns c name).map _
  · exact (inquires_indexColumns c name).map _
  · exact .mk_pure (.ok found)

/-- The shape of a table. -/
theorem inquires_table (c : Connection σ) (name sql : String) :
  Inquires (table c.logged name sql) (table c name sql)
  := by
  apply (inquires_readRows c _ _).bind
  intro columns
  apply (inquires_readRows c _ _).bind
  intro references
  apply (inquires_rows c _ _).bind
  intro rows
  exact (Inquires.foldlM (inquires_addIndex c _) rows {}).map _

/-- The schema of a database. -/
theorem inquires_schema (c : Connection σ) :
  Inquires (schema c.logged) (schema c)
  := by
  apply (inquires_readRows c _ _).bind
  intro definitions
  apply Inquires.foldlM
  intro s definition
  exact (inquires_table c definition.1 definition.2).map _

end Live

namespace Reconcile

/-- A plan. -/
theorem inquires_plan (c : Connection σ) (registry : Registry) (options : PlanOptions) :
  Inquires (plan c.logged registry options) (plan c registry options)
  := by
  apply (Inquires.mk_pure _).bind
  intro target
  apply (Live.inquires_schema c).bind
  intro live
  apply Inquires.mk_pure

/-- Whether foreign keys are enforced. -/
theorem inquires_isEnforced (c : Connection σ) :
  Inquires (isEnforced c.logged) (isEnforced c)
  := by
  apply ((inquires_rows c _ _).map _).bind
  intro first
  cases first with
  | none => exact .mk_pure (.ok false)
  | some row => exact (Inquires.mk_pure (row.intAt 0)).map _

/-- Whether foreign keys are enforced is asked once. -/
theorem log_isEnforced (c : Connection σ) (s : Logged σ) :
  ∃ failed, (isEnforced c.logged s).2.log =
      s.log ++ [⟨{ kind := .query, sql := enforcementQuery }, failed⟩] ∧
    (isError (isEnforced c.logged s).1 = false → failed = false)
  := by
  have hlog := log_rows c enforcementQuery [] s
  unfold isEnforced
  rw [bind_apply]
  unfold firstRow?
  rw [map_apply]
  cases hrun : c.logged.rows enforcementQuery [] s with
  | mk answer s' =>
      rw [hrun] at hlog
      use isError answer
      cases answer with
      | error e => exact ⟨hlog, fun h => h⟩
      | ok rows =>
          dsimp only [Except.map]
          cases rows.head? with
          | none => exact ⟨hlog, fun _ => rfl⟩
          | some row =>
              dsimp only
              rw [bind_apply]
              cases hread : row.intAt 0 with
              | error e => exact ⟨hlog, fun _ => rfl⟩
              | ok n => exact ⟨hlog, fun _ => rfl⟩

end Reconcile

end EntityStore
