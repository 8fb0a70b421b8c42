import EntityStore.Proofs.Schema.Batch
import EntityStore.Proofs.Schema.Inspection
import EntityStore.Proofs.Schema.Steps

/-!
# Passes

A pass that has something to do turns the enforcement of foreign keys off, executes its
statements in one transaction, and turns the enforcement on again if it was on, whatever
has failed before that.
-/

namespace EntityStore

open Connection Transaction

variable {σ : Type}

/-! ### Statements of a plan -/

/-- No statement begins like one about a setting of the database. -/
theorem SchemaStep.head?_sql (step : SchemaStep) :
  step.sql.toList.head?.any (· ≠ 'P') = true
  := by
  have happend : ∀ {s : String}, s.toList.head?.any (· ≠ 'P') = true → ∀ rest : String,
      (s ++ rest).toList.head?.any (· ≠ 'P') = true := by
    intro s hs rest
    rw [String.toList_append, List.head?_append]
    cases hhead : s.toList.head? with
    | none =>
        rw [hhead] at hs
        cases hs
    | some c => rwa [hhead] at hs
  -- the text of each statement is put together from the left, as many times as is said here
  cases step with
  | createTable =>
      iterate 4 apply happend
      decide
  | transfer =>
      iterate 7 apply happend
      decide
  | renameTable =>
      iterate 3 apply happend
      decide
  | createIndex =>
      iterate 6 apply happend
      decide
  | dropTable | dropIndex =>
      apply happend
      decide

/-- No statement of a plan is about the enforcement of foreign keys. -/
theorem MigrationPlan.enforce_not_mem (plan : MigrationPlan) (on : Bool) :
  Reconcile.enforce on ∉ plan.statements
  := by
  rw [← plan.sql_steps]
  intro h
  obtain ⟨step, -, hstep⟩ := List.mem_map.mp h
  have hhead := step.head?_sql
  rw [hstep] at hhead
  cases on <;> revert hhead <;> decide

/-- A change has statements. -/
theorem Schema.statements_ne_nil {target live : Schema} {format : String} {c : Change}
    (h : c ∈ target.changes live format) :
  c.statements ≠ []
  := by
  obtain ⟨t, -, hchange⟩ := List.mem_filterMap.mp h
  rcases changeFor?_eq_some hchange with ⟨-, rfl⟩ | ⟨current, -, ⟨-, rfl⟩ | ⟨-, hindex⟩⟩
  · apply List.cons_ne_nil
  · apply List.cons_ne_nil
  · dsimp only [indexChange?] at hindex
    split at hindex
    · cases hindex
    · rename_i hdiffer
      cases hindex
      intro hnone
      obtain ⟨hremoved, hadded⟩ := List.append_eq_nil_iff.mp hnone
      rw [List.map_eq_nil_iff] at hadded hremoved
      rw [List.map_eq_nil_iff] at hremoved
      apply hdiffer
      rw [hadded, hremoved]
      rfl

/-- A plan has statements if it has changes. -/
theorem Schema.statements_eq_nil_iff {target live : Schema} {options : PlanOptions}
    {plan : MigrationPlan} (h : target.plan live options = .ok plan) :
  plan.statements = [] ↔ plan.changes = []
  := by
  obtain ⟨-, rfl⟩ := plan_eq_ok_iff.mp h
  constructor
  · intro hnone
    apply List.eq_nil_iff_forall_not_mem.mpr
    intro c hc
    exact statements_ne_nil hc (List.flatMap_eq_nil_iff.mp hnone c hc)
  · intro hnone
    rw [MigrationPlan.statements, hnone]
    rfl

namespace Reconcile

/-! ### The enforcement of foreign keys -/

/-- What a connection is asked once it is known whether foreign keys are enforced, and whether
that fails. -/
inductive Pass (statements : List String) (enforced : Bool) : Bool → List Exchange → Prop
  /-- The enforcement cannot be turned off. -/
  | kept : Pass statements enforced true [.batch (enforce false) true]
  | done {failed : Bool} {asked : List Exchange} (h : Batch statements failed asked)
      (lost : Bool) :
      Pass statements enforced (failed || (enforced && lost))
        (.batch (enforce false) false :: asked ++
          if enforced then [.batch (enforce true) lost] else [])

/-- A restored enforcement is one more statement, if there is something to restore. -/
theorem restore_apply (c : Connection σ) (enforced : Bool) (s : Logged σ) :
  ∃ lost, (restore c.logged enforced s).2.log =
      s.log ++ (if enforced then [.batch (enforce true) lost] else []) ∧
    isError (restore c.logged enforced s).1 = (enforced && lost)
  := by
  cases enforced with
  | true => exact ⟨isError (c.batch (enforce true) s.state).1, rfl, rfl⟩
  | false => exact ⟨false, (List.append_nil _).symm, rfl⟩

/-- The statements and the restoration after them, which is done in any case. -/
theorem execute_apply (c : Connection σ) (statements : List String) (s : σ) :
  execute c statements s = match isEnforced c s with
    | (.error e, s') => (.error e, s')
    | (.ok enforced, s') => match c.batch (enforce false) s' with
      | (.error e, s'') => (.error e, s'')
      | (.ok (), s'') =>
        let applied := apply c statements s''
        let restored := restore c enforced applied.2
        (applied.1.bind fun _ => restored.1, restored.2)
  := by
  unfold execute
  rw [bind_apply]
  obtain ⟨_ | enforced, s'⟩ := isEnforced c s
  · rfl
  · dsimp only
    rw [bind_apply]
    obtain ⟨_ | _, s''⟩ := c.batch (enforce false) s' <;> rfl

/-- A pass with something to do, once it is known whether foreign keys are enforced. -/
theorem pass_execute (c : Connection σ) {statements : List String} (hne : statements ≠ [])
    {s s' : Logged σ} {enforced : Bool} (hasked : isEnforced c.logged s = (.ok enforced, s')) :
  ∃ asked, (execute c.logged statements s).2.log = s'.log ++ asked ∧
    Pass statements enforced (isError (execute c.logged statements s).1) asked
  := by
  rw [execute_apply, hasked]
  cases hoff : c.batch (enforce false) s'.state with
  | mk answer state =>
      have hlogged : c.logged.batch (enforce false) s' =
          (answer, ⟨state, s'.log ++ [.batch (enforce false) (isError answer)]⟩) := by
        simp only [logged, noting, hoff]
        rfl
      simp only [hlogged]
      cases answer with
      | error e => exact ⟨_, rfl, .kept⟩
      | ok _ =>
          have hbatch := batch_of_apply c hne ⟨state, s'.log ++ [.batch (enforce false) false]⟩
          obtain ⟨asked, hlog, hbatch⟩ := hbatch
          obtain ⟨lost, hrestored, hlost⟩ := restore_apply c enforced
            (apply c.logged statements ⟨state, s'.log ++ [.batch (enforce false) false]⟩).2
          have hpass := @Pass.done _ enforced _ _ hbatch lost
          rw [← hlost, ← isError_bind] at hpass
          refine ⟨_, ?_, hpass⟩
          show (restore c.logged enforced (apply c.logged statements
            ⟨state, s'.log ++ [.batch (enforce false) false]⟩).2).2.log = _
          rw [hrestored, hlog]
          simp only [List.append_assoc, List.cons_append, List.nil_append]

/-! ### All of a pass -/

/-- The statements of a pass and what is around them. -/
theorem follows_execute (c : Connection σ) (statements : List String) :
  Follows Logged.state (execute c.logged statements) (execute c statements)
  := by
  apply (inquires_isEnforced c).follows.andThen
  intro enforced
  apply ((mirrors_logged c).batch _).andThen
  intro _
  apply (follows_apply c statements).lift.andThen
  intro applied
  have hrestore : Follows Logged.state (restore c.logged enforced) (restore c enforced) := by
    cases enforced with
    | true => apply (mirrors_logged c).batch
    | false => apply follows_pure
  apply hrestore.lift.andThen
  intro restored
  apply follows_pure

/-- All of a pass. -/
theorem follows_run (c : Connection σ) (registry : Registry) (options : PlanOptions) :
  Follows Logged.state (run c.logged registry options) (run c registry options)
  := by
  apply (inquires_plan c registry options).follows.andThen
  intro plan
  dsimp only
  split
  · apply follows_pure
  · exact (follows_execute c _).andThen fun _ => follows_pure _

/-- The enforcement that was on is restored once and at the end. -/
theorem Pass.restored {statements : List String} {failed : Bool} {asked : List Exchange}
    (h : Pass statements true failed asked) (hstatements : enforce true ∉ statements)
    (hoff : .batch (enforce false) false ∈ asked) :
  asked.countP (·.command = { kind := .batch, sql := enforce true }) = 1 ∧
    ∃ lost, asked.getLast? = some (.batch (enforce true) lost)
  := by
  cases h with
  | kept =>
      cases List.mem_singleton.mp hoff
  | @done _ executed hbatch lost =>
      have hnone : executed.countP (·.command = { kind := .batch, sql := enforce true }) = 0 := by
        apply List.countP_eq_zero.mpr
        intro x hx heq
        have hcommand := of_decide_eq_true heq
        have hmem := hbatch.sql_mem hx (by rw [hcommand])
        rw [hcommand] at hmem
        exact hstatements hmem
      rw [if_pos rfl, List.countP_append, List.countP_cons, hnone]
      exact ⟨rfl, lost, List.getLast?_concat⟩

/-- A pass that does not fail executes its statements. -/
theorem Pass.executed_eq {statements : List String} {enforced failed : Bool}
    {asked : List Exchange} (h : Pass statements enforced failed asked)
    (hfailed : failed = false) :
  (∀ x ∈ asked, x.failed = false) ∧ ∀ before : List Exchange,
    (∀ x ∈ before, x.command.kind = .query) → executed (before ++ asked) = statements
  := by
  cases h with
  | kept => cases hfailed
  | @done failed asked hbatch lost =>
      obtain ⟨rfl, hlost⟩ := Bool.or_eq_false_iff.mp hfailed
      obtain ⟨hok, hexecuted⟩ := hbatch.executed_eq
      constructor
      · intro x hx
        simp only [List.cons_append, List.mem_cons, List.mem_append] at hx
        obtain rfl | hx | hx := hx
        · rfl
        · exact hok x hx
        · cases enforced with
          | true =>
              rw [List.mem_singleton.mp hx]
              exact hlost
          | false => cases hx
      · intro before hbefore
        have hnone : ∀ x ∈ before ++ [.batch (enforce false) false], x.hasBegun = false := by
          intro x hx
          obtain hx | hx := List.mem_append.mp hx
          · simp [Exchange.hasBegun, hbefore x hx]
          · rw [List.mem_singleton.mp hx]
            rfl
        have hexecuted := hexecuted _ (if enforced then [.batch (enforce true) lost] else []) hnone
        simpa only [List.append_assoc, List.cons_append, List.nil_append] using hexecuted

/-- A pass is planned, and then executed unless there is nothing to do. -/
theorem run_apply (c : Connection σ) (registry : Registry) (options : PlanOptions) (s : σ) :
  run c registry options s = match plan c registry options s with
    | (.error e, s') => (.error e, s')
    | (.ok p, s') =>
      if p.statements = [] then (.ok (.ofPlan p), s')
      else ((execute c p.statements s').1.map fun _ => .ofPlan p, (execute c p.statements s').2)
  := by
  unfold run
  rw [bind_apply]
  obtain ⟨_ | p, s'⟩ := plan c registry options s
  · rfl
  · dsimp only
    have hnoop : (ReconcileReport.ofPlan p).isNoop = true ↔ p.statements = [] := List.isEmpty_iff
    split
    · next hnone =>
        rw [if_pos (hnoop.mp hnone)]
        rfl
    · next hsome =>
        rw [if_neg (fun h => hsome (hnoop.mpr h)), bind_apply]
        have hstatements : (ReconcileReport.ofPlan p).statements = p.statements := rfl
        rw [hstatements]
        obtain ⟨_ | _, _⟩ := execute c p.statements s' <;> rfl

/-- A plan is one of a target and a live schema. -/
theorem exists_of_plan {c : Connection σ} {registry : Registry} {options : PlanOptions}
    {s : σ} {p : MigrationPlan} (h : (plan c registry options s).1 = .ok p) :
  ∃ target live, Schema.plan target live options = .ok p
  := by
  obtain ⟨target, _, -, h⟩ := exists_of_bind_apply h
  obtain ⟨live, s', -, h⟩ := exists_of_bind_apply h
  use target, live
  exact h

/-- What comes of the statements of a plan, once it is made. -/
theorem pass_of_plan (c : Connection σ) {p : MigrationPlan} (hsome : p.statements ≠ [])
    (s : Logged σ) :
  let run := execute c.logged p.statements s
  let asked := isEnforced c.logged s
  (∃ failed, asked.2.log =
    s.log ++ [⟨{ kind := .query, sql := enforcementQuery }, failed⟩]) ∧
  (∀ e, asked.1 = .error e → run = (.error e, asked.2)) ∧
  ∀ enforced, asked.1 = .ok enforced → ∃ rest, run.2.log = asked.2.log ++ rest ∧
    Pass p.statements enforced (isError run.1) rest ∧
    (.batch (enforce false) false ∈ rest → enforced = true →
      rest.countP (·.command = { kind := .batch, sql := enforce true }) = 1 ∧
      ∃ lost, rest.getLast? = some (.batch (enforce true) lost))
  := by
  intro run asked
  obtain ⟨failed, hquery, -⟩ := log_isEnforced c s
  use ⟨failed, hquery⟩
  constructor
  · intro e he
    show execute c.logged p.statements s = _
    have hasked : isEnforced c.logged s = (.error e, asked.2) := Prod.ext he rfl
    rw [execute_apply, hasked]
  · intro enforced henforced
    have hasked : isEnforced c.logged s = (.ok enforced, asked.2) := Prod.ext henforced rfl
    obtain ⟨rest, hlog, hpass⟩ := pass_execute c hsome hasked
    use rest, hlog, hpass
    rintro hoff rfl
    apply hpass.restored (p.enforce_not_mem true) hoff

/-- Statements that are all executed, and what was asked for that. -/
theorem executed_of_execute (c : Connection σ) {statements : List String}
    (hne : statements ≠ []) {s : Logged σ} (hkind : ∀ x ∈ s.log, x.command.kind = .query)
    (hok : ∀ x ∈ s.log, x.failed = false)
    (hrun : isError (execute c.logged statements s).1 = false) :
  (∀ x ∈ (execute c.logged statements s).2.log, x.failed = false) ∧
    executed (execute c.logged statements s).2.log = statements
  := by
  obtain ⟨failed, hquery, hfailed⟩ := log_isEnforced c s
  cases hasked : isEnforced c.logged s with
  | mk answer s' =>
      rw [hasked] at hquery hfailed
      cases answer with
      | error e =>
          rw [execute_apply, hasked] at hrun
          cases hrun
      | ok enforced =>
          obtain ⟨rest, hlog, hpass⟩ := pass_execute c hne hasked
          obtain ⟨hrest, hexecuted⟩ := hpass.executed_eq hrun
          rw [hlog, hquery]
          constructor
          · intro x hx
            simp only [List.mem_append, List.mem_singleton] at hx
            obtain (hx | rfl) | hx := hx
            · exact hok x hx
            · exact hfailed rfl
            · exact hrest x hx
          · apply hexecuted
            intro x hx
            obtain hx | hx := List.mem_append.mp hx
            · exact hkind x hx
            · rw [List.mem_singleton.mp hx]

/-- A report is given only if everything succeeded, and the statements in it are those that
were executed. -/
theorem report_of_run (c : Connection σ) (registry : Registry) (options : PlanOptions) (s : σ)
    {report : ReconcileReport}
    (h : (run c.logged registry options { state := s }).1 = .ok report) :
  (∀ x ∈ (run c.logged registry options { state := s }).2.log, x.failed = false) ∧
    report.statements = executed (run c.logged registry options { state := s }).2.log
  := by
  obtain ⟨queries, hqueries, hkind, hok⟩ :=
    (inquires_plan c registry options).asks { state := s }
  rw [run_apply] at h ⊢
  cases hplanned : plan c.logged registry options { state := s } with
  | mk answer s' =>
      rw [hplanned] at h hqueries hok
      have hlog : s'.log = queries := hqueries
      cases answer with
      | error e => cases h
      | ok p =>
          dsimp only at h ⊢
          by_cases hnone : p.statements = []
          · rw [if_pos hnone] at h ⊢
            cases h
            dsimp only
            rw [hlog, executed_of_queries hkind]
            exact ⟨hok rfl, hnone⟩
          · rw [if_neg hnone] at h ⊢
            cases hexecute : (execute c.logged p.statements s').1 with
            | error e =>
                rw [hexecute] at h
                cases h
            | ok _ =>
                rw [hexecute] at h
                cases h
                rw [← hlog] at hkind hok
                obtain ⟨hall, hexecuted⟩ := executed_of_execute c hnone hkind (hok rfl)
                  (by rw [hexecute]; rfl)
                exact ⟨hall, hexecuted.symm⟩

/-- On any connection, a pass that cannot be planned or has nothing to do only queries it.
Otherwise it finds out whether foreign keys are enforced, turns the enforcement off, executes
the statements of the plan in one transaction and turns the enforcement on again, once and at
the end, if it was on.  A report is given only if everything succeeded, and the statements in
it are those that were executed. -/
theorem pass_spec (c : Connection σ) (registry : Registry) (options : PlanOptions) (s : σ) :
  let noted := run c.logged registry options { state := s }
  let planned := plan c.logged registry options { state := s }
  let asked := isEnforced c.logged planned.2
  (noted.1, noted.2.state) = run c registry options s ∧
  (∀ x ∈ planned.2.log, x.command.kind = .query) ∧
  (∀ e, planned.1 = .error e → noted = (.error e, planned.2)) ∧
  (∀ p, planned.1 = .ok p →
    (p.statements = [] ↔ p.changes = []) ∧
    (p.changes = [] → noted = (.ok (.ofPlan p), planned.2)) ∧
    (p.changes ≠ [] →
      (∃ failed, asked.2.log =
        planned.2.log ++ [⟨{ kind := .query, sql := enforcementQuery }, failed⟩]) ∧
      (∀ e, asked.1 = .error e → noted = (.error e, asked.2)) ∧
      ∀ enforced, asked.1 = .ok enforced → ∃ rest, noted.2.log = asked.2.log ++ rest ∧
        Pass p.statements enforced (isError noted.1) rest ∧
        (.batch (enforce false) false ∈ rest → enforced = true →
          rest.countP (·.command = { kind := .batch, sql := enforce true }) = 1 ∧
          ∃ lost, rest.getLast? = some (.batch (enforce true) lost)))) ∧
  ∀ report, noted.1 = .ok report →
    (∀ x ∈ noted.2.log, x.failed = false) ∧ report.statements = executed noted.2.log
  := by
  intro noted planned asked
  have hview : (noted.1, noted.2.state) = run c registry options s :=
    follows_run c registry options _
  obtain ⟨queries, hlog, hkind, -⟩ := (inquires_plan c registry options).asks { state := s }
  have hrun : noted = _ := run_apply c.logged registry options { state := s }
  use hview
  constructor
  · have hplanned : planned.2.log = queries := hlog
    rwa [hplanned]
  · constructor
    · intro e he
      have hplanned : plan c.logged registry options { state := s } = (.error e, planned.2) :=
        Prod.ext he rfl
      rw [hrun, hplanned]
    · constructor
      · intro p hp
        have hplanned : plan c.logged registry options { state := s } = (.ok p, planned.2) :=
          Prod.ext hp rfl
        obtain ⟨target, live, hplan⟩ := exists_of_plan hp
        have hchanges := Schema.statements_eq_nil_iff hplan
        rw [hplanned] at hrun
        dsimp only at hrun
        use hchanges
        constructor
        · intro hnone
          rw [hrun, if_pos (hchanges.mpr hnone)]
        · intro hsome
          have hne := fun h => hsome (hchanges.mp h)
          rw [if_neg hne] at hrun
          obtain ⟨hquery, herror, hrest⟩ := pass_of_plan c hne planned.2
          rw [hrun, isError_map]
          use hquery
          constructor
          · intro e he
            rw [herror e he]
            rfl
          · exact hrest
      · intro report hreport
        apply report_of_run c registry options s hreport

end Reconcile

end EntityStore
