import EntityStore.Proofs.Schema.Definitions
import EntityStore.Proofs.Schema.Difference

/-!
# Permission to lose values

A plan that drops live columns or gives them other types needs permission.  Permission changes
nothing else: the changes are the same, they fail with it exactly if existing rows would need a
reference that they do not have, and there is a warning for each column that is lost.
-/

namespace EntityStore

open Text

/-! ### What speaks against a table -/

/-- Whether values of a live column cannot be taken over: the types are different, and not both
are of texts. -/
def ColumnShape.retypes (c current : ColumnShape) : Bool :=
  !c.sameType current && !c.isTextResize current

namespace TableShape

variable {t live : TableShape} {c current : ColumnShape} {format : String}

/-- Whether a column requires a reference of existing rows that they do not have: it is new, or the
live column can be null and is no reference. -/
def rejects (t live : TableShape) (c : ColumnShape) : Bool :=
  !c.nullable && (t.reference? c.name).isSome &&
    (live.column? c.name).all fun current =>
      current.nullable && (live.reference? current.name).isNone

/-- What is said of a column that requires a reference. -/
def rejected? (t live : TableShape) (c : ColumnShape) : Option Finding :=
  if t.rejects live c then
    some (if (live.column? c.name).isNone then .addedReference t.name c.name
      else .tightenedReference t.name c.name)
  else none

/-- The loss of the live column of a target column, if it gets another type. -/
def retyped? (t live : TableShape) (c : ColumnShape) : Option Finding :=
  (live.column? c.name).bind fun current =>
    if c.retypes current then some (.retyped t.name c.name current.sqlType c.sqlType) else none

/-- The loss of a live column, if it is dropped. -/
def dropped? (t : TableShape) (current : ColumnShape) : Option Finding :=
  if (t.column? current.name).isNone then some (.dropped t.name current.name) else none

/-- What is lost of live columns. -/
def losses (t live : TableShape) : List Finding :=
  t.columns.filterMap (t.retyped? live) ++ live.columns.filterMap t.dropped?

theorem findings_changedType (t : TableShape) (c current : ColumnShape) :
  (changedType t c current).findings =
    if c.retypes current then [.retyped t.name c.name current.sqlType c.sqlType] else []
  := by
  unfold changedType ColumnShape.retypes
  by_cases hsame : c.sameType current
  · simp [hsame]
  · by_cases htext : c.isTextResize current <;> simp [hsame, htext]

/-- What speaks against a column is the loss of the live column, and that it requires a
reference. -/
theorem findings_columnDifference (t live : TableShape) (format : String) (c : ColumnShape) :
  (columnDifference t live format c).findings =
    (t.retyped? live c).toList ++ (t.rejected? live c).toList
  := by
  unfold retyped? rejected?
  cases hcurrent : live.column? c.name with
  | none =>
      have hrejects : t.rejects live c = (!c.nullable && (t.reference? c.name).isSome) := by
        simp [rejects, hcurrent]
      rw [columnDifference_of_none hcurrent, hrejects]
      unfold addedColumn
      by_cases hnull : c.nullable
      · simp [hnull]
      · by_cases href : (t.reference? c.name).isSome <;> simp [hnull, href]
  | some current =>
      have hrejects : t.rejects live c = ((current.nullable && !c.nullable) &&
          ((t.reference? c.name).isSome && (live.reference? current.name).isNone)) := by
        simp only [rejects, hcurrent, Option.all_some]
        grind
      rw [columnDifference_of_some hcurrent, Difference.findings_append, findings_changedType,
        hrejects, Option.bind_some]
      have htype (retyped : Finding) : (if c.retypes current then [retyped] else []) =
          (if c.retypes current then some retyped else none).toList := by
        split <;> rfl
      rw [htype, List.append_cancel_left_eq]
      by_cases htight : current.nullable && !c.nullable
      · rw [if_pos htight, htight, Bool.true_and]
        unfold tightenedColumn
        split <;> rfl
      · rw [if_neg htight, Bool.eq_false_iff.mpr htight]
        rfl

theorem findings_droppedColumn (t : TableShape) (current : ColumnShape) :
  (droppedColumn t current).findings = (t.dropped? current).toList
  := by
  unfold droppedColumn dropped?
  split <;> rfl

theorem retyped?_eq_some_iff {f : Finding} :
  t.retyped? live c = some f ↔ ∃ current, live.column? c.name = some current ∧
    c.retypes current ∧ f = .retyped t.name c.name current.sqlType c.sqlType
  := by
  unfold retyped?
  simp only [Option.bind_eq_some_iff, Option.ite_none_right_eq_some, Option.some.injEq,
    eq_comm (b := f)]

theorem dropped?_eq_some_iff {f : Finding} :
  t.dropped? current = some f ↔ t.column? current.name = none ∧ f = .dropped t.name current.name
  := by
  unfold dropped?
  simp only [Option.ite_none_right_eq_some, Option.some.injEq, Option.isNone_iff_eq_none,
    eq_comm (b := f)]

theorem isDestructive_of_rejected? {f : Finding} (h : t.rejected? live c = some f) :
  f.isDestructive = false
  := by
  obtain ⟨-, heq⟩ := Option.ite_none_right_eq_some.mp h
  cases heq
  split <;> rfl

/-- What needs permission for a table is the loss of live columns. -/
theorem filter_tableDifference (t live : TableShape) (format : String) :
  (tableDifference t live format).findings.filter (·.isDestructive) = t.losses live
  := by
  have hcolumn (c : ColumnShape) :
      (columnDifference t live format c).findings.filter (·.isDestructive) =
        (t.retyped? live c).toList := by
    have hall : (t.retyped? live c).toList.filter (·.isDestructive) =
        (t.retyped? live c).toList := by
      apply List.filter_eq_self.mpr
      intro f hf
      obtain ⟨current, -, -, rfl⟩ := retyped?_eq_some_iff.mp (Option.mem_toList.mp hf)
      rfl
    have hnone : (t.rejected? live c).toList.filter (·.isDestructive) = [] := by
      apply List.filter_eq_nil_iff.mpr
      intro f hf
      rw [isDestructive_of_rejected? (Option.mem_toList.mp hf)]
      exact Bool.false_ne_true
    rw [findings_columnDifference, List.filter_append, hall, hnone, List.append_nil]
  have hdropped (current : ColumnShape) :
      (droppedColumn t current).findings.filter (·.isDestructive) =
        (t.dropped? current).toList := by
    rw [findings_droppedColumn]
    apply List.filter_eq_self.mpr
    intro f hf
    obtain ⟨-, rfl⟩ := dropped?_eq_some_iff.mp (Option.mem_toList.mp hf)
    rfl
  rw [findings_tableDifference, List.filter_append, List.filter_flatMap, List.filter_flatMap,
    losses, List.filterMap_eq_flatMap_toList, List.filterMap_eq_flatMap_toList]
  simp only [hcolumn, hdropped]

/-- Whatever else speaks against a table is that a column requires a reference. -/
theorem exists_tableDifference_iff (t live : TableShape) (format : String) :
  (∃ f ∈ (tableDifference t live format).findings, f.isDestructive = false) ↔
    ∃ c ∈ t.columns, t.rejects live c
  := by
  constructor
  · rintro ⟨f, hf, hkept⟩
    rw [findings_tableDifference, List.mem_append, List.mem_flatMap, List.mem_flatMap] at hf
    rcases hf with ⟨c, hc, hf⟩ | ⟨current, -, hf⟩
    · rw [findings_columnDifference, List.mem_append, Option.mem_toList, Option.mem_toList] at hf
      rcases hf with hf | hf
      · obtain ⟨current, -, -, rfl⟩ := retyped?_eq_some_iff.mp hf
        cases hkept
      · exact ⟨c, hc, (Option.ite_none_right_eq_some.mp hf).1⟩
    · rw [findings_droppedColumn, Option.mem_toList] at hf
      obtain ⟨-, rfl⟩ := dropped?_eq_some_iff.mp hf
      cases hkept
  · rintro ⟨c, hc, hrejects⟩
    obtain ⟨f, hf⟩ : ∃ f, t.rejected? live c = some f := ⟨_, if_pos hrejects⟩
    refine ⟨f, ?_, isDestructive_of_rejected? hf⟩
    rw [findings_tableDifference]
    apply List.mem_append_left
    apply List.mem_flatMap.mpr
    refine ⟨c, hc, ?_⟩
    rw [findings_columnDifference]
    exact List.mem_append_right _ (Option.mem_toList.mpr hf)

end TableShape

/-! ### What speaks against a schema -/

/-- What a change loses of live columns. -/
def Change.losses (live : Schema) : Change → List Finding
  | rebuild t _ _ => (live.table? t.name).elim [] t.losses
  | create _ => []
  | indexes .. => []

namespace Schema

variable {target live : Schema} {format : String}

/-- Whether a column of a target table requires a reference of existing rows that they do not
have. -/
def Rejects (target live : Schema) : Prop :=
  ∃ t ∈ target.shapes, ∃ current ∈ live.table? t.name, ∃ c ∈ t.columns, t.rejects current c

/-- What the changes of a schema lose of live columns. -/
def losses (target live : Schema) (format : String) : List Finding :=
  (target.changes live format).flatMap (·.losses live)

/-- What is lost of a table is lost by its change. -/
theorem losses_changeFor? (live : Schema) (format : String) (t : TableShape) :
  (changeFor? live format t).elim [] (·.losses live) = (live.table? t.name).elim [] t.losses
  := by
  cases hcurrent : live.table? t.name with
  | none =>
      rw [changeFor?, hcurrent]
      rfl
  | some current =>
      rw [changeFor?, hcurrent]
      dsimp only [tableChange?]
      split
      · next hempty =>
          -- A table that is not made anew has lost nothing.
          have hnone : t.losses current = [] := by
            rw [← t.filter_tableDifference current format]
            apply List.filter_eq_nil_iff.mpr
            intro f hf hloses
            exact reasons_tableDifference_ne_nil hf hloses (List.isEmpty_iff.mp hempty)
          rw [Option.elim_some, hnone]
          cases hchange : indexChange? t current with
          | none => rfl
          | some c =>
              rw [indexChange?_eq_some hchange]
              rfl
      · rw [Option.elim_some, Change.losses, hcurrent]

/-- What is lost is lost table by table. -/
theorem losses_eq (target live : Schema) (format : String) :
  target.losses live format = target.shapes.flatMap fun t => (live.table? t.name).elim [] t.losses
  := by
  have hchange (t : TableShape) : (changeFor? live format t).toList.flatMap (·.losses live) =
      (live.table? t.name).elim [] t.losses := by
    rw [← losses_changeFor? live format]
    cases changeFor? live format t <;> simp
  rw [losses, changes, List.filterMap_eq_flatMap_toList, List.flatMap_assoc]
  simp only [hchange]

/-- What needs permission for a schema is what its changes lose. -/
theorem filter_findings (target live : Schema) (format : String) :
  (target.findings live format).filter (·.isDestructive) = target.losses live format
  := by
  have hfindings (t : TableShape) : (findingsFor live format t).filter (·.isDestructive) =
      (live.table? t.name).elim [] t.losses := by
    unfold findingsFor
    cases live.table? t.name with
    | none => rfl
    | some current => exact t.filter_tableDifference current format
  rw [findings, List.filter_flatMap, losses_eq]
  simp only [hfindings]

/-- Whatever else speaks against a schema is that a column requires a reference. -/
theorem exists_findings_iff (target live : Schema) (format : String) :
  (∃ f ∈ target.findings live format, f.isDestructive = false) ↔ target.Rejects live
  := by
  unfold Rejects findings
  simp only [List.mem_flatMap, ← TableShape.exists_tableDifference_iff _ _ format]
  constructor
  · rintro ⟨f, ⟨t, ht, hf⟩, hkept⟩
    unfold findingsFor at hf
    split at hf
    · cases hf
    · next current hcurrent => exact ⟨t, ht, current, hcurrent, f, hf, hkept⟩
  · rintro ⟨t, ht, current, hcurrent, f, hf, hkept⟩
    refine ⟨f, ⟨t, ht, ?_⟩, hkept⟩
    rwa [findingsFor, Option.mem_def.mp hcurrent]

end Schema

/-! ### Columns that are lost -/

/-- The table and the column that a finding names. -/
def Finding.place : Finding → String × String
  | retyped table column _ _ => (table, column)
  | dropped table column => (table, column)
  | addedReference table column => (table, column)
  | tightenedReference table column => (table, column)

/-- Whether two findings name the same column of the same table. -/
def Finding.SamePlace (f g : Finding) : Prop :=
  sameName f.place.1 g.place.1 ∧ sameName f.place.2 g.place.2

namespace TableShape

variable {t live : TableShape} {c current : ColumnShape}

/-- What is lost of a table names its columns. -/
theorem table_of_mem_losses {f : Finding} (h : f ∈ t.losses live) :
  f.place.1 = t.name
  := by
  rcases List.mem_append.mp h with h | h
  · obtain ⟨c, -, hf⟩ := List.mem_filterMap.mp h
    obtain ⟨current, -, -, rfl⟩ := retyped?_eq_some_iff.mp hf
    rfl
  · obtain ⟨current, -, hf⟩ := List.mem_filterMap.mp h
    obtain ⟨-, rfl⟩ := dropped?_eq_some_iff.mp hf
    rfl

/-- No column of a table is lost twice if columns have different names. -/
theorem losses_once (ht : DistinctNames ColumnShape.name t.columns)
    (hlive : DistinctNames ColumnShape.name live.columns) :
  (t.losses live).Pairwise fun f g => ¬ f.SamePlace g
  := by
  apply List.pairwise_append.mpr
  refine ⟨?_, ?_, ?_⟩
  · apply List.Pairwise.filterMap _ _ ht
    intro c d hne f hf g hg hsame
    obtain ⟨_, -, -, rfl⟩ := retyped?_eq_some_iff.mp hf
    obtain ⟨_, -, -, rfl⟩ := retyped?_eq_some_iff.mp hg
    exact hne hsame.2
  · apply List.Pairwise.filterMap _ _ hlive
    intro c d hne f hf g hg hsame
    obtain ⟨-, rfl⟩ := dropped?_eq_some_iff.mp hf
    obtain ⟨-, rfl⟩ := dropped?_eq_some_iff.mp hg
    exact hne hsame.2
  · -- A column of the target is not one that is dropped.
    intro f hf g hg hsame
    obtain ⟨c, hc, hf⟩ := List.mem_filterMap.mp hf
    obtain ⟨current, -, hg⟩ := List.mem_filterMap.mp hg
    obtain ⟨_, -, -, rfl⟩ := retyped?_eq_some_iff.mp hf
    obtain ⟨hnone, rfl⟩ := dropped?_eq_some_iff.mp hg
    exact List.find?_eq_none.mp hnone c hc hsame.2

end TableShape

namespace Schema

variable {target live : Schema} {format : String}

/-- Whether tables and the columns of each table have different names. -/
structure Named (s : Schema) : Prop where
  tables : DistinctNames TableShape.name s.shapes
  columns : ∀ t ∈ s.shapes, DistinctNames ColumnShape.name t.columns

/-- No live column is lost twice if tables and columns have different names. -/
theorem losses_once (htarget : target.Named) (hlive : live.Named) :
  (target.losses live format).Pairwise fun f g => ¬ f.SamePlace g
  := by
  have hmem (t : TableShape) (f : Finding) (hf : f ∈ (live.table? t.name).elim [] t.losses) :
      f.place.1 = t.name := by
    cases hcurrent : live.table? t.name with
    | none =>
        rw [hcurrent] at hf
        cases hf
    | some current =>
        rw [hcurrent] at hf
        exact TableShape.table_of_mem_losses hf
  rw [losses_eq, List.pairwise_flatMap]
  constructor
  · intro t ht
    cases hcurrent : live.table? t.name with
    | none => exact List.Pairwise.nil
    | some current =>
        exact TableShape.losses_once (htarget.columns t ht)
          (hlive.columns current (mem_shapes_of_table? hcurrent))
  · apply htarget.tables.imp
    intro t u hne f hf g hg hsame
    apply hne
    rw [← hmem t f hf, ← hmem u g hg]
    exact hsame.1

/-! ### Plans -/

/-- There is no plan exactly if something speaks against it that is not allowed. -/
theorem exists_plan_error_iff {options : PlanOptions} :
  (∃ e, target.plan live options = .error e) ↔
    ∃ f ∈ target.findings live options.format, (options.allowDestructive && f.isDestructive) = false
  := by
  cases hplan : target.plan live options with
  | error e =>
      have hnot (plan : MigrationPlan) : target.plan live options ≠ .ok plan := by
        rw [hplan]
        exact fun h => by cases h
      simp only [Except.error.injEq, exists_eq', true_iff]
      by_contra hnone
      apply hnot _ (plan_eq_ok_iff.mpr ⟨_, rfl⟩)
      grind
  | ok plan =>
      obtain ⟨hall, -⟩ := plan_eq_ok_iff.mp hplan
      simp only [reduceCtorEq, exists_false, false_iff]
      rintro ⟨f, hf, hnot⟩
      rw [hall f hf] at hnot
      cases hnot

/-- With permission, the error is that a column requires a reference. -/
theorem error_of_plan {options : PlanOptions} (hallow : options.allowDestructive = true) {e : Error}
    (h : target.plan live options = .error e) :
  ∃ text, e = .ofSchema .tighteningRejected text
  := by
  unfold plan at h
  dsimp only at h
  split at h
  · next first rest hagainst =>
      cases h
      have hfirst : first ∈ first :: rest := List.mem_cons_self
      rw [← hagainst, List.mem_filter, hallow, Bool.true_and] at hfirst
      have hkept : first.isDestructive = false := by simpa using hfirst.2
      have hproblem : first.problem = .tighteningRejected := by
        rw [Finding.problem, hkept]
        rfl
      dsimp only [blocked]
      rw [hproblem]
      exact ⟨_, rfl⟩
  · cases h

/-- What permission to lose values changes about plans. -/
structure Permits (target live : Schema) (format : String) : Prop where
  /-- A plan that needs no permission is the same with it, and warns of nothing. -/
  unneeded : ∀ plan, target.plan live ⟨false, format⟩ = .ok plan →
    target.plan live ⟨true, format⟩ = .ok plan ∧ plan.warnings = []
  /-- With permission there is no plan exactly if a column requires a reference. -/
  refused_iff : (∃ e, target.plan live ⟨true, format⟩ = .error e) ↔ target.Rejects live
  refused : ∀ e, target.plan live ⟨true, format⟩ = .error e →
    ∃ text, e = .ofSchema .tighteningRejected text
  /-- Without permission there is no plan either if something is lost. -/
  blocked_iff : (∃ e, target.plan live ⟨false, format⟩ = .error e) ↔
    target.Rejects live ∨ target.losses live format ≠ []
  /-- There is a warning for everything that is lost. -/
  warned : ∀ plan, target.plan live ⟨true, format⟩ = .ok plan →
    plan.changes = target.changes live format ∧
      plan.warnings = (target.losses live format).map (·.message)
  /-- Nothing is lost twice if tables and columns have different names. -/
  once : target.Named → live.Named →
    (target.losses live format).Pairwise fun f g => ¬ f.SamePlace g

/-- Permission allows exactly what loses values of live columns, and warns of it column by column,
whatever the schemas are. -/
theorem permits (target live : Schema) (format : String) :
  target.Permits live format
  := by
  have hrejects := exists_findings_iff target live format
  have hlosses := filter_findings target live format
  constructor
  · intro plan hplan
    obtain ⟨hall, rfl⟩ := plan_eq_ok_iff.mp hplan
    have hnone : target.findings live format = [] := by
      apply List.eq_nil_iff_forall_not_mem.mpr
      intro f hf
      exact Bool.false_ne_true (hall f hf)
    rw [plan_eq_ok_iff, hnone]
    simp
  · rw [exists_plan_error_iff]
    simpa using hrejects
  · intro e he
    exact error_of_plan rfl he
  · rw [exists_plan_error_iff, ← hrejects, ← hlosses]
    constructor
    · rintro ⟨f, hf, -⟩
      cases hloses : f.isDestructive with
      | false => exact .inl ⟨f, hf, hloses⟩
      | true => exact .inr (List.ne_nil_of_mem (List.mem_filter.mpr ⟨hf, hloses⟩))
    · rintro (⟨f, hf, -⟩ | hne)
      · exact ⟨f, hf, rfl⟩
      · obtain ⟨f, hf⟩ := List.exists_mem_of_ne_nil _ hne
        exact ⟨f, (List.mem_filter.mp hf).1, rfl⟩
  · intro plan hplan
    obtain ⟨hall, rfl⟩ := plan_eq_ok_iff.mp hplan
    have hkept : (target.findings live format).filter (·.isDestructive) =
        target.findings live format :=
      List.filter_eq_self.mpr fun f hf => by simpa using hall f hf
    rw [← hlosses, hkept]
    exact ⟨rfl, rfl⟩
  · exact losses_once

end Schema

/-- The table of labels, with two columns whose names differ in case only. -/
def labelTable : TableShape where
  name := "Label"
  columns := [⟨"Id", "INTEGER", false, true⟩, ⟨"Name", "TEXT", false, false⟩,
    ⟨"name", "INTEGER", false, false⟩, ⟨"IsActive", "BOOLEAN", false, false⟩]

/-- A live table of labels with one name, of another type than both. -/
def measuredLabels : TableShape where
  name := "Label"
  columns := [⟨"Id", "INTEGER", false, true⟩, ⟨"Name", "REAL", false, false⟩,
    ⟨"IsActive", "BOOLEAN", false, false⟩]

/-- There are two warnings for one column of the live labels, whose type changes. -/
theorem label_warned_twice :
  ∃ r plan, Registry.build ⟨[label], []⟩ = .ok r ∧ r.target = .ok (Schema.empty.put labelTable) ∧
    (Schema.empty.put labelTable).plan (Schema.empty.put measuredLabels)
      { allowDestructive := true } = .ok plan ∧
    plan.warnings = ["Label.Name: type would change from REAL to TEXT",
      "Label.name: type would change from REAL to INTEGER"]
  := by
  have hbuild : Registry.build ⟨[label], []⟩ = .ok ⟨[label.draft.descriptor]⟩ := by rfl
  refine ⟨_, _, hbuild, by decide +kernel, rfl, ?_⟩
  decide +kernel

end EntityStore
