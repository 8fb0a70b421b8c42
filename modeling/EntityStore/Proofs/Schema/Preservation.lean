import EntityStore.Proofs.Schema.Difference
import EntityStore.Proofs.Schema.Registered
import EntityStore.Proofs.Schema.Steps

/-!
# Preservation of values

Unless it is allowed to lose values, a plan makes a table anew only if each of its columns is
taken over by the column of its name, in one place.  The rows are taken over after the new
table has been made and before the old one is dropped.  Other tables are left alone.
-/

namespace EntityStore

open Text

/-! ### Columns that are taken over -/

/-- The live column that is read for a column of a new table. -/
def CopyValue.source? : CopyValue → Option String
  | column name => some name
  | columnOr name _ => some name
  | literal _ => none

/-- What a target column takes from a live one: the column, or a literal where that is null
but the target must not be. -/
def CopyValue.ofColumn (c live : ColumnShape) (format : String) : CopyValue :=
  if live.nullable && !c.nullable then .columnOr live.name (backfill c.sqlType format)
  else .column live.name

/-- A live column is read in one place, for a target column of its name and with a type of
the same values. -/
def TakesOver (target : TableShape) (copies : List ColumnCopy) (format : String)
    (live : ColumnShape) : Prop :=
  ∃ c ∈ target.columns, sameName c.name live.name ∧
    (c.sameType live ∨ c.isTextResize live) ∧
    ∃ before after, copies = before ++ ⟨c.name, .ofColumn c live format⟩ :: after ∧
      ∀ copy ∈ before ++ after, ∀ name ∈ copy.value.source?, ¬ sameName name live.name

section

variable {target live : TableShape} {format : String} {c current : ColumnShape}

/-- A target column reads no live column but that of its name. -/
theorem sameName_of_mem_copies {copy : ColumnCopy}
    (hcopy : copy ∈ (columnDifference target live format c).copies) {name : String}
    (hname : name ∈ copy.value.source?) :
  sameName name c.name
  := by
  cases hcurrent : live.column? c.name with
  | none =>
      rw [columnDifference_of_none hcurrent] at hcopy
      unfold addedColumn at hcopy
      grind [CopyValue.source?]
  | some current =>
      have hsame := List.find?_some hcurrent
      rw [columnDifference_of_some hcurrent] at hcopy
      simp only [Difference.copies_append, copies_changedType, List.nil_append] at hcopy
      have hsource : copy.value.source? = some current.name := by
        split at hcopy
        · unfold tightenedColumn at hcopy
          split at hcopy
          · cases hcopy
          · rw [List.mem_singleton.mp hcopy]
            rfl
        · rw [List.mem_singleton.mp hcopy]
          rfl
      rw [hsource] at hname
      cases hname
      exact hsame

/-- A target column against which nothing speaks takes over the live column of its name. -/
theorem copies_columnDifference (hcurrent : live.column? c.name = some current)
    (hfindings : (columnDifference target live format c).findings = []) :
  (c.sameType current ∨ c.isTextResize current) ∧
    (columnDifference target live format c).copies =
      [⟨c.name, .ofColumn c current format⟩]
  := by
  rw [columnDifference_of_some hcurrent] at hfindings ⊢
  rw [Difference.findings_append, List.append_eq_nil_iff] at hfindings
  obtain ⟨htype, hnull⟩ := hfindings
  simp only [Difference.copies_append, copies_changedType, List.nil_append]
  constructor
  · unfold changedType at htype
    grind
  · unfold CopyValue.ofColumn
    split at hnull
    · next htight =>
        unfold tightenedColumn at hnull ⊢
        split at hnull
        · cases hnull
        · next hfree => rw [if_pos htight, if_pos htight, if_neg hfree]
    · next hloose =>
        rw [if_neg hloose, if_neg hloose]
        rfl

/-- If nothing speaks against the change of a table, all its columns are taken over. -/
theorem takesOver_of_findings (htarget : DistinctNames ColumnShape.name target.columns)
    (hlive : DistinctNames ColumnShape.name live.columns)
    (hfindings : (tableDifference target live format).findings = [])
    (hcurrent : current ∈ live.columns) :
  TakesOver target (tableDifference target live format).copies format current
  := by
  rw [findings_tableDifference, List.append_eq_nil_iff] at hfindings
  obtain ⟨hkept, hdropped⟩ := hfindings
  rw [List.flatMap_eq_nil_iff] at hkept hdropped
  have hfound : ∃ c, target.column? current.name = some c := by
    have hnot := hdropped current hcurrent
    unfold droppedColumn at hnot
    split at hnot
    · cases hnot
    · next hsome => exact Option.ne_none_iff_exists'.mp (by simpa using hsome)
  obtain ⟨c, hcolumn⟩ := hfound
  obtain ⟨hc, hsame⟩ := (TableShape.column?_eq_some_iff htarget).mp hcolumn
  have hback : live.column? c.name = some current :=
    (TableShape.column?_eq_some_iff hlive).mpr ⟨hcurrent, sameName_symm hsame⟩
  obtain ⟨htype, hcopies⟩ := copies_columnDifference hback (hkept c hc)
  obtain ⟨before, after, hsplit⟩ := List.append_of_mem hc
  let copiesOf (d : ColumnShape) := (columnDifference target live format d).copies
  have hcopied : (tableDifference target live format).copies = before.flatMap copiesOf ++
      ⟨c.name, .ofColumn c current format⟩ :: after.flatMap copiesOf := by
    rw [copies_tableDifference, hsplit, List.flatMap_append, List.flatMap_cons, hcopies]
    rfl
  refine ⟨c, hc, hsame, htype, _, _, hcopied, ?_⟩
  -- Another target column that read the same live column would have the same name.
  intro copy hcopy name hname hread
  rw [← List.flatMap_append] at hcopy
  obtain ⟨d, hd, hcopy⟩ := List.mem_flatMap.mp hcopy
  apply (hsplit ▸ htarget).not_sameName_of_split hd
  have hsource := sameName_of_mem_copies hcopy hname
  apply sameName_trans (sameName_symm hsource) (sameName_trans hread (sameName_symm hsame))

end

/-! ### Plans -/

/-- If no values may be lost, a plan is made only if nothing is found. -/
theorem Schema.findings_of_plan {target live : Schema} {options : PlanOptions}
    {plan : MigrationPlan} (hforce : options.allowDestructive = false)
    (hplan : target.plan live options = .ok plan) :
  ∀ t ∈ target.shapes, findingsFor live options.format t = []
  := by
  obtain ⟨hallowed, -⟩ := Schema.plan_eq_ok_iff.mp hplan
  intro t ht
  apply List.eq_nil_iff_forall_not_mem.mpr
  intro f hf
  have hnot := hallowed f (List.mem_flatMap.mpr ⟨t, ht, hf⟩)
  rw [hforce] at hnot
  cases hnot

/-- Unless it is allowed to lose values, a plan takes over every column of a table that it
makes anew, between making the new table and dropping the old one, which is dropped nowhere
else.  A live table that is not in the target occurs in a statement only if that is one of a
table that has its name while it is made anew. -/
theorem values_preserved {m : Model} {r : Registry} {target live : Schema}
    {options : PlanOptions} {plan : MigrationPlan}
    (hbuild : Registry.build m = .ok r) (htarget : r.target = .ok target)
    (hcolumns : ∀ t ∈ target.shapes, DistinctNames ColumnShape.name t.columns)
    (hlive : ∀ u ∈ live.shapes, DistinctNames ColumnShape.name u.columns)
    (hforce : options.allowDestructive = false)
    (hplan : target.plan live options = .ok plan) :
  plan.steps.map (·.sql) = plan.statements ∧
  (∀ t copies reasons, .rebuild t copies reasons ∈ plan.changes →
    ∃ current, live.table? t.name = some current ∧
      (∀ c ∈ current.columns, TakesOver t copies options.format c) ∧
      ∃ before after, plan.steps = before ++ rebuildSteps t copies ++ after ∧
        ∀ step ∈ before ++ after, ∀ name ∈ step.dropped?, ¬ sameName name t.name) ∧
  ∀ u ∈ live.shapes, (∀ t ∈ target.shapes, ¬ sameName t.name u.name) →
    ∀ step ∈ plan.steps, ∀ name ∈ step.tables, sameName name u.name →
      ∃ c ∈ plan.changes, step ∈ c.steps ∧ c.temporary? = some name
  := by
  have hfindings := Schema.findings_of_plan hforce hplan
  obtain ⟨-, rfl⟩ := Schema.plan_eq_ok_iff.mp hplan
  have haccepted := Registry.accepted_of_build hbuild
  obtain ⟨hproper, -⟩ := haccepted.proper_target htarget
  refine ⟨MigrationPlan.sql_steps _, ?_, ?_⟩
  · intro t copies reasons hmem
    obtain ⟨ht, current, hcurrent, rfl⟩ := Schema.exists_of_rebuild_mem hmem
    have hfound := hfindings t ht
    simp only [findingsFor, hcurrent] at hfound
    refine ⟨current, hcurrent, ?_, ?_⟩
    · intro c hc
      have hcurrent := hlive current (Schema.mem_shapes_of_table? hcurrent)
      apply takesOver_of_findings (hcolumns t ht) hcurrent hfound hc
    · apply MigrationPlan.exists_rebuildSteps _ hmem
      apply Schema.distinctNames_changes hproper.distinct
  · intro u hu habsent step hstep name hname hsame
    obtain ⟨c, hc, hstep⟩ := List.mem_flatMap.mp hstep
    obtain ⟨t, ht, hchange⟩ := List.mem_filterMap.mp hc
    rcases Change.mem_tables hstep hname with rfl | hmaking | ⟨r, hr, rfl⟩
    · rw [Schema.table_of_changeFor? hchange] at hsame
      exact absurd hsame (habsent t ht)
    · exact ⟨c, hc, hstep, hmaking⟩
    · obtain ⟨v, hv, hreference⟩ := haccepted.closed_target htarget ht
        (Change.references_of_changeFor? hchange hr)
      exact absurd (sameName_trans hreference hsame) (habsent v hv)

/-- All columns of items are taken over, and a log is left alone. -/
theorem items_preserved :
  let live := (Schema.empty.put unnamedItems).put { name := "Log" }
  ∃ r plan, Registry.build ⟨[item], []⟩ = .ok r ∧ r.target = .ok items ∧
    items.plan live {} = .ok plan ∧
    (∃ copies reasons, .rebuild itemTable copies reasons ∈ plan.changes ∧
      ∀ c ∈ unnamedItems.columns, TakesOver itemTable copies Calendar.defaultFormat c) ∧
    ∀ step ∈ plan.steps, ∀ name ∈ step.tables, ¬ sameName name "Log"
  := by
  intro live
  obtain ⟨r, hbuild, htarget⟩ := target_item
  let plan : MigrationPlan := ⟨items.changes live Calendar.defaultFormat, []⟩
  have hplan : items.plan live {} = .ok plan := by decide +kernel
  obtain ⟨-, hcopied, hothers⟩ := @values_preserved _ r items live {} plan hbuild htarget
    (by decide +kernel) (by decide +kernel) rfl hplan
  refine ⟨r, plan, hbuild, htarget, hplan, ?_, ?_⟩
  · let difference := tableDifference itemTable unnamedItems Calendar.defaultFormat
    have hmem : .rebuild itemTable difference.copies difference.reasons ∈ plan.changes := by
      decide +kernel
    obtain ⟨current, hcurrent, htaken, -⟩ := hcopied _ _ _ hmem
    have hlive : live.table? itemTable.name = some unnamedItems := by decide +kernel
    obtain rfl := Option.some.inj (hlive.symm.trans hcurrent)
    exact ⟨_, _, hmem, htaken⟩
  · intro step hstep name hname hsame
    have hlog : { name := "Log" } ∈ live.shapes := by decide +kernel
    obtain ⟨c, hc, -, hmaking⟩ := hothers _ hlog (by decide +kernel) step hstep name hname hsame
    have hfree : ∀ c ∈ plan.changes, ∀ name ∈ c.temporary?, ¬ sameName name "Log" := by
      decide +kernel
    exact hfree c hc name hmaking hsame

/-- A table that was left over under the name that items have while they are made anew. -/
def leftover : TableShape where
  name := "__rebuild_Item"
  columns := [⟨"Id", "INTEGER", false, true⟩]

/-- Items with two columns whose names differ in case only. -/
def twinItems : TableShape :=
  { unnamedItems with columns := unnamedItems.columns ++ [⟨"NAME", "TEXT", true, false⟩] }

/-- The leftover table is not in the target, but it occurs in the statements that make items
anew.  Of two columns whose names differ in case only, one is not read. -/
theorem leftover_occurs :
  let live := (Schema.empty.put unnamedItems).put leftover
  let twins := Schema.empty.put twinItems
  ∃ r plan other, Registry.build ⟨[item], []⟩ = .ok r ∧ r.target = .ok items ∧
    (∀ t ∈ items.shapes, DistinctNames ColumnShape.name t.columns) ∧
    (items.plan live {} = .ok plan ∧
      (∀ u ∈ live.shapes, DistinctNames ColumnShape.name u.columns) ∧
      leftover ∈ live.shapes ∧ (∀ t ∈ items.shapes, ¬ sameName t.name leftover.name) ∧
      ∃ step ∈ plan.steps, leftover.name ∈ step.tables) ∧
    items.plan twins {} = .ok other ∧ (twinItems.columns.map (·.name)).Nodup ∧
      ∃ t copies reasons, other.changes = [.rebuild t copies reasons] ∧
        ∀ copy ∈ copies, copy.value.source? ≠ some "NAME"
  := by
  intro live twins
  obtain ⟨r, hbuild, htarget⟩ := target_item
  let planned (live : Schema) : MigrationPlan := ⟨items.changes live Calendar.defaultFormat, []⟩
  let difference := tableDifference itemTable twinItems Calendar.defaultFormat
  refine ⟨r, planned live, planned twins, hbuild, htarget, by decide +kernel,
    ⟨by decide +kernel, by decide +kernel, by decide +kernel, by decide +kernel,
      by decide +kernel⟩, by decide +kernel, by decide +kernel,
    itemTable, difference.copies, difference.reasons, by decide +kernel, by decide +kernel⟩

end EntityStore
