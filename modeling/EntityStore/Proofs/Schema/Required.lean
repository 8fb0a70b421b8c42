import EntityStore.Proofs.Schema.Drift
import EntityStore.Proofs.Schema.Rows

/-!
# Required columns of tables that are made anew

When a table is made anew, each column that cannot be null takes something that is null for no row
of the old table.  So every row of the old table becomes one that the new table allows, and none
is refused for a null.
-/

namespace EntityStore

open Text Sql

/-! ### Expressions that are never null -/

/-- An expression is null for no row of a table: it is a column that cannot be null there, a
column with a literal for null, or a literal. -/
inductive CopyValue.NeverNull (live : TableShape) : CopyValue → Prop
  | column {name : String} {c : ColumnShape} (hc : live.column? name = some c)
      (hrequired : c.nullable = false) : NeverNull live (.column name)
  | columnOr {name fallback : String} {c : ColumnShape} {v : Value}
      (hc : live.column? name = some c) (hv : IsLiteral fallback v) (hnull : v ≠ .null) :
      NeverNull live (.columnOr name fallback)
  | literal {sql : String} {v : Value} (hv : IsLiteral sql v) (hnull : v ≠ .null) :
      NeverNull live (.literal sql)

section

variable {live : TableShape} {format : String} {c : ColumnShape} {cs : List ColumnShape}

/-- What is never null has a value other than null for every row. -/
theorem CopyValue.NeverNull.exists_valueOf? {value : CopyValue} (h : value.NeverNull live)
    {row : Row} (hrow : live.Holds row) :
  ∃ v, row.valueOf? value.sql = some v ∧ v ≠ .null
  := by
  cases h with
  | column hc hrequired =>
      obtain ⟨v, hv, hnull⟩ := hrow.exists_named? hc
      exact ⟨v, (Row.valueOf?_column _).trans hv, hnull hrequired⟩
  | @columnOr name fallback c v hc hv hnull =>
      obtain ⟨w, hw, -⟩ := hrow.exists_named? hc
      rw [Row.valueOf?_columnOr _ hv, hw]
      refine ⟨_, rfl, ?_⟩
      cases w <;> first | exact hnull | simp [Value.isNull]
  | literal hv hnull => exact ⟨_, Row.valueOf?_literal hv, hnull⟩

/-- A column that cannot be null takes what is never null. -/
theorem exists_taken?_of_required (hrequired : c.nullable = false) :
  ∃ value, c.taken? live format = some value ∧ value.NeverNull live
  := by
  obtain ⟨v, hv, hnull⟩ := exists_isLiteral_backfill c.sqlType format
  unfold ColumnShape.taken?
  cases hcurrent : live.column? c.name with
  | none =>
      rw [hrequired]
      exact ⟨_, rfl, .literal hv hnull⟩
  | some current =>
      have hname : sameName current.name c.name := by simpa using List.find?_some hcurrent
      have hself := (TableShape.column?_congr hname).trans hcurrent
      refine ⟨_, rfl, ?_⟩
      unfold CopyValue.ofColumn
      split
      · exact .columnOr hself hv hnull
      · next hloose => exact .column hself (by simpa [hrequired] using hloose)

/-! ### Copies -/

/-- Something is copied into columns of a table only. -/
theorem exists_of_mem_copiesOf {copy : ColumnCopy} (h : copy ∈ copiesOf live format cs) :
  ∃ c ∈ cs, copy.column = c.name ∧ c.taken? live format = some copy.value
  := by
  obtain ⟨c, hc, hmap⟩ := List.mem_filterMap.mp h
  obtain ⟨value, htaken, rfl⟩ := Option.map_eq_some_iff.mp hmap
  exact ⟨c, hc, rfl, htaken⟩

/-- What a column takes is copied. -/
theorem mem_copiesOf {value : CopyValue} (hc : c ∈ cs) (h : c.taken? live format = some value) :
  ⟨c.name, value⟩ ∈ copiesOf live format cs
  := List.mem_filterMap.mpr ⟨c, hc, by rw [h]; rfl⟩

/-- Nothing is copied twice into a column. -/
theorem distinct_copiesOf (h : DistinctNames ColumnShape.name cs) :
  DistinctNames ColumnCopy.column (copiesOf live format cs)
  := by
  apply List.Pairwise.filterMap _ _ h
  intro c d hne copy hcopy copy' hcopy'
  obtain ⟨value, -, rfl⟩ := Option.map_eq_some_iff.mp hcopy
  obtain ⟨value', -, rfl⟩ := Option.map_eq_some_iff.mp hcopy'
  exact hne

/-! ### Rows -/

/-- If each member of a list has a result of a kind, the list has results of that kind. -/
theorem exists_mapM_eq_some {α β : Type} {f : α → Option β} {P : α → β → Prop} {as : List α}
    (h : ∀ a ∈ as, ∃ b, f a = some b ∧ P a b) :
  ∃ bs, as.mapM f = some bs ∧ List.Forall₂ P as bs
  := by
  induction as with
  | nil => exact ⟨[], rfl, .nil⟩
  | cons a as ih =>
      obtain ⟨⟨b, hb, hab⟩, hrest⟩ := List.forall_mem_cons.mp h
      obtain ⟨bs, hbs, hall⟩ := ih hrest
      exact ⟨b :: bs, by simp [List.mapM_cons, hb, hbs], .cons hab hall⟩

/-- A row of the old table becomes one that the new table allows. -/
theorem exists_refilled? (format : String) {t : TableShape}
    (hcolumns : DistinctNames ColumnShape.name t.columns) {row : Row} (hrow : live.Holds row) :
  ∃ new, t.refilled? (copiesOf live format t.columns) row = some new ∧ t.Holds new
  := by
  have hfilled : ∀ c ∈ t.columns, ∃ v,
      c.filled? (copiesOf live format t.columns) row = some v ∧
        (c.nullable = false → v ≠ .null) := by
    intro c hc
    obtain ⟨v, hv, hnull⟩ := exists_isLiteral_backfill c.sqlType format
    refine ⟨_, filled?_eq hcolumns hc hrow hv, ?_⟩
    intro hrequired
    rw [hrequired]
    cases row.named? c.name with
    | none => exact hnull
    | some w => cases w <;> first | exact hnull | simp [Value.isNull]
  obtain ⟨values, hvalues, hall⟩ := exists_mapM_eq_some hfilled
  exact ⟨⟨_, values⟩, by simp [TableShape.refilled?, hvalues], rfl, hall⟩

end

/-! ### Plans -/

/-- The table of a descriptor has the key and the activation flag. -/
theorem Descriptor.mem_columns_of_shape {d : Descriptor} {t : TableShape} (h : d.shape = .ok t) :
  keyShape ∈ t.columns ∧ activeShape ∈ t.columns
  := by
  obtain ⟨declared, -, heq⟩ := exists_of_bind_ok h
  cases heq
  simp [TableShape.normalize]

/-- A table of the target has the key and the activation flag. -/
theorem Registry.mem_columns_of_target {m : Model} {r : Registry} {target : Schema}
    (hbuild : Registry.build m = .ok r) (htarget : r.target = .ok target) {t : TableShape}
    (ht : t ∈ target.shapes) :
  Descriptor.keyShape ∈ t.columns ∧ Descriptor.activeShape ∈ t.columns
  := by
  obtain ⟨-, hmem⟩ := (Registry.accepted_of_build hbuild).proper_target htarget
  obtain ⟨d, -, hshape⟩ := (hmem t).mp ht
  apply Descriptor.mem_columns_of_shape hshape

/-- When a plan makes a table anew, something is copied, at most once into each column and into
no others, and into each column that cannot be null something that is null for no row of the live
table.  So no row is refused for a null: each becomes one that the new table allows. -/
theorem required_filled {m : Model} {r : Registry} {target live : Schema}
    {options : PlanOptions} {plan : MigrationPlan}
    (hbuild : Registry.build m = .ok r) (htarget : r.target = .ok target)
    (hcolumns : ∀ t ∈ target.shapes, DistinctNames ColumnShape.name t.columns)
    (hplan : target.plan live options = .ok plan) {t : TableShape} {copies : List ColumnCopy}
    {reasons : List Reason} (hrebuild : .rebuild t copies reasons ∈ plan.changes) :
  copies ≠ [] ∧ DistinctNames ColumnCopy.column copies ∧
  (∀ copy ∈ copies, ∃ c ∈ t.columns, copy.column = c.name) ∧
  ∃ current, live.table? t.name = some current ∧
    (∀ c ∈ t.columns, c.nullable = false →
      ∃ value, ⟨c.name, value⟩ ∈ copies ∧ value.NeverNull current ∧
        ∀ row, current.Holds row → ∃ v, row.valueOf? value.sql = some v ∧ v ≠ .null) ∧
    ∀ row, current.Holds row → ∃ new, t.refilled? copies row = some new ∧ t.Holds new
  := by
  obtain ⟨ht, current, hcurrent, rfl⟩ := Schema.copies_of_plan hplan hrebuild
  have hdistinct := hcolumns t ht
  have hrequired : ∀ c ∈ t.columns, c.nullable = false → ∃ value,
      ⟨c.name, value⟩ ∈ copiesOf current options.format t.columns ∧ value.NeverNull current := by
    intro c hc hnull
    obtain ⟨value, htaken, hnever⟩ := exists_taken?_of_required hnull
    exact ⟨value, mem_copiesOf hc htaken, hnever⟩
  refine ⟨?_, distinct_copiesOf hdistinct, ?_, current, hcurrent, ?_, ?_⟩
  · -- The key is never null, so that something is always copied into it.
    obtain ⟨hkey, -⟩ := Registry.mem_columns_of_target hbuild htarget ht
    obtain ⟨value, hmem, -⟩ := hrequired _ hkey rfl
    exact List.ne_nil_of_mem hmem
  · intro copy hcopy
    obtain ⟨c, hc, hname, -⟩ := exists_of_mem_copiesOf hcopy
    exact ⟨c, hc, hname⟩
  · intro c hc hnull
    obtain ⟨value, hmem, hnever⟩ := hrequired c hc hnull
    exact ⟨value, hmem, hnever, fun row hrow => hnever.exists_valueOf? hrow⟩
  · intro row hrow
    apply exists_refilled? options.format hdistinct hrow

/-- A row without a name becomes an item whose name is a dash. -/
theorem items_filled :
  let live := Schema.empty.put unnamedItems
  let row : Row := ⟨["Id", "Name", "IsActive"], [.int 7, .null, .int 0]⟩
  ∃ r plan copies reasons, Registry.build ⟨[item], []⟩ = .ok r ∧ r.target = .ok items ∧
    items.plan live {} = .ok plan ∧ .rebuild itemTable copies reasons ∈ plan.changes ∧
    unnamedItems.Holds row ∧ (∃ new, itemTable.refilled? copies row = some new ∧
      itemTable.Holds new) ∧
    (itemTable.refilled? copies row).map (·.values) = some [.int 7, .text "-", .int 0]
  := by
  intro live row
  obtain ⟨r, hbuild, htarget⟩ := target_item
  let plan : MigrationPlan := ⟨items.changes live Calendar.defaultFormat, []⟩
  have hplan : items.plan live {} = .ok plan := by decide +kernel
  let difference := tableDifference itemTable unnamedItems Calendar.defaultFormat
  have hmem : .rebuild itemTable difference.copies difference.reasons ∈ plan.changes := by
    decide +kernel
  have hrow : unnamedItems.Holds row := ⟨rfl, by simp [unnamedItems, row]⟩
  obtain ⟨-, -, -, current, hcurrent, -, hfilled⟩ :=
    required_filled hbuild htarget (by decide +kernel) hplan hmem
  have hlive : live.table? itemTable.name = some unnamedItems := by decide +kernel
  obtain rfl := Option.some.inj (hlive.symm.trans hcurrent)
  exact ⟨r, plan, _, _, hbuild, htarget, hplan, hmem, hrow, hfilled row hrow, by decide +kernel⟩

end EntityStore
