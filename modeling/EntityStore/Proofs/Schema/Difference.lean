import EntityStore.Proofs.Schema.Tables
import EntityStore.Schema.Plan

/-!
# Differences of tables

The reasons to make a table anew, what it then takes over, and what speaks against it are
those of its columns and constraints.  What would lose values is always a reason too, so
that nothing destructive is found in a table that is not made anew.
-/

namespace EntityStore

open Text

/-! ### Parts of differences -/

namespace Difference

@[simp] theorem reasons_append (d e : Difference) :
  (d ++ e).reasons = d.reasons ++ e.reasons
  := rfl

@[simp] theorem copies_append (d e : Difference) :
  (d ++ e).copies = d.copies ++ e.copies
  := rfl

@[simp] theorem findings_append (d e : Difference) :
  (d ++ e).findings = d.findings ++ e.findings
  := rfl

/-- What is taken from each of two differences is taken from all of them. -/
theorem apply_all {α : Type} {part : Difference → List α} (hempty : part {} = [])
    (happend : ∀ d e : Difference, part (d ++ e) = part d ++ part e) (ds : List Difference) :
  part (all ds) = ds.flatMap part
  := by
  have hfrom : ∀ d, part (ds.foldl (· ++ ·) d) = part d ++ ds.flatMap part := by
    induction ds with
    | nil => simp
    | cons e ds ih =>
        intro d
        rw [List.foldl_cons, ih, happend, List.append_assoc, List.flatMap_cons]
  rw [all, hfrom, hempty, List.nil_append]

@[simp] theorem reasons_all (ds : List Difference) :
  (all ds).reasons = ds.flatMap (·.reasons)
  := apply_all rfl reasons_append ds

@[simp] theorem copies_all (ds : List Difference) :
  (all ds).copies = ds.flatMap (·.copies)
  := apply_all rfl copies_append ds

@[simp] theorem findings_all (ds : List Difference) :
  (all ds).findings = ds.flatMap (·.findings)
  := apply_all rfl findings_append ds

end Difference

/-! ### Columns -/

section

variable {target live : TableShape} {c current : ColumnShape}

theorem columnDifference_of_none {format : String} (h : live.column? c.name = none) :
  columnDifference target live format c = addedColumn target format c
  := by rw [columnDifference, h]

theorem columnDifference_of_some {format : String} (h : live.column? c.name = some current) :
  columnDifference target live format c = changedType target c current ++
    if current.nullable && !c.nullable then tightenedColumn target live format c current
    else keptColumn c current
  := by rw [columnDifference, h]

@[simp] theorem copies_changedType (target : TableShape) (c current : ColumnShape) :
  (changedType target c current).copies = []
  := by
  unfold changedType
  split
  · rfl
  · split <;> rfl

/-- What would lose values of a column is a reason to make the table anew. -/
theorem reasons_columnDifference_ne_nil {format : String} {f : Finding}
    (hf : f ∈ (columnDifference target live format c).findings) (hloses : f.isDestructive) :
  (columnDifference target live format c).reasons ≠ []
  := by
  cases hcurrent : live.column? c.name with
  | none =>
      rw [columnDifference_of_none hcurrent] at hf
      unfold addedColumn at hf
      split at hf
      · cases hf
      · split at hf
        · rw [List.mem_singleton.mp hf] at hloses
          cases hloses
        · cases hf
  | some current =>
      rw [columnDifference_of_some hcurrent] at hf ⊢
      rw [Difference.findings_append, List.mem_append] at hf
      rw [Difference.reasons_append]
      rcases hf with htype | hnull
      · apply List.append_ne_nil_of_left_ne_nil
        unfold changedType at htype ⊢
        grind
      · split at hnull
        · unfold tightenedColumn at hnull
          split at hnull
          · rw [List.mem_singleton.mp hnull] at hloses
            cases hloses
          · cases hnull
        · cases hnull

/-- Neither the reasons nor the findings of a column depend on the format. -/
theorem columnDifference_format (target live : TableShape) (format other : String)
    (c : ColumnShape) :
  (columnDifference target live format c).reasons =
      (columnDifference target live other c).reasons ∧
    (columnDifference target live format c).findings =
      (columnDifference target live other c).findings
  := by
  cases hcurrent : live.column? c.name with
  | none =>
      simp only [columnDifference_of_none hcurrent, addedColumn]
      grind
  | some current =>
      simp only [columnDifference_of_some hcurrent, tightenedColumn,
        Difference.reasons_append, Difference.findings_append]
      grind

/-- A live column that is dropped takes nothing over. -/
@[simp] theorem copies_droppedColumn (c : ColumnShape) :
  (droppedColumn target c).copies = []
  := by
  unfold droppedColumn
  split <;> rfl

/-- A dropped column is a reason to make the table anew. -/
theorem reasons_droppedColumn_ne_nil {f : Finding}
    (hf : f ∈ (droppedColumn target current).findings) :
  (droppedColumn target current).reasons ≠ []
  := by
  unfold droppedColumn at hf ⊢
  split at hf
  · next hnone =>
      rw [if_pos hnone]
      apply List.cons_ne_nil
  · cases hf

/-! ### Tables -/

/-- The reasons are those of the columns and those of the constraints. -/
theorem reasons_tableDifference (target live : TableShape) (format : String) :
  (tableDifference target live format).reasons =
    target.columns.flatMap (fun c => (columnDifference target live format c).reasons) ++
      live.columns.flatMap (fun c => (droppedColumn target c).reasons) ++
      (referenceReasons target live ++ uniqueReasons target live)
  := by simp [tableDifference, List.flatMap_map]

/-- Only target columns take something over. -/
theorem copies_tableDifference (target live : TableShape) (format : String) :
  (tableDifference target live format).copies =
    target.columns.flatMap fun c => (columnDifference target live format c).copies
  := by simp [tableDifference, List.flatMap_map]

/-- Only columns can speak against a change. -/
theorem findings_tableDifference (target live : TableShape) (format : String) :
  (tableDifference target live format).findings =
    target.columns.flatMap (fun c => (columnDifference target live format c).findings) ++
      live.columns.flatMap (fun c => (droppedColumn target c).findings)
  := by simp [tableDifference, List.flatMap_map]

/-- Neither the reasons nor the findings of a table depend on the format. -/
theorem tableDifference_format (target live : TableShape) (format other : String) :
  (tableDifference target live format).reasons =
      (tableDifference target live other).reasons ∧
    (tableDifference target live format).findings =
      (tableDifference target live other).findings
  := by
  simp only [reasons_tableDifference, findings_tableDifference,
    columnDifference_format target live format other, and_self]

/-- What would lose values is a reason to make the table anew. -/
theorem reasons_tableDifference_ne_nil {format : String} {f : Finding}
    (hf : f ∈ (tableDifference target live format).findings) (hloses : f.isDestructive) :
  (tableDifference target live format).reasons ≠ []
  := by
  rw [findings_tableDifference, List.mem_append] at hf
  simp only [reasons_tableDifference, ne_eq, List.append_eq_nil_iff, List.flatMap_eq_nil_iff]
  rintro ⟨⟨hkept, hdropped⟩, -⟩
  rcases hf with hf | hf
  · obtain ⟨c, hc, hf⟩ := List.mem_flatMap.mp hf
    apply reasons_columnDifference_ne_nil hf hloses (hkept c hc)
  · obtain ⟨c, hc, hf⟩ := List.mem_flatMap.mp hf
    apply reasons_droppedColumn_ne_nil hf (hdropped c hc)

end

/-! ### Plans -/

/-- A plan is made exactly if only what is allowed speaks against it. -/
theorem Schema.plan_eq_ok_iff {target live : Schema} {options : PlanOptions}
    {plan : MigrationPlan} :
  target.plan live options = .ok plan ↔
    (∀ f ∈ target.findings live options.format, options.allowDestructive && f.isDestructive) ∧
      plan = ⟨target.changes live options.format,
        (target.findings live options.format).map (·.message)⟩
  := by
  unfold Schema.plan
  cases hagainst : (target.findings live options.format).filter
    fun f => !(options.allowDestructive && f.isDestructive) with
  | nil =>
      simp only [hagainst, Except.ok.injEq, eq_comm (b := plan)]
      simp only [List.filter_eq_nil_iff, Bool.not_eq_true', Bool.not_eq_false] at hagainst
      simp only [and_iff_right hagainst]
  | cons first rest =>
      have hmem : first ∈ first :: rest := List.mem_cons_self
      rw [← hagainst, List.mem_filter] at hmem
      simp only [hagainst, reduceCtorEq, false_iff]
      rintro ⟨hall, -⟩
      rw [hall first hmem.1] at hmem
      cases hmem.2

/-- The change of the indexes of a table. -/
theorem indexChange?_eq_some {target live : TableShape} {c : Change}
    (h : indexChange? target live = some c) :
  c = .indexes target.name (target.indexes.filter fun i => !live.indexes.contains i)
    ((live.indexes.filter fun i => i.isOwned && !target.indexes.contains i).map (·.name))
  := by
  dsimp only [indexChange?] at h
  split at h
  · cases h
  · cases h
    rfl

namespace Schema

variable {target live : Schema} {format : String}

/-- A table is made if it is not there, is made anew if there is a reason, and otherwise has
its indexes changed. -/
theorem changeFor?_eq_some {t : TableShape} {c : Change}
    (h : changeFor? live format t = some c) :
  (live.table? t.name = none ∧ c = .create t) ∨
    ∃ current, live.table? t.name = some current ∧
      ((tableDifference t current format).reasons ≠ [] ∧
          c = .rebuild t (tableDifference t current format).copies
            (tableDifference t current format).reasons ∨
        (tableDifference t current format).reasons = [] ∧ indexChange? t current = some c)
  := by
  unfold changeFor? at h
  split at h
  · next hnone =>
      cases h
      exact .inl ⟨hnone, rfl⟩
  · next current hcurrent =>
      dsimp only [tableChange?] at h
      refine .inr ⟨current, hcurrent, ?_⟩
      split at h
      · next hempty => exact .inr ⟨List.isEmpty_iff.mp hempty, h⟩
      · next hnonempty =>
          cases h
          exact .inl ⟨fun hnil => hnonempty (List.isEmpty_iff.mpr hnil), rfl⟩

/-- The change of a table has its name. -/
theorem table_of_changeFor? {t : TableShape} {c : Change}
    (h : changeFor? live format t = some c) :
  c.table = t.name
  := by
  rcases changeFor?_eq_some h with ⟨-, rfl⟩ | ⟨current, -, ⟨-, rfl⟩ | ⟨-, hindex⟩⟩
  · rfl
  · rfl
  · rw [indexChange?_eq_some hindex]
    rfl

/-- A table of the target is made anew for its differences from the live table. -/
theorem exists_of_rebuild_mem {t : TableShape} {copies : List ColumnCopy}
    {reasons : List Reason} (h : .rebuild t copies reasons ∈ target.changes live format) :
  t ∈ target.shapes ∧ ∃ current, live.table? t.name = some current ∧
    copies = (tableDifference t current format).copies
  := by
  obtain ⟨u, hu, hchange⟩ := List.mem_filterMap.mp h
  rcases changeFor?_eq_some hchange with ⟨-, heq⟩ | ⟨current, hcurrent, ⟨-, heq⟩ | ⟨-, hindex⟩⟩
  · cases heq
  · cases heq
    exact ⟨hu, current, hcurrent, rfl⟩
  · cases indexChange?_eq_some hindex

/-- There is at most one change of each name. -/
theorem distinctNames_changes (h : DistinctNames TableShape.name target.shapes) :
  DistinctNames Change.table (target.changes live format)
  := by
  apply List.Pairwise.filterMap _ _ h
  intro t u hne c hc d hd
  rwa [table_of_changeFor? hc, table_of_changeFor? hd]

end Schema

/-! ### Tables that differ in nothing -/

/-- A live table has the columns and constraints of the target. -/
def Matches (target live : TableShape) : Prop :=
  ∀ format, (tableDifference target live format).reasons = [] ∧
    (tableDifference target live format).findings = []

variable {t : TableShape}

/-- A column is found exactly under the spellings of its name. -/
theorem TableShape.column?_eq_some_iff (h : DistinctNames ColumnShape.name t.columns)
    {name : String} {c : ColumnShape} :
  t.column? name = some c ↔ c ∈ t.columns ∧ sameName c.name name
  := h.find?_eq_some_iff

/-- A column differs from itself in nothing. -/
theorem columnDifference_self (h : DistinctNames ColumnShape.name t.columns)
    {c : ColumnShape} (hc : c ∈ t.columns) (format : String) :
  columnDifference t t format c = { copies := [⟨c.name, .column c.name⟩] }
  := by
  have hcolumn := (TableShape.column?_eq_some_iff h).mpr ⟨hc, sameName_refl c.name⟩
  have htype : c.sameType c := by simp [ColumnShape.sameType]
  rw [columnDifference_of_some hcolumn]
  simp [changedType, htype, keptColumn]
  rfl

/-- Nothing is to be done about the constraints that a table has itself. -/
theorem constraintReasons_self (t : TableShape) :
  referenceReasons t t ++ uniqueReasons t t = []
  := by
  have hsame : ∀ r ∈ t.references, t.hasReference r := by
    intro r hr
    apply List.any_eq_true.mpr
    use r, hr
    simp [ReferenceShape.sameReference]
  have hfound : ∀ r ∈ t.references, ¬ (t.reference? r.column).isNone := by
    intro r hr hnone
    have hother := List.find?_eq_none.mp (Option.isNone_iff_eq_none.mp hnone) r hr
    apply hother (sameName_refl r.column)
  have hperm : t.uniqueKeys.isPerm t.uniqueKeys := List.isPerm_iff.mpr (List.Perm.refl _)
  simp only [referenceReasons, uniqueReasons, if_pos hperm, List.append_eq_nil_iff,
    List.map_eq_nil_iff, List.filter_eq_nil_iff]
  refine ⟨⟨?_, hfound⟩, trivial⟩
  intro r hr
  simp [hsame r hr]

/-- A table has its own columns and constraints. -/
theorem matches_self (h : DistinctNames ColumnShape.name t.columns) :
  Matches t t
  := by
  have hdropped : ∀ c ∈ t.columns, droppedColumn t c = {} := by
    intro c hc
    have hcolumn := (TableShape.column?_eq_some_iff h).mpr ⟨hc, sameName_refl c.name⟩
    simp [droppedColumn, hcolumn]
  intro format
  rw [reasons_tableDifference, findings_tableDifference, constraintReasons_self]
  simp only [List.append_eq_nil_iff, List.flatMap_eq_nil_iff]
  refine ⟨⟨⟨?_, ?_⟩, trivial⟩, ?_, ?_⟩
  · intro c hc
    rw [columnDifference_self h hc]
  · intro c hc
    rw [hdropped c hc]
  · intro c hc
    rw [columnDifference_self h hc]
  · intro c hc
    rw [hdropped c hc]

/-- If there is no reason to make a table anew, and nothing speaks against that but lost
values, the table has everything. -/
theorem matches_of_reasons {target live : TableShape} {format : String}
    (hreasons : (tableDifference target live format).reasons = [])
    (hallowed : ∀ f ∈ (tableDifference target live format).findings, f.isDestructive) :
  Matches target live
  := by
  have hfindings : (tableDifference target live format).findings = [] := by
    apply List.eq_nil_iff_forall_not_mem.mpr
    intro f hf
    apply reasons_tableDifference_ne_nil hf (hallowed f hf) hreasons
  intro other
  obtain ⟨hr, hf⟩ := tableDifference_format target live other format
  rw [hr, hf]
  exact ⟨hreasons, hfindings⟩

/-- Indexes are no part of what is compared. -/
theorem Matches.with_indexes {target live : TableShape} (h : Matches target live)
    (indexes : List IndexShape) :
  Matches target { live with indexes }
  := h

end EntityStore
