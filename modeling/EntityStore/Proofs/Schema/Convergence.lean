import EntityStore.Proofs.Schema.Difference
import EntityStore.Proofs.Schema.Registered

/-!
# Convergence of plans

Applying the changes of a plan makes a live schema one that has all tables of the target, so
that nothing is planned for it any more.
-/

namespace EntityStore

open Text

/-! ### What changes do -/

/-- A table without the indexes of some names and with others. -/
def TableShape.reindex (t : TableShape) (added : List IndexShape) (removed : List String) :
    TableShape :=
  { t with indexes := (t.indexes.filter fun i => !removed.any (sameName i.name)) ++ added }

/-- What a change makes of the table of its name. -/
def Change.outcome : Change → Option TableShape → Option TableShape
  | create t, _ => some t
  | rebuild target _ _, _ => some target
  | indexes _ added removed, live => live.map (·.reindex added removed)

namespace Schema

variable {s : Schema}

/-- The schema after a change. -/
def apply (s : Schema) (c : Change) : Schema :=
  match c.outcome (s.table? c.table) with
  | some t => s.put t
  | none => s

/-- The schema after all changes of a plan. -/
def migrate (s : Schema) (plan : MigrationPlan) : Schema :=
  plan.changes.foldl apply s

/-- The spelling of a name does not matter. -/
theorem Proper.table?_congr (h : s.Proper) {name other : String} (hsame : sameName name other) :
  s.table? name = s.table? other
  := by
  apply Option.ext
  intro t
  rw [h.table?_eq_some_iff, h.table?_eq_some_iff, sameName_iff, sameName_iff,
    sameName_iff.mp hsame]

/-- A change leaves a table of its name. -/
theorem Proper.sameName_outcome (h : s.Proper) {c : Change} {t : TableShape}
    (ht : c.outcome (s.table? c.table) = some t) :
  sameName t.name c.table
  := by
  cases c with
  | create u =>
      cases ht
      apply sameName_refl
  | rebuild u copies reasons =>
      cases ht
      apply sameName_refl
  | indexes table added removed =>
      obtain ⟨u, hu, rfl⟩ := Option.map_eq_some_iff.mp ht
      exact (h.table?_eq_some_iff.mp hu).2

/-- A change keeps a schema proper. -/
theorem Proper.apply (h : s.Proper) (c : Change) :
  (s.apply c).Proper
  := by
  unfold Schema.apply
  split
  · apply h.put
  · exact h

/-- A change concerns the table of its name only. -/
theorem Proper.table?_apply (h : s.Proper) (c : Change) (name : String) :
  (s.apply c).table? name =
    if sameName c.table name then c.outcome (s.table? c.table) else s.table? name
  := by
  unfold Schema.apply
  cases hc : c.outcome (s.table? c.table) with
  | some t =>
      have hsame := sameName_iff.mp (h.sameName_outcome hc)
      simp only [h.table?_put, sameName_iff, hsame]
  | none =>
      cases c with
      | create u => cases hc
      | rebuild u copies reasons => cases hc
      | indexes table added removed =>
          have hnone := Option.map_eq_none_iff.mp hc
          simp only
          split
          · next hname => rw [← h.table?_congr hname, hnone]
          · rfl

variable {change : TableShape → Option Change}

/-- If a table has a change of its name, it becomes the outcome of it, and otherwise all
tables stay as they are. -/
theorem Proper.table?_step (h : s.Proper) {t : TableShape}
    (hchange : ∀ c, change t = some c → c.table = t.name) (name : String) :
  ((change t).elim s s.apply).table? name =
    if sameName t.name name then (change t).elim id Change.outcome (s.table? t.name)
    else s.table? name
  := by
  cases hc : change t with
  | none =>
      simp only [Option.elim_none, id]
      split
      · next hname => rw [h.table?_congr hname]
      · rfl
  | some c =>
      rw [← hchange c hc]
      apply h.table?_apply

/-- Changes of tables of different names act on each table by itself. -/
theorem Proper.table?_foldl_apply {ts : List TableShape} (h : s.Proper)
    (hapart : DistinctNames TableShape.name ts)
    (hchange : ∀ t c, change t = some c → c.table = t.name) (name : String) :
  ((ts.filterMap change).foldl Schema.apply s).table? name =
    match ts.find? fun t => sameName t.name name with
    | some t => (change t).elim id Change.outcome (s.table? t.name)
    | none => s.table? name
  := by
  induction ts generalizing s with
  | nil => rfl
  | cons t ts ih =>
      obtain ⟨ht, hapart⟩ := List.pairwise_cons.mp hapart
      have hstep := h.table?_step (hchange t)
      have hproper : ((change t).elim s s.apply).Proper := by
        cases change t with
        | none => exact h
        | some c => apply h.apply
      have hfold : ((t :: ts).filterMap change).foldl Schema.apply s =
          (ts.filterMap change).foldl Schema.apply ((change t).elim s s.apply) := by
        cases hc : change t <;> simp [hc]
      rw [hfold, ih hproper hapart]
      simp only [List.find?_cons]
      cases hname : sameName t.name name with
      | true =>
          -- Its own change is the only one that concerns the table.
          have hrest : (ts.find? fun u => sameName u.name name) = none := by
            apply List.find?_eq_none.mpr
            intro u hu hsame
            apply ht u hu (sameName_trans hname (sameName_symm hsame))
          simp only [hrest, hstep, hname, if_true]
      | false =>
          cases hu : ts.find? fun u => sameName u.name name with
          | some u => simp only [hstep, if_neg (ht u (List.mem_of_find?_eq_some hu))]
          | none => simp only [hstep, if_neg (Bool.eq_false_iff.mp hname)]

end Schema

/-! ### Indexes -/

/-- Nothing is to be done about the indexes of a table exactly if it has those of the target
and no others that are owned. -/
theorem indexChange?_eq_none_iff {target live : TableShape} :
  indexChange? target live = none ↔
    (∀ i ∈ target.indexes, i ∈ live.indexes) ∧
      ∀ i ∈ live.indexes, i.isOwned → i ∈ target.indexes
  := by
  unfold indexChange?
  simp

/-- A live table has everything that the target has, and no other indexes that are owned. -/
def IsSettled (target live : TableShape) : Prop :=
  Matches target live ∧ indexChange? target live = none

/-- A table is settled as it is. -/
theorem isSettled_self {t : TableShape} (h : DistinctNames ColumnShape.name t.columns) :
  IsSettled t t
  := by
  use matches_self h
  rw [indexChange?_eq_none_iff]
  exact ⟨fun i hi => hi, fun i hi _ => hi⟩

/-- A table is settled by the change of its indexes. -/
theorem isSettled_of_indexChange? {target live : TableShape} {c : Change}
    (hmatches : Matches target live) (hindexes : DistinctNames IndexShape.name live.indexes)
    (h : indexChange? target live = some c) :
  ∃ u, c.outcome (some live) = some u ∧ IsSettled target u
  := by
  rw [indexChange?_eq_some h]
  refine ⟨_, rfl, hmatches.with_indexes _, ?_⟩
  rw [indexChange?_eq_none_iff]
  simp only [TableShape.reindex, List.mem_append, List.mem_filter]
  constructor
  · intro i hi
    by_cases hlive : i ∈ live.indexes
    · left
      use hlive
      rw [Bool.not_eq_true', List.any_eq_false]
      intro name hname hsame
      obtain ⟨j, hj, rfl⟩ := List.mem_map.mp hname
      obtain ⟨hj, hgone⟩ := List.mem_filter.mp hj
      rw [← hindexes.eq_of_mem hlive hj hsame] at hgone
      simp [hi] at hgone
    · right
      use hi
      simpa using hlive
  · rintro i (⟨hi, hkept⟩ | ⟨hi, -⟩) howned
    · by_contra hnot
      rw [Bool.not_eq_true', List.any_eq_false] at hkept
      have hgone : i.name ∈ (live.indexes.filter fun i => i.isOwned &&
          !target.indexes.contains i).map (·.name) := by
        apply List.mem_map_of_mem
        simp [hi, howned, hnot]
      exact hkept i.name hgone (sameName_refl i.name)
    · exact hi

/-! ### Plans -/

/-- Nothing is planned for a live schema in which every table of the target is settled. -/
theorem Schema.plan_of_isSettled {target live : Schema}
    (h : ∀ t ∈ target.shapes, ∃ u, live.table? t.name = some u ∧ IsSettled t u)
    (options : PlanOptions) :
  target.plan live options = .ok {}
  := by
  have hfindings : target.findings live options.format = [] := by
    apply List.flatMap_eq_nil_iff.mpr
    intro t ht
    obtain ⟨u, hu, hmatches, -⟩ := h t ht
    simp only [findingsFor, hu, (hmatches options.format).2]
  have hchanges : target.changes live options.format = [] := by
    apply List.filterMap_eq_nil_iff.mpr
    intro t ht
    obtain ⟨u, hu, hmatches, hindexes⟩ := h t ht
    simp [changeFor?, tableChange?, hu, hmatches options.format, hindexes]
  rw [Schema.plan_eq_ok_iff, hfindings, hchanges]
  simp

/-- A live table is settled by its change, unless more than lost values speaks against it. -/
theorem isSettled_of_tableChange? {target live : TableShape} {format : String}
    (hcolumns : DistinctNames ColumnShape.name target.columns)
    (hindexes : DistinctNames IndexShape.name live.indexes)
    (hallowed : ∀ f ∈ (tableDifference target live format).findings, f.isDestructive) :
  ∃ u, (tableChange? target live format).elim id Change.outcome (some live) = some u ∧
    IsSettled target u
  := by
  by_cases hreasons : (tableDifference target live format).reasons = []
  · have hmatches := matches_of_reasons hreasons hallowed
    have hchange : tableChange? target live format = indexChange? target live := by
      simp [tableChange?, hreasons]
    rw [hchange]
    cases hc : indexChange? target live with
    | none => exact ⟨live, rfl, hmatches, hc⟩
    | some c => apply isSettled_of_indexChange? hmatches hindexes hc
  · have hchange : tableChange? target live format = some (.rebuild target
        (tableDifference target live format).copies
        (tableDifference target live format).reasons) := by
      simp [tableChange?, hreasons]
    rw [hchange]
    exact ⟨target, rfl, isSettled_self hcolumns⟩

/-- A table of the target is settled by its change. -/
theorem isSettled_of_changeFor? {live : Schema} {format : String} {t : TableShape}
    (hcolumns : DistinctNames ColumnShape.name t.columns)
    (hindexes : ∀ u ∈ live.table? t.name, DistinctNames IndexShape.name u.indexes)
    (hallowed : ∀ f ∈ findingsFor live format t, f.isDestructive) :
  ∃ u, (changeFor? live format t).elim id Change.outcome (live.table? t.name) = some u ∧
    IsSettled t u
  := by
  unfold changeFor?
  unfold findingsFor at hallowed
  cases hlive : live.table? t.name with
  | none => exact ⟨t, rfl, isSettled_self hcolumns⟩
  | some u =>
      rw [hlive] at hallowed
      apply isSettled_of_tableChange? hcolumns (hindexes u hlive) hallowed

/-- Planning converges in one pass: once its changes are made, nothing is planned any more,
whatever the options are.  In particular nothing is planned for the tables of the target
themselves, whichever tables and whichever indexes that are not owned there are besides. -/
theorem plan_converges {m : Model} {r : Registry} {target : Schema}
    (hbuild : Registry.build m = .ok r) (htarget : r.target = .ok target)
    (hcolumns : ∀ t ∈ target.shapes, DistinctNames ColumnShape.name t.columns) :
  (∀ live options plan, live.Proper →
    (∀ u ∈ live.shapes, DistinctNames IndexShape.name u.indexes) →
    target.plan live options = .ok plan →
    ∀ later, target.plan (live.migrate plan) later = .ok {}) ∧
  ∀ live options, (∀ t ∈ target.shapes, ∃ indexes others,
      live.table? t.name = some { t with indexes } ∧ indexes.Perm (t.indexes ++ others) ∧
      ∀ i ∈ others, ¬ i.isOwned) →
    target.plan live options = .ok {}
  := by
  obtain ⟨hproper, -⟩ := (Registry.accepted_of_build hbuild).proper_target htarget
  constructor
  · intro live options plan hlive hindexes hplan
    obtain ⟨hfindings, rfl⟩ := Schema.plan_eq_ok_iff.mp hplan
    apply Schema.plan_of_isSettled
    intro t ht
    have hfind : (target.shapes.find? fun u => sameName u.name t.name) = some t :=
      hproper.distinct.find?_eq_some_iff.mpr ⟨ht, sameName_refl t.name⟩
    have hfinal := hlive.table?_foldl_apply hproper.distinct
      (fun t c => @Schema.table_of_changeFor? live options.format t c) t.name
    rw [hfind] at hfinal
    unfold Schema.migrate Schema.changes
    rw [hfinal]
    apply isSettled_of_changeFor? (hcolumns t ht)
    · intro u hu
      apply hindexes u (hlive.table?_eq_some_iff.mp hu).1
    · intro f hf
      have hallowed := hfindings f (List.mem_flatMap.mpr ⟨t, ht, hf⟩)
      exact (Bool.and_eq_true_iff.mp hallowed).2
  · intro live options hlive
    apply Schema.plan_of_isSettled
    intro t ht
    obtain ⟨indexes, others, hu, hperm, hothers⟩ := hlive t ht
    refine ⟨_, hu, (matches_self (hcolumns t ht)).with_indexes indexes, ?_⟩
    rw [indexChange?_eq_none_iff]
    constructor
    · intro i hi
      apply hperm.mem_iff.mpr (List.mem_append_left _ hi)
    · intro i hi howned
      rcases List.mem_append.mp (hperm.mem_iff.mp hi) with hi | hi
      · exact hi
      · exact absurd howned (hothers i hi)

/-- Items are made anew, and then nothing is planned for them any more.  Neither another
table nor an index that is not owned is planned for. -/
theorem items_converge :
  let live := Schema.empty.put unnamedItems
  let flagged : TableShape :=
    { itemTable with indexes := ⟨"ByFlag", ["IsActive"]⟩ :: itemTable.indexes }
  ∃ r plan, Registry.build ⟨[item], []⟩ = .ok r ∧ r.target = .ok items ∧
    items.plan live {} = .ok plan ∧ plan.changes.length = 1 ∧
    items.plan (live.migrate plan) {} = .ok {} ∧
    items.plan ((Schema.empty.put flagged).put { name := "Log" }) {} = .ok {}
  := by
  intro live flagged
  obtain ⟨r, hbuild, htarget⟩ := target_item
  have hconverges := plan_converges hbuild htarget (by decide +kernel)
  let plan : MigrationPlan := ⟨items.changes live Calendar.defaultFormat, []⟩
  have hplan : items.plan live {} = .ok plan := by decide +kernel
  refine ⟨r, plan, hbuild, htarget, hplan, by decide +kernel, ?_, ?_⟩
  · apply hconverges.1 live {} plan (Schema.Proper.empty.put unnamedItems) _ hplan
    decide +kernel
  · apply hconverges.2
    intro t ht
    have hshapes : items.shapes = [itemTable] := by decide +kernel
    rw [hshapes, List.mem_singleton] at ht
    obtain rfl := ht
    have hlive : ((Schema.empty.put flagged).put { name := "Log" }).table? itemTable.name =
        some flagged := by decide +kernel
    exact ⟨_, [⟨"ByFlag", ["IsActive"]⟩], hlive, (List.perm_append_singleton _ _).symm,
      by decide +kernel⟩

end EntityStore
