import EntityStore.Proofs.Schema.Catalog
import EntityStore.Proofs.Schema.Registered

/-!
# Indexes that a target does not know

A database can have indexes that the target does not know, under names of their own.  A change of
indexes leaves them alone, but a table that is made anew keeps none of its indexes: it gets those
of the target instead.  So what the last change that makes its table anew puts on it decides about
an index.
-/

namespace EntityStore

open Text

/-- The new table of a name, if a change makes one in place of the old. -/
def Change.rebuilt? (table : String) : Change → Option TableShape
  | rebuild t _ _ => if sameName t.name table then some t else none
  | _ => none

/-- Whether a table has an index in the end: a new table has those it comes with, and without a
new table there is no change. -/
def IndexShape.IsKept (i : IndexShape) (before : Prop) : Option TableShape → Prop
  | some t => i ∈ t.indexes
  | none => before

theorem IndexShape.isKept_or {i : IndexShape} {before : Prop} {first last : Option TableShape} :
  i.IsKept (i.IsKept before first) last ↔ i.IsKept before (last.or first)
  := by cases last <;> rfl

theorem IndexShape.isKept_iff {i : IndexShape} {before : Prop} (h : before)
    {last : Option TableShape} :
  i.IsKept before last ↔ ∀ t ∈ last, i ∈ t.indexes
  := by cases last <;> simp [IsKept, h]

/-- A database can have a schema: no two tables have the same name, and no two indexes. -/
structure Schema.Installable (s : Schema) : Prop where
  proper : s.Proper
  indexes : DistinctNames IndexShape.name (s.shapes.flatMap (·.indexes))

namespace Catalog

variable {s s' : Catalog} {target live : Schema} {format : String} {u : TableShape}
  {i : IndexShape}

/-- In the catalog of a schema, the indexes of its tables are in place. -/
theorem inPlace_ofSchema (hu : u ∈ live.shapes) (hi : i ∈ u.indexes) :
  (ofSchema live).InPlace u.name i
  := by
  refine ⟨(u.name, i), ?_, sameName_refl _, rfl⟩
  apply List.mem_flatMap.mpr
  exact ⟨u, hu, List.mem_map_of_mem hi⟩

theorem coherent_ofSchema (live : Schema) :
  (ofSchema live).Coherent
  := by
  rintro table i ⟨entry, hentry, hsame, -⟩
  obtain ⟨t, ht, hmem⟩ := List.mem_flatMap.mp hentry
  obtain ⟨j, -, rfl⟩ := List.mem_map.mp hmem
  exact hasTable_iff.mpr ⟨t.name, List.mem_map_of_mem ht, hsame⟩

/-- Only a change that makes its table anew decides about an index that the target does not
own. -/
theorem inPlace_change (hlive : live.Installable) (hu : u ∈ live.shapes) (hi : i ∈ u.indexes)
    (hforeign : ¬ i.isOwned) {t : TableShape} {c : Change}
    (hc : changeFor? live format t = some c) (hs : s.Coherent)
    (h : s.run? c.steps = some s') :
  s'.InPlace u.name i ↔ i.IsKept (s.InPlace u.name i) (c.rebuilt? u.name)
  := by
  have hfound : ∀ name, sameName name u.name → live.table? name = some u := by
    intro name hsame
    exact hlive.proper.table?_eq_some_iff.mpr ⟨hu, sameName_symm hsame⟩
  rcases Schema.changeFor?_eq_some hc with
    ⟨hnone, rfl⟩ | ⟨current, hcurrent, ⟨-, rfl⟩ | ⟨-, hindex⟩⟩
  · -- The new table is another one.
    have hother : ¬ sameName t.name u.name := by
      intro hsame
      rw [hfound _ hsame] at hnone
      cases hnone
    obtain ⟨s₁, hcreate, hindexes⟩ := exists_of_run?_cons h
    obtain ⟨-, -, hcreated⟩ := step?_createTable hcreate
    rw [run?_indexSteps hindexes, hcreated]
    simp [hother, IndexShape.IsKept, Change.rebuilt?]
  · obtain ⟨s₁, hrebuild, hindexes⟩ := exists_of_run?_append h
    rw [run?_indexSteps hindexes, run?_rebuildSteps hs hrebuild, Change.rebuilt?]
    by_cases hsame : sameName t.name u.name <;> simp [hsame, IndexShape.IsKept]
  · cases indexChange?_eq_some hindex
    obtain ⟨s₁, hdrop, hindexes⟩ := exists_of_run?_append h
    rw [run?_indexSteps hindexes, run?_dropIndexes hdrop]
    have hkept : ∀ name ∈ ((current.indexes.filter fun j =>
        j.isOwned && !t.indexes.contains j).map (·.name)), ¬ sameName i.name name := by
      intro name hname hsame
      obtain ⟨j, hj, rfl⟩ := List.mem_map.mp hname
      obtain ⟨hmem, howned⟩ := List.mem_filter.mp hj
      have hcurrent := Schema.mem_shapes_of_table? hcurrent
      obtain rfl := hlive.indexes.eq_of_mem (List.mem_flatMap.mpr ⟨u, hu, hi⟩)
        (List.mem_flatMap.mpr ⟨current, hcurrent, hmem⟩) hsame
      exact hforeign (Bool.and_eq_true_iff.mp howned).1
    have hnotAdded : ¬ (sameName t.name u.name ∧
        i ∈ t.indexes.filter fun j => !current.indexes.contains j) := by
      rintro ⟨hsame, hadded⟩
      obtain rfl := Option.some.inj (hcurrent.symm.trans (hfound _ hsame))
      simp [hi] at hadded
    exact (or_iff_left hnotAdded).trans (and_iff_left hkept)

/-- Of the changes of a plan, the last one that makes its table anew decides about an index that
the target does not own. -/
theorem inPlace_changes (hlive : live.Installable) (hu : u ∈ live.shapes) (hi : i ∈ u.indexes)
    (hforeign : ¬ i.isOwned) {changes : List Change}
    (hchanges : ∀ c ∈ changes, ∃ t, changeFor? live format t = some c) (hs : s.Coherent)
    (h : s.run? (changes.flatMap (·.steps)) = some s') :
  s'.InPlace u.name i ↔
    i.IsKept (s.InPlace u.name i) (changes.filterMap (·.rebuilt? u.name)).getLast?
  := by
  induction changes generalizing s with
  | nil =>
      cases h
      rfl
  | cons c changes ih =>
      obtain ⟨⟨t, hc⟩, hrest⟩ := List.forall_mem_cons.mp hchanges
      rw [List.flatMap_cons] at h
      obtain ⟨s₁, hfirst, hlast⟩ := exists_of_run?_append h
      have hchange := inPlace_change hlive hu hi hforeign hc hs hfirst
      rw [ih hrest (hs.run? hfirst) hlast, hchange, IndexShape.isKept_or, List.filterMap_cons]
      cases c.rebuilt? u.name with
      | none => rw [Option.or_none]
      | some t =>
          rw [List.getLast?_cons]
          cases (changes.filterMap (·.rebuilt? u.name)).getLast? <;> rfl

end Catalog

/-! ### Plans -/

/-- The indexes of a descriptor have names of the kind that plans own. -/
theorem Descriptor.isOwned_of_shape {d : Descriptor} {t : TableShape} (h : d.shape = .ok t)
    {i : IndexShape} (hi : i ∈ t.indexes) :
  i.isOwned
  := by
  obtain ⟨declared, -, heq⟩ := exists_of_bind_ok h
  cases heq
  rw [TableShape.normalize, List.mem_mergeSort] at hi
  obtain ⟨columns, -, rfl⟩ := List.mem_map.mp hi
  simp [IndexShape.isOwned, indexShape, indexName, toString, List.append_assoc]

theorem Registry.isOwned_of_target {m : Model} {r : Registry} {target : Schema}
    (hbuild : Registry.build m = .ok r) (htarget : r.target = .ok target) {t : TableShape}
    (ht : t ∈ target.shapes) {i : IndexShape} (hi : i ∈ t.indexes) :
  i.isOwned
  := by
  obtain ⟨-, hmem⟩ := (Registry.accepted_of_build hbuild).proper_target htarget
  obtain ⟨d, -, hshape⟩ := (hmem t).mp ht
  apply Descriptor.isOwned_of_shape hshape hi

/-- A table that is made anew is one of the target. -/
theorem Schema.mem_shapes_of_rebuilt? {target live : Schema} {format table : String} {c : Change}
    {t : TableShape} (hc : c ∈ target.changes live format) (h : c.rebuilt? table = some t) :
  t ∈ target.shapes
  := by
  unfold Change.rebuilt? at h
  split at h
  · next u copies reasons =>
      obtain ⟨-, heq⟩ := Option.ite_none_right_eq_some.mp h
      obtain rfl := Option.some.inj heq
      exact (Schema.exists_of_rebuild_mem hc).1
  · cases h

/-- When the statements of a plan are executed, an index of a live table that plans do not own
stays in place exactly if its table is not made anew, or if the last new table comes with it.
The tables of a registry have no such indexes, so with them it stays exactly if its table is not
made anew. -/
theorem index_stays_iff {target live : Schema} {options : PlanOptions} {plan : MigrationPlan}
    (hlive : live.Installable) (hplan : target.plan live options = .ok plan) {u : TableShape}
    (hu : u ∈ live.shapes) {i : IndexShape} (hi : i ∈ u.indexes) (hforeign : ¬ i.isOwned)
    {final : Catalog} (hrun : (Catalog.ofSchema live).run? plan.steps = some final) :
  plan.steps.map (·.sql) = plan.statements ∧
  (final.InPlace u.name i ↔
    ∀ t ∈ (plan.changes.filterMap (·.rebuilt? u.name)).getLast?, i ∈ t.indexes) ∧
  ∀ m r, Registry.build m = .ok r → r.target = .ok target →
    (final.InPlace u.name i ↔ ∀ c ∈ plan.changes, c.rebuilt? u.name = none)
  := by
  have hplaced := Catalog.inPlace_ofSchema hu hi
  obtain ⟨-, rfl⟩ := Schema.plan_eq_ok_iff.mp hplan
  have hchanges : ∀ c ∈ target.changes live options.format,
      ∃ t, changeFor? live options.format t = some c := by
    intro c hc
    obtain ⟨t, -, ht⟩ := List.mem_filterMap.mp hc
    exact ⟨t, ht⟩
  have hiff := Catalog.inPlace_changes hlive hu hi hforeign hchanges
    (Catalog.coherent_ofSchema live) hrun
  have hkept := hiff.trans (IndexShape.isKept_iff hplaced)
  refine ⟨MigrationPlan.sql_steps _, hkept, ?_⟩
  intro m r hbuild htarget
  rw [← List.filterMap_eq_nil_iff]
  apply hkept.trans
  constructor
  · intro hlast
    by_contra hne
    -- The last new table would have the index, but it is one of the target.
    obtain ⟨c, hc, hnew⟩ := List.mem_filterMap.mp (List.getLast_mem hne)
    have ht := Schema.mem_shapes_of_rebuilt? hc hnew
    have hi := hlast _ (List.getLast?_eq_some_getLast hne)
    exact hforeign (Registry.isOwned_of_target hbuild htarget ht hi)
  · intro hnone t ht
    dsimp only at hnone
    rw [hnone] at ht
    cases ht

/-- The index of names that items have besides those of the target. -/
def byName : IndexShape :=
  ⟨"by_name", ["Name"]⟩

/-- A table of items without the index of the target. -/
def indexedItems : TableShape :=
  { itemTable with indexes := [byName] }

/-- The index stays in place when the table gets that of the target. -/
theorem index_of_items_stays :
  let live := Schema.empty.put indexedItems
  ∃ plan final, items.plan live {} = .ok plan ∧ plan.changes ≠ [] ∧ live.Installable ∧
    indexedItems ∈ live.shapes ∧ byName ∈ indexedItems.indexes ∧ ¬ byName.isOwned ∧
    (Catalog.ofSchema live).run? plan.steps = some final ∧
    final.InPlace indexedItems.name byName
  := by
  intro live
  let plan : MigrationPlan := ⟨items.changes live Calendar.defaultFormat, []⟩
  have hplan : items.plan live {} = .ok plan := by decide +kernel
  have hlive : live.Installable := ⟨Schema.Proper.empty.put _, by decide +kernel⟩
  have hshape : indexedItems ∈ live.shapes := by decide +kernel
  have hindex : byName ∈ indexedItems.indexes := List.mem_singleton_self _
  have hforeign : ¬ byName.isOwned := by decide +kernel
  have hrun : ∃ final, (Catalog.ofSchema live).run? plan.steps = some final :=
    Option.isSome_iff_exists.mp (by decide +kernel)
  obtain ⟨final, hfinal⟩ := hrun
  obtain ⟨-, hstays, -⟩ := index_stays_iff hlive hplan hshape hindex hforeign hfinal
  refine ⟨plan, final, hplan, by decide +kernel, hlive, hshape, hindex, hforeign, hfinal,
    hstays.mpr ?_⟩
  have hnone : plan.changes.filterMap (·.rebuilt? indexedItems.name) = [] := by decide +kernel
  intro t ht
  rw [hnone] at ht
  cases ht

/-- The index is lost when items get a name, although the new table has the column. -/
theorem index_of_unnamed_items_lost :
  let table := { unnamedItems with name := "Item", indexes := [byName] }
  let live := Schema.empty.put table
  ∃ r plan final, Registry.build ⟨[item], []⟩ = .ok r ∧ r.target = .ok items ∧
    items.plan live {} = .ok plan ∧ live.Installable ∧ table ∈ live.shapes ∧
    byName ∈ table.indexes ∧ ¬ byName.isOwned ∧
    (∀ name ∈ byName.columns, (itemTable.column? name).isSome) ∧
    (Catalog.ofSchema live).run? plan.steps = some final ∧ ¬ final.InPlace table.name byName
  := by
  intro table live
  obtain ⟨r, hbuild, htarget⟩ := target_item
  let plan : MigrationPlan := ⟨items.changes live Calendar.defaultFormat, []⟩
  exact ⟨r, plan, ⟨["Item"], [("Item", ⟨"IX_Item_Name", ["Name"]⟩)]⟩, hbuild, htarget,
    by decide +kernel, ⟨Schema.Proper.empty.put _, by decide +kernel⟩, by decide +kernel,
    List.mem_singleton_self _, by decide +kernel, by decide +kernel, by decide +kernel,
    by decide +kernel⟩

end EntityStore
