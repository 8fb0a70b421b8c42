import EntityStore.Proofs.Entity.Closed
import EntityStore.Proofs.Schema.Drift
import EntityStore.Proofs.Schema.IndexNames
import EntityStore.Proofs.Schema.NormalForm

/-!
# Respelled columns

A database reports columns in the spelling that they were made with, which may differ in letter case
from that of the target.  Columns, references and unique constraints are compared without regard to
case, but indexes are compared as they are.  So a plan for a live schema in another spelling makes
the indexes over respelled columns again, and does nothing else.
-/

namespace EntityStore

open Text

/-! ### Other spellings -/

/-- A spelling for each column of each table. -/
structure Respelling where
  spell : (table column : String) → String
  sameName_spell : ∀ table column, sameName (spell table column) column

namespace Respelling

variable (f : Respelling)

/-- A column in the spelling of a table. -/
def column (table : String) (c : ColumnShape) : ColumnShape :=
  { c with name := f.spell table c.name }

/-- A reference of a table, whose foreign column has the spelling of the foreign table. -/
def reference (table : String) (r : ReferenceShape) : ReferenceShape :=
  { r with
    column := f.spell table r.column
    foreignColumn := f.spell r.foreignTable r.foreignColumn }

/-- A unique constraint in the spelling of a table. -/
def unique (table : String) (u : UniqueShape) : UniqueShape :=
  { u with columns := u.columns.map (f.spell table) }

/-- An index in the spelling of a table. -/
def index (table : String) (i : IndexShape) : IndexShape :=
  { i with columns := i.columns.map (f.spell table) }

/-- A table with its columns in another spelling, wherever they occur. -/
def table (t : TableShape) : TableShape where
  name := t.name
  columns := t.columns.map (f.column t.name)
  references := t.references.map (f.reference t.name)
  uniques := t.uniques.map (f.unique t.name)
  indexes := t.indexes.map (f.index t.name)

/-- A schema with all columns in another spelling. -/
def schema (s : Schema) : Schema where
  tables := s.tables.map fun (key, t) => (key, f.table t)
  increasing := by
    rw [List.pairwise_map]
    exact s.increasing

/-- The indexes of a table with a column that is respelled. -/
def moved (t : TableShape) : List IndexShape :=
  t.indexes.filter fun i => f.index t.name i ≠ i

/-- A change that makes the moved indexes of a table again. -/
def Remakes (t : TableShape) (change : Change) : Prop :=
  ∃ removed, removed.Perm ((f.moved t).map (·.name)) ∧
    change = .indexes t.name (f.moved t) removed

/-- A live schema has the tables of a target in another spelling, with their constraints and
indexes in any order. -/
def Reaches (target live : Schema) : Prop :=
  ∀ t ∈ target.shapes, ∃ u, live.table? t.name = some u ∧ (f.table t).Rearranges u

variable {f} {t u : TableShape}

/-! ### Columns and constraints -/

theorem column_agrees (table : String) (c : ColumnShape) :
  c.Agrees (f.column table c)
  where
  name := sameName_symm (f.sameName_spell table c.name)
  sqlType := by simp [ColumnShape.sameType, column]
  nullable := rfl
  primaryKey := rfl

theorem reference_agrees (table : String) (r : ReferenceShape) :
  r.Agrees (f.reference table r)
  := by
  have hcolumn := sameName_symm (f.sameName_spell table r.column)
  have hforeign := sameName_symm (f.sameName_spell r.foreignTable r.foreignColumn)
  refine ⟨?_, rfl⟩
  simp [ReferenceShape.sameReference, reference, hcolumn, hforeign]

theorem uniqueKeys_table (t : TableShape) :
  (f.table t).uniqueKeys = t.uniqueKeys
  := by
  have hlower (c : String) : lower (f.spell t.name c) = lower c :=
    sameName_iff.mp (f.sameName_spell t.name c)
  simp [TableShape.uniqueKeys, table, unique, hlower]

/-- Columns of different names have different names in every spelling. -/
theorem distinct_columns (h : DistinctNames ColumnShape.name t.columns) :
  DistinctNames ColumnShape.name (f.table t).columns
  := by
  unfold DistinctNames table
  rw [List.pairwise_map]
  apply h.imp
  intro c d hne hsame
  apply hne
  apply sameName_trans (sameName_symm (f.sameName_spell t.name c.name))
  exact sameName_trans hsame (f.sameName_spell t.name d.name)

end Respelling

/-- What is on one side, up to order, is on the other in another form. -/
theorem Agree.of_perm {α : Type} {same : α → α → Prop} {g : α → α} (hg : ∀ a, same a (g a))
    {as bs : List α} (h : (as.map g).Perm bs) :
  Agree same as bs
  := by
  constructor
  · intro a ha
    exact ⟨g a, h.mem_iff.mp (List.mem_map_of_mem ha), hg a⟩
  · intro b hb
    obtain ⟨a, ha, rfl⟩ := List.mem_map.mp (h.mem_iff.mpr hb)
    exact ⟨a, ha, hg a⟩

/-- A column that agrees with a live one is taken over as it is. -/
theorem columnDifference_of_agrees {target live : TableShape} {c current : ColumnShape}
    (hcurrent : live.column? c.name = some current) (h : c.Agrees current) (format : String) :
  columnDifference target live format c = { copies := [⟨c.name, .column current.name⟩] }
  := by
  rw [columnDifference_of_some hcurrent]
  simp [changedType, h.sqlType, h.nullable, keptColumn, h.primaryKey]
  rfl

/-- A table that agrees has the columns and constraints of the target. -/
theorem TableShape.Agrees.matches {target live : TableShape} (h : target.Agrees live)
    (hlive : DistinctNames ColumnShape.name live.columns) :
  Matches target live
  := by
  have hcolumns : ∀ c ∈ target.columns, ∀ format, ∃ copies,
      columnDifference target live format c = { copies } := by
    intro c hc format
    obtain ⟨d, hd, hagrees⟩ := h.columns.1 c hc
    have hcurrent := (TableShape.column?_eq_some_iff hlive).mpr ⟨hd, sameName_symm hagrees.name⟩
    exact ⟨_, columnDifference_of_agrees hcurrent hagrees format⟩
  have hdropped : ∀ d ∈ live.columns, droppedColumn target d = {} := by
    intro d hd
    obtain ⟨c, hc, hagrees⟩ := h.columns.2 d hd
    have hsome := isSome_column?_iff.mpr ⟨c, hc, hagrees.name⟩
    simp [droppedColumn, Option.isSome_iff_ne_none.mp hsome]
  have hreferences : referenceReasons target live = [] := by
    simp only [referenceReasons, List.append_eq_nil_iff, List.map_eq_nil_iff,
      List.filter_eq_nil_iff, Bool.not_eq_true', Bool.not_eq_false]
    constructor
    · intro r hr
      exact hasReference_iff.mpr (h.references.1 r hr)
    · intro s hs
      obtain ⟨r, hr, hagrees⟩ := h.references.2 s hs
      have hsome := isSome_reference?_iff.mpr ⟨r, hr, hagrees.column⟩
      simp [Option.isSome_iff_ne_none.mp hsome]
  have huniques : uniqueReasons target live = [] := if_pos (List.isPerm_iff.mpr h.uniques)
  intro format
  rw [reasons_tableDifference, findings_tableDifference, hreferences, huniques]
  simp only [List.append_eq_nil_iff, List.flatMap_eq_nil_iff]
  refine ⟨⟨⟨?_, ?_⟩, trivial, trivial⟩, ?_, ?_⟩
  · intro c hc
    obtain ⟨copies, heq⟩ := hcolumns c hc format
    rw [heq]
  · intro d hd
    rw [hdropped d hd]
  · intro c hc
    obtain ⟨copies, heq⟩ := hcolumns c hc format
    rw [heq]
  · intro d hd
    rw [hdropped d hd]

/-- A live table in another spelling has the columns and constraints of the target. -/
theorem Respelling.matches_of_rearranges {f : Respelling} {t u : TableShape}
    (h : DistinctNames ColumnShape.name t.columns) (hu : (f.table t).Rearranges u) :
  Matches t u
  := by
  have hagrees : t.Agrees { u with indexes := t.indexes } := {
    columns := Agree.of_perm (f.column_agrees t.name) (.of_eq hu.columns)
    references := Agree.of_perm (f.reference_agrees t.name) hu.references
    uniques := by
      have hkeys := hu.uniques.map fun v => (v.name, v.columns.map lower)
      exact (f.uniqueKeys_table t) ▸ hkeys
    indexes := fun i _ => Iff.rfl }
  have hdistinct : DistinctNames ColumnShape.name u.columns :=
    hu.columns ▸ distinct_columns h
  exact (hagrees.matches hdistinct).with_indexes u.indexes

/-! ### Indexes -/

/-- The indexes of a table are owned, and spell each column in one way. -/
structure TableShape.SpelledOnce (t : TableShape) : Prop where
  owned : ∀ i ∈ t.indexes, i.isOwned
  spelled : ∀ i ∈ t.indexes, ∀ j ∈ t.indexes, ∀ c ∈ i.columns, ∀ d ∈ j.columns,
    sameName c d → c = d

/-- The spelling of a name does not matter. -/
theorem Descriptor.resolve?_congr (d : Descriptor) {name other : String}
    (h : sameName name other) :
  d.resolve? name = d.resolve? other
  := by
  have hleft (x : String) : sameName name x = sameName other x := by
    simp only [sameName, sameName_iff.mp h]
  have hright (x : String) : sameName x name = sameName x other := by
    simp only [sameName, sameName_iff.mp h]
  unfold resolve? column?
  simp only [hleft, hright]

/-- The columns of an index are spelled as they are declared. -/
theorem Descriptor.spelling_eq_of_sameName {d : Descriptor} {name other : String}
    (hname : (d.resolve? name).isSome) (h : sameName (d.spelling name) (d.spelling other)) :
  d.spelling name = d.spelling other
  := by
  have hsame := sameName_trans (sameName_symm (d.sameName_spelling name))
    (sameName_trans h (d.sameName_spelling other))
  obtain ⟨column, hcolumn⟩ := Option.isSome_iff_exists.mp hname
  unfold spelling
  rw [← d.resolve?_congr hsame, hcolumn]

/-- The tables of a target spell the columns of their indexes in one way. -/
theorem Registry.spelledOnce_of_target {m : Model} {r : Registry} {target : Schema}
    (hbuild : build m = .ok r) (htarget : r.target = .ok target) {t : TableShape}
    (ht : t ∈ target.shapes) :
  t.SpelledOnce
  where
  owned i hi := isOwned_of_target hbuild htarget ht hi
  spelled := by
    obtain ⟨d, hd, hshape⟩ := ((accepted_of_build hbuild).proper_target htarget).2 t |>.mp ht
    have hindexed := (fine_of_build hbuild).indexed d hd
    have hperm := Descriptor.perm_indexes_of_shape hshape
    intro i hi j hj c hc e he
    obtain ⟨columns, hcolumns, rfl⟩ := List.mem_map.mp (hperm.mem_iff.mp hi)
    obtain ⟨others, -, rfl⟩ := List.mem_map.mp (hperm.mem_iff.mp hj)
    obtain ⟨name, hname, rfl⟩ := List.mem_map.mp hc
    obtain ⟨other, -, rfl⟩ := List.mem_map.mp he
    exact Descriptor.spelling_eq_of_sameName (hindexed columns hcolumns name hname)

namespace Respelling

variable {f : Respelling} {t u : TableShape}

/-- An index is not moved exactly if its columns keep their spellings. -/
theorem index_eq_iff {table : String} {i : IndexShape} :
  f.index table i = i ↔ ∀ c ∈ i.columns, f.spell table c = c
  := by
  have hkept : i.columns.map (f.spell table) = i.columns.map id ↔
      ∀ c ∈ i.columns, f.spell table c = c := List.map_inj_left
  rw [List.map_id] at hkept
  rw [← hkept]
  constructor
  · exact congrArg IndexShape.columns
  · intro h
    unfold index
    rw [h]

/-- An index in another spelling is one of the table only if it is not moved. -/
theorem index_eq_of_mem (ht : t.SpelledOnce) {i : IndexShape} (hi : i ∈ t.indexes)
    (hmem : f.index t.name i ∈ t.indexes) :
  f.index t.name i = i
  := by
  apply index_eq_iff.mpr
  intro c hc
  exact ht.spelled _ hmem i hi _ (List.mem_map_of_mem hc) c hc (f.sameName_spell t.name c)

/-- Of the indexes of a table those that are moved are not live. -/
theorem added_indexes (ht : t.SpelledOnce) (hu : (f.table t).Rearranges u) :
  (t.indexes.filter fun i => !u.indexes.contains i) = f.moved t
  := by
  apply List.filter_congr
  intro i hi
  have hlive : i ∈ u.indexes ↔ f.index t.name i = i := by
    rw [← hu.indexes.mem_iff]
    constructor
    · intro hmem
      obtain ⟨j, hj, rfl⟩ := List.mem_map.mp hmem
      rw [index_eq_of_mem ht hj hi, index_eq_of_mem ht hj hi]
    · intro heq
      exact List.mem_map.mpr ⟨i, hi, heq⟩
  simp [hlive]

/-- The owned live indexes that the table does not have are those that are moved. -/
theorem removed_indexes (ht : t.SpelledOnce) (hu : (f.table t).Rearranges u) :
  ((u.indexes.filter fun i => i.isOwned && !t.indexes.contains i).map (·.name)).Perm
    ((f.moved t).map (·.name))
  := by
  have hkept : ∀ i ∈ t.indexes, (((fun i => i.isOwned && !t.indexes.contains i) ∘
      f.index t.name) i) = decide (f.index t.name i ≠ i) := by
    intro i hi
    have howned : (f.index t.name i).isOwned := ht.owned i hi
    have hlive : f.index t.name i ∈ t.indexes ↔ f.index t.name i = i :=
      ⟨index_eq_of_mem ht hi, fun heq => heq.symm ▸ hi⟩
    simp [howned, hlive]
  have hperm := (hu.indexes.filter fun i => i.isOwned && !t.indexes.contains i).map (·.name)
  rw [table, List.filter_map, List.filter_congr hkept, List.map_map] at hperm
  exact hperm.symm

/-- The moved indexes of a live table in another spelling are made again. -/
theorem changeFor?_eq_some {live : Schema} {format : String} (ht : t.SpelledOnce)
    (hcolumns : DistinctNames ColumnShape.name t.columns) (hlive : live.table? t.name = some u)
    (hu : (f.table t).Rearranges u) :
  (f.moved t = [] ∧ changeFor? live format t = none) ∨
    (f.moved t ≠ [] ∧ ∃ change, f.Remakes t change ∧ changeFor? live format t = some change)
  := by
  have hreasons := (matches_of_rearranges hcolumns hu format).1
  have hremoved := removed_indexes ht hu
  simp only [changeFor?, hlive, tableChange?, hreasons, List.isEmpty_nil, if_true, indexChange?,
    added_indexes ht hu]
  by_cases hnone : f.moved t = []
  · left
    rw [hnone] at hremoved ⊢
    have hempty := hremoved.eq_nil
    simp_all
  · right
    refine ⟨hnone, _, ⟨_, hremoved, rfl⟩, ?_⟩
    rw [if_neg (by simp [hnone])]

/-- No index of a table is moved exactly if all columns of its indexes keep their spellings. -/
theorem moved_eq_nil_iff :
  f.moved t = [] ↔ ∀ i ∈ t.indexes, ∀ c ∈ i.columns, f.spell t.name c = c
  := by
  simp only [moved, List.filter_eq_nil_iff, decide_eq_true_eq, not_not, index_eq_iff]

end Respelling

/-! ### Schemas -/

/-- A proper schema stays proper if its tables change without their names. -/
theorem Schema.Proper.mapped {s s' : Schema} (h : s.Proper) {g : TableShape → TableShape}
    (hname : ∀ t, (g t).name = t.name)
    (htables : s'.tables = s.tables.map fun (key, t) => (key, g t)) :
  s'.Proper ∧ s'.shapes = s.shapes.map g
  := by
  have hshapes : s'.shapes = s.shapes.map g := by
    unfold shapes
    rw [htables, List.map_map, List.map_map]
    rfl
  refine ⟨⟨?_, ?_⟩, hshapes⟩
  · rw [htables]
    intro entry hentry
    obtain ⟨⟨key, t⟩, ht, rfl⟩ := List.mem_map.mp hentry
    exact (h.keyed _ ht).trans (hname t).symm
  · rw [hshapes]
    unfold DistinctNames
    rw [List.pairwise_map]
    simp only [hname]
    exact h.distinct

/-- The image of a table is found under its name. -/
theorem Schema.Proper.table?_mapped {s s' : Schema} (h : s.Proper) {g : TableShape → TableShape}
    (hname : ∀ t, (g t).name = t.name)
    (htables : s'.tables = s.tables.map fun (key, t) => (key, g t)) {t : TableShape}
    (ht : t ∈ s.shapes) :
  s'.table? t.name = some (g t)
  := by
  obtain ⟨hproper, hshapes⟩ := h.mapped hname htables
  apply hproper.table?_eq_some_iff.mpr
  rw [hshapes, hname]
  exact ⟨List.mem_map_of_mem ht, sameName_refl t.name⟩

/-- A schema with columns in another spelling is a live schema of this kind, and so is its normal
form. -/
theorem Schema.Proper.reaches {target : Schema} (h : target.Proper) (f : Respelling) :
  f.Reaches target (f.schema target) ∧ f.Reaches target (f.schema target).normalize
  := by
  constructor
  · intro t ht
    refine ⟨f.table t, ?_, rfl, rfl, .rfl, .rfl, .rfl⟩
    apply h.table?_mapped (g := f.table) (fun _ => rfl) rfl ht
  · intro t ht
    have htables : (f.schema target).normalize.tables =
        target.tables.map fun (key, u) => (key, (f.table u).normalize) := by
      simp [normalize, Respelling.schema]
    refine ⟨(f.table t).normalize, ?_, (f.table t).rearranges_normalize⟩
    apply h.table?_mapped (g := fun u => (f.table u).normalize) (fun _ => rfl) htables ht

/-! ### Plans -/

/-- What elements are mapped to, if to anything, is related to those that are mapped. -/
theorem forall₂_filterMap {α β : Type} {related : α → β → Prop} {p : α → Bool} {g : α → Option β}
    {as : List α}
    (h : ∀ a ∈ as, (p a = false ∧ g a = none) ∨ (p a = true ∧ ∃ b, related a b ∧ g a = some b)) :
  List.Forall₂ related (as.filter p) (as.filterMap g)
  := by
  induction as with
  | nil => exact .nil
  | cons a as ih =>
    obtain ⟨ha, has⟩ := List.forall_mem_cons.mp h
    rcases ha with ⟨hp, hg⟩ | ⟨hp, b, hb, hg⟩
    · rw [List.filter_cons_of_neg (by simp [hp]), List.filterMap_cons_none hg]
      exact ih has
    · rw [List.filter_cons_of_pos hp, List.filterMap_cons_some hg]
      exact .cons hb (ih has)

/-- A plan for a live schema that has the columns of the target in another spelling is made, without
a warning, and makes the indexes over respelled columns again.  So it is empty exactly if columns of
indexes keep their spelling. -/
theorem Registry.replans_moved_indexes {m : Model} {r : Registry} {target : Schema}
    (hbuild : build m = .ok r) (htarget : r.target = .ok target)
    (hcolumns : ∀ t ∈ target.shapes, DistinctNames ColumnShape.name t.columns)
    (f : Respelling) :
  f.Reaches target (f.schema target) ∧ f.Reaches target (f.schema target).normalize ∧
    ∀ live, f.Reaches target live → ∀ options, ∃ plan, target.plan live options = .ok plan ∧
      plan.warnings = [] ∧
      List.Forall₂ f.Remakes (target.shapes.filter fun t => f.moved t ≠ []) plan.changes ∧
      (plan = {} ↔ ∀ t ∈ target.shapes, ∀ i ∈ t.indexes, ∀ c ∈ i.columns, f.spell t.name c = c)
  := by
  have hproper := ((accepted_of_build hbuild).proper_target htarget).1
  obtain ⟨hreaches, hnormal⟩ := hproper.reaches f
  refine ⟨hreaches, hnormal, ?_⟩
  intro live hlive options
  have hfindings : target.findings live options.format = [] := by
    apply List.flatMap_eq_nil_iff.mpr
    intro t ht
    obtain ⟨u, hu, hrearranges⟩ := hlive t ht
    simp only [findingsFor, hu]
    exact (Respelling.matches_of_rearranges (hcolumns t ht) hrearranges options.format).2
  have hchanges : List.Forall₂ f.Remakes (target.shapes.filter fun t => f.moved t ≠ [])
      (target.changes live options.format) := by
    apply forall₂_filterMap
    intro t ht
    obtain ⟨u, hu, hrearranges⟩ := hlive t ht
    have hspelled := spelledOnce_of_target hbuild htarget ht
    rcases Respelling.changeFor?_eq_some hspelled (hcolumns t ht) hu hrearranges with
      ⟨hnone, hchange⟩ | ⟨hsome, hchange⟩
    · exact .inl ⟨by simp [hnone], hchange⟩
    · exact .inr ⟨by simp [hsome], hchange⟩
  refine ⟨⟨target.changes live options.format, []⟩, ?_, rfl, hchanges, ?_⟩
  · rw [Schema.plan_eq_ok_iff, hfindings]
    simp
  · have hnone : target.changes live options.format = [] ↔
        (target.shapes.filter fun t => f.moved t ≠ []) = [] := by
      rw [← List.length_eq_zero_iff, ← hchanges.length_eq, List.length_eq_zero_iff]
    simp only [← Respelling.moved_eq_nil_iff, MigrationPlan.mk.injEq, and_true, hnone,
      List.filter_eq_nil_iff, decide_eq_true_eq, not_not]

/-- The columns of one name in another spelling. -/
def Respelling.only (column spelling : String) (h : sameName spelling column) : Respelling where
  spell _ c := if c = column then spelling else c
  sameName_spell := by
    intro _ c
    split
    · next heq => rw [heq, h]
    · apply sameName_refl

/-- Nothing is planned for items with another spelling of their flag, which has no index. -/
theorem items_respelled :
  let live := (Respelling.only "IsActive" "ISACTIVE" (by decide)).schema items
  ∃ r, Registry.build ⟨[item], []⟩ = .ok r ∧ r.target = .ok items ∧
    (∀ t ∈ items.shapes, DistinctNames ColumnShape.name t.columns) ∧
    live ≠ items ∧ items.plan live {} = .ok {}
  := by
  obtain ⟨r, hbuild, htarget⟩ := target_item
  have hcolumns : ∀ t ∈ items.shapes, DistinctNames ColumnShape.name t.columns := by
    decide +kernel
  obtain ⟨hreaches, -, hplans⟩ := Registry.replans_moved_indexes hbuild htarget hcolumns
    (Respelling.only "IsActive" "ISACTIVE" (by decide))
  obtain ⟨plan, hplan, -, -, hempty⟩ := hplans _ hreaches {}
  refine ⟨r, hbuild, htarget, hcolumns, by decide +kernel, ?_⟩
  rw [hplan, hempty.mpr (by decide +kernel)]

/-- The index over the name of items is dropped and made again whenever the name is reported in
another spelling. -/
theorem name_index_made_again :
  let f := Respelling.only "Name" "name" (by decide)
  let plan : MigrationPlan :=
    ⟨[.indexes "Item" [⟨"IX_Item_Name", ["Name"]⟩] ["IX_Item_Name"]], []⟩
  (∃ r, Registry.build ⟨[item], []⟩ = .ok r ∧ r.target = .ok items) ∧
    (∀ t ∈ items.shapes, DistinctNames ColumnShape.name t.columns) ∧
    items.plan (f.schema items) {} = .ok plan ∧ plan ≠ {} ∧
    plan.statements =
      ["DROP INDEX \"IX_Item_Name\"", "CREATE INDEX \"IX_Item_Name\" ON \"Item\" (\"Name\")"]
  := by
  refine ⟨target_item, ?_, ?_, ?_, ?_⟩
  all_goals decide +kernel

end EntityStore
