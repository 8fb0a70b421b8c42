import EntityStore.Proofs.Connection.Log
import EntityStore.Proofs.Except
import EntityStore.Proofs.Schema.Convergence
import EntityStore.Proofs.Schema.NormalForm
import EntityStore.Proofs.Schema.Reported
import EntityStore.Schema.Reconcile
import Mathlib.Data.List.Basic

/-!
# Reading reported catalogs

The live schema has a table for each that is reported, with its columns, references and indexes, and
plans are made for it.  But a member of an index without a name makes the reading fail, and with it
every pass, even if nothing else is wrong and the index is not owned.
-/

namespace EntityStore

open Connection

/-! ### Answers of a connection -/

section Gives

variable {σ α β : Type}

/-- A step has an answer in every steady state, and leaves one. -/
def Gives (steady : σ → Prop) (m : Action σ α) (answer : Except Error α) : Prop :=
  ∀ s, steady s → ∃ s', m s = (answer, s') ∧ steady s'

variable {steady : σ → Prop}

namespace Gives

theorem mk_pure (answer : Except Error α) :
  Gives steady (ExceptT.mk (pure answer)) answer
  := fun s hs => ⟨s, rfl, hs⟩

/-- Steps one after the other. -/
theorem bind {m : Action σ α} {answer : Except Error α} {f : α → Action σ β}
    {after : α → Except Error β} (hm : Gives steady m answer)
    (hf : ∀ a, Gives steady (f a) (after a)) :
  Gives steady (m >>= f) (answer >>= after)
  := by
  intro s hs
  obtain ⟨s', hrun, hs'⟩ := hm s hs
  rw [bind_apply, hrun]
  cases answer with
  | error e => exact ⟨s', rfl, hs'⟩
  | ok a => exact hf a s' hs'

/-- A step after one that succeeds. -/
theorem after {m : Action σ α} {a : α} {f : α → Action σ β} {answer : Except Error β}
    (hm : Gives steady m (.ok a)) (hf : Gives steady (f a) answer) :
  Gives steady (m >>= f) answer
  := by
  intro s hs
  obtain ⟨s', hrun, hs'⟩ := hm s hs
  rw [bind_apply, hrun]
  exact hf s' hs'

/-- A changed result. -/
theorem map {m : Action σ α} {answer : Except Error α} (hm : Gives steady m answer) (f : α → β) :
  Gives steady (f <$> m) (answer.map f)
  := by
  intro s hs
  obtain ⟨s', hrun, hs'⟩ := hm s hs
  rw [map_apply, hrun]
  exact ⟨s', rfl, hs'⟩

/-- A changed result, where there is one. -/
theorem map_ite {m : Action σ α} {p : Prop} [Decidable p] {a : α} {e : Error}
    (hm : Gives steady m (if p then .ok a else .error e)) (f : α → β) :
  Gives steady (f <$> m) (if p then .ok (f a) else .error e)
  := by
  have hmap := hm.map f
  rwa [apply_ite (Except.map f)] at hmap

/-- One step for each member of a list. -/
theorem foldlM {f : β → α → Action σ β} {g : β → α → Except Error β} {as : List α}
    (h : ∀ a ∈ as, ∀ b, Gives steady (f b a) (g b a)) (b : β) :
  Gives steady (as.foldlM f b) (as.foldlM g b)
  := by
  induction as generalizing b with
  | nil => exact mk_pure (.ok b)
  | cons a as ih =>
    obtain ⟨ha, has⟩ := List.forall_mem_cons.mp h
    rw [List.foldlM_cons, List.foldlM_cons]
    exact (ha b).bind (ih has)

end Gives

/-- A query has rows in every steady state. -/
def Answers (c : Connection σ) (steady : σ → Prop) (sql : String) (rows : List Row) : Prop :=
  ∀ s, steady s → ∃ s', c.query sql [] s = (⟨rows, none⟩, s') ∧ steady s'

variable {c : Connection σ} {sql : String} {found : List Row}

theorem Answers.rows (h : Answers c steady sql found) :
  Gives steady (c.rows sql []) (.ok found)
  := by
  intro s hs
  obtain ⟨s', hquery, hs'⟩ := h s hs
  unfold Connection.rows
  rw [liftBind_apply, hquery]
  exact ⟨s', rfl, hs'⟩

theorem Answers.readRows (h : Answers c steady sql found) (read : Row → Except Error α) :
  Gives steady (Live.readRows c sql read) (found.mapM read)
  := h.rows.after (.mk_pure _)

/-- How a connection reports a catalog: in every steady state each query about it is answered by
rows of what it is about. -/
structure Reports (c : Connection σ) (steady : σ → Prop) (tables : List ReportedTable) : Prop where
  listed : Answers c steady Live.tablesQuery (tables.map (·.row))
  columns : ∀ t ∈ tables,
    Answers c steady (Live.catalogQuery "table_info" t.name) (t.columns.map (·.row))
  references : ∀ t ∈ tables,
    Answers c steady (Live.catalogQuery "foreign_key_list" t.name) (t.references.map (·.row))
  indexes : ∀ t ∈ tables,
    Answers c steady (Live.catalogQuery "index_list" t.name) (t.indexes.map (·.row))
  members : ∀ t ∈ tables, ∀ i ∈ t.indexes,
    Answers c steady (Live.catalogQuery "index_info" i.name) (i.members.map (·.row))

end Gives

/-! ### Reading -/

section

variable {σ : Type} {c : Connection σ} {steady : σ → Prop}

namespace ReportedIndex

variable {i : ReportedIndex}

/-- The columns of an index are read exactly if all members have names. -/
theorem gives_indexColumns (h : Answers c steady (Live.catalogQuery "index_info" i.name)
    (i.members.map (·.row))) :
  Gives steady (Live.indexColumns c i.name)
    (if i.members.all (·.name.isSome) then .ok i.columns else .error unnamedMember)
  := by
  have hread : (i.members.map (·.row)).mapM Live.memberOfRow =
      if i.members.all (·.name.isSome) then
        .ok (i.members.map fun m => (m.place, m.name.getD "")) else .error unnamedMember := by
    rw [List.mapM_map]
    exact mapM_ite_error fun m _ => m.memberOfRow_row
  have hgives := (h.readRows Live.memberOfRow).map fun members =>
    (members.mergeSort fun a b => decide (a.1 ≤ b.1)).map (·.2)
  rw [hread] at hgives
  cases hnamed : i.members.all (·.name.isSome) with
  | false =>
    rw [hnamed] at hgives
    exact hgives
  | true =>
    rw [hnamed] at hgives
    have hcolumns : ((i.members.map fun m => (m.place, m.name.getD "")).mergeSort
        fun a b => decide (a.1 ≤ b.1)).map (·.2) = i.columns := by
      rw [← List.map_mergeSort (r := fun a b => decide (a.place ≤ b.place)) (by simp),
        List.map_map, columns, ← List.filterMap_eq_map]
      apply List.filterMap_congr
      intro m hm
      have hsome := List.all_eq_true.mp hnamed m (List.mem_mergeSort.mp hm)
      obtain ⟨name, hname⟩ := Option.isSome_iff_exists.mp hsome
      simp [hname]
    rw [← hcolumns]
    exact hgives

/-- What is found with the index. -/
def add (names : ConstraintNames) (found : Live.Indexes) (i : ReportedIndex) : Live.Indexes where
  uniques := found.uniques ++ (i.unique? names).toList
  plain := found.plain ++ i.plain?.toList

/-- An index is read exactly if its members have names or it is that of the key. -/
theorem gives_addIndex (h : Answers c steady (Live.catalogQuery "index_info" i.name)
    (i.members.map (·.row))) (names : ConstraintNames) (found : Live.Indexes) :
  Gives steady (Live.addIndex c names found i.row)
    (if i.isNamed then .ok (i.add names found) else .error unnamedMember)
  := by
  have hname : i.row.textNamed "name" = .ok i.name := Row.textNamed_of_text rfl
  have horigin : i.row.textNamed "origin" = .ok i.origin.letters := Row.textNamed_of_text rfl
  have hcolumns := gives_indexColumns h
  unfold Live.addIndex
  rw [hname, horigin]
  apply (Gives.mk_pure (.ok i.name)).after
  apply (Gives.mk_pure (.ok i.origin.letters)).after
  cases hkind : i.origin with
  | statement =>
    have hadd : i.add names found =
        { found with plain := found.plain ++ [⟨i.name, i.columns⟩] } := by
      simp [add, unique?, plain?, hkind]
    rw [hadd, isNamed, hkind]
    exact hcolumns.map_ite fun columns =>
      ({ found with plain := found.plain ++ [⟨i.name, columns⟩] } : Live.Indexes)
  | unique =>
    have hadd : i.add names found =
        { found with uniques := found.uniques ++ [⟨names.unique? i.columns, i.columns⟩] } := by
      simp [add, unique?, plain?, hkind]
    rw [hadd, isNamed, hkind]
    exact hcolumns.map_ite fun columns =>
      ({ found with uniques := found.uniques ++ [⟨names.unique? columns, columns⟩] } : Live.Indexes)
  | key =>
    have hadd : i.add names found = found := by
      simp [add, unique?, plain?, hkind]
    rw [hadd, isNamed, hkind]
    exact Gives.mk_pure (.ok found)

/-- What is found with all indexes of a table. -/
theorem foldl_add (names : ConstraintNames) (is : List ReportedIndex) (found : Live.Indexes) :
  is.foldl (fun found i => i.add names found) found =
    { uniques := found.uniques ++ is.filterMap (·.unique? names)
      plain := found.plain ++ is.filterMap (·.plain?) }
  := by
  induction is generalizing found with
  | nil => simp
  | cons i is ih =>
    rw [List.foldl_cons, ih]
    cases hunique : i.unique? names <;> cases hplain : i.plain? <;>
      simp [add, hunique, hplain]

end ReportedIndex

/-- A table is read exactly if all members of its indexes have names. -/
theorem ReportedTable.gives_table {tables : List ReportedTable} (h : Reports c steady tables)
    {t : ReportedTable} (ht : t ∈ tables) :
  Gives steady (Live.table c t.name t.text)
    (if t.indexes.all (·.isNamed) then .ok t.shape.normalize else .error unnamedMember)
  := by
  let names := ConstraintNames.ofText t.text
  have hcolumns := (h.columns t ht).readRows Live.columnOfRow
  have hreferences := (h.references t ht).readRows (Live.referenceOfRow names)
  rw [mapM_map_ok ReportedColumn.columnOfRow_row] at hcolumns
  rw [mapM_map_ok (ReportedReference.referenceOfRow_row names)] at hreferences
  have hindexes : Gives steady ((t.indexes.map (·.row)).foldlM (Live.addIndex c names) {})
      (if t.indexes.all (·.isNamed) then
        .ok { uniques := t.indexes.filterMap (·.unique? names)
              plain := t.indexes.filterMap (·.plain?) }
      else .error unnamedMember) := by
    rw [List.foldlM_map]
    have hfold := Gives.foldlM (fun i hi found =>
      ReportedIndex.gives_addIndex (h.members t ht i hi) names found) {}
    rw [foldlM_ite_error (fun _ _ _ => rfl), ReportedIndex.foldl_add] at hfold
    exact hfold
  apply hcolumns.after
  apply hreferences.after
  apply (h.indexes t ht).rows.after
  exact hindexes.map_ite fun found => TableShape.normalize
    { name := t.name
      columns := t.columns.map (·.shape)
      references := t.references.map (·.shape names)
      uniques := found.uniques
      indexes := found.plain }

/-- The schema of the tables that are not of the database itself. -/
def reportedSchema (tables : List ReportedTable) : Schema :=
  ((tables.filter (·.isUser)).map (·.shape.normalize)).foldl Schema.insert .empty

/-- A schema is read exactly if all members of the indexes of its tables have names. -/
theorem gives_schema {tables : List ReportedTable} (h : Reports c steady tables) :
  Gives steady (Live.schema c)
    (if (tables.filter (·.isUser)).all (·.indexes.all (·.isNamed)) then
      .ok (reportedSchema tables)
    else .error unnamedMember)
  := by
  have hlisted := h.listed.readRows Live.tableOfRow
  rw [mapM_map_ok ReportedTable.tableOfRow_row] at hlisted
  have hdefinitions : (tables.map fun t : ReportedTable =>
      if t.isUser then some (t.name, t.text) else none).filterMap id =
        (tables.filter (·.isUser)).map fun t => (t.name, t.text) := by
    clear h hlisted
    induction tables with
    | nil => rfl
    | cons t tables ih => cases huser : t.isUser <;> simpa [huser] using ih
  have htable (t : ReportedTable) (ht : t ∈ tables.filter (·.isUser)) (s : Schema) :
      Gives steady (Live.addTable c s (t.name, t.text))
        (if t.indexes.all (·.isNamed) then .ok (s.insert t.shape.normalize)
        else .error unnamedMember) :=
    (t.gives_table h (List.mem_of_mem_filter ht)).map_ite s.insert
  have hfold := Gives.foldlM htable .empty
  rw [foldlM_ite_error (fun _ _ _ => rfl)] at hfold
  unfold Live.schema
  apply hlisted.after
  rw [hdefinitions, List.foldlM_map, reportedSchema, List.foldl_map]
  exact hfold

/-- Whether the members of all indexes have names, apart from indexes of keys and of the database
itself. -/
def Named (tables : List ReportedTable) : Prop :=
  ∀ t ∈ tables, t.isUser → ∀ i ∈ t.indexes, i.origin ≠ .key → ∀ m ∈ i.members, m.name.isSome

theorem named_iff {tables : List ReportedTable} :
  (tables.filter (·.isUser)).all (·.indexes.all (·.isNamed)) ↔ Named tables
  := by
  simp only [List.all_eq_true, List.mem_filter, ReportedIndex.isNamed_iff, and_imp, Named]

/-- The tables of different names that are reported. -/
theorem shapes_reportedSchema {tables : List ReportedTable}
    (h : DistinctNames ReportedTable.name tables) :
  (reportedSchema tables).Proper ∧
    (reportedSchema tables).shapes.Perm
      ((tables.filter (·.isUser)).map (·.shape.normalize))
  := by
  have hdistinct : DistinctNames TableShape.name
      ((tables.filter (·.isUser)).map (·.shape.normalize)) :=
    List.pairwise_map.mpr (List.Pairwise.filter _ h)
  obtain ⟨hproper, hmem⟩ := Schema.Proper.empty.foldl_insert hdistinct
    (by simp [Schema.shapes, Schema.empty])
  use hproper
  apply (List.perm_ext_iff_of_nodup hproper.distinct.nodup hdistinct.nodup).mpr
  intro u
  apply (hmem u).trans
  simp [Schema.shapes, Schema.empty]

/-- A plan is made for the schema that is read. -/
theorem gives_plan {answer : Except Error Schema} (h : Gives steady (Live.schema c) answer)
    (registry : Registry) (options : PlanOptions) :
  Gives steady (Reconcile.plan c registry options)
    (registry.target.bind fun target => answer.bind fun live => target.plan live options)
  := by
  apply (Gives.mk_pure registry.target).bind
  intro target
  apply h.bind
  intro live
  apply Gives.mk_pure

/-- A pass fails if its plan does. -/
theorem Reconcile.run_eq_error {registry : Registry} {options : PlanOptions} {s : σ} {e : Error}
    (h : (Reconcile.plan c registry options s).1 = .error e) :
  (Reconcile.run c registry options s).1 = .error e
  := by
  unfold Reconcile.run
  rw [bind_apply]
  cases hrun : Reconcile.plan c registry options s with
  | mk answer s' =>
    rw [hrun] at h
    cases h
    rfl

/-- The schema that is reported is read, with a column and a reference for each that is reported,
and is what plans are made for, provided that members of indexes have names.  If one has none, be
its index owned or not, nothing is read and no pass succeeds. -/
theorem reads_reported {tables : List ReportedTable} (h : Reports c steady tables)
    (hdistinct : DistinctNames ReportedTable.name tables) {s : σ} (hs : steady s) :
  (Named tables → ∃ live, (Live.schema c s).1 = .ok live ∧
      live.shapes.Perm ((tables.filter (·.isUser)).map (·.shape.normalize)) ∧
      (∀ t ∈ tables, t.isUser → live.table? t.name = some t.shape.normalize) ∧
      ∀ registry options, (Reconcile.plan c registry options s).1 =
        registry.target.bind fun target => target.plan live options) ∧
    (¬ Named tables → (Live.schema c s).1 = .error unnamedMember ∧
      ∀ registry options, (Reconcile.run c registry options s).1 =
        registry.target.bind fun _ => .error unnamedMember)
  := by
  have hschema := gives_schema h
  constructor
  · intro hnamed
    rw [if_pos (named_iff.mpr hnamed)] at hschema
    obtain ⟨s', hrun, -⟩ := hschema s hs
    obtain ⟨hproper, hshapes⟩ := shapes_reportedSchema hdistinct
    refine ⟨reportedSchema tables, by rw [hrun], hshapes, ?_, ?_⟩
    · intro t ht huser
      apply hproper.table?_eq_some_iff.mpr
      rw [hshapes.mem_iff]
      have hmem : t ∈ tables.filter (·.isUser) := List.mem_filter.mpr ⟨ht, huser⟩
      exact ⟨List.mem_map.mpr ⟨t, hmem, rfl⟩, Text.sameName_refl _⟩
    · intro registry options
      obtain ⟨s', hplan, -⟩ := gives_plan hschema registry options s hs
      rw [hplan]
      rfl
  · intro hnot
    rw [if_neg (mt named_iff.mp hnot)] at hschema
    obtain ⟨s', hrun, -⟩ := hschema s hs
    refine ⟨by rw [hrun], ?_⟩
    intro registry options
    obtain ⟨s', hplan, -⟩ := gives_plan hschema registry options s hs
    have hfailed : (Reconcile.plan c registry options s).1 =
        registry.target.bind fun _ => .error unnamedMember := by rw [hplan]; rfl
    cases htarget : registry.target with
    | error | ok => exact Reconcile.run_eq_error (by rw [hfailed, htarget]; rfl)

end

/-! ### Items -/

/-- A connection that answers queries by rows and does nothing else. -/
def Connection.reporting (found : List (String × List Row)) : Connection Unit where
  query sql _ := pure { rows := (found.lookup sql).getD [] }
  execute _ _ := pure 0
  insert _ _ := pure 0
  batch _ := pure ()
  begin := pure ()
  commit := pure ()
  rollback := pure ()

/-- The rows of a catalog under the queries for them. -/
def reportedRows (tables : List ReportedTable) : List (String × List Row) :=
  (Live.tablesQuery, tables.map (·.row)) :: tables.flatMap fun t =>
    [(Live.catalogQuery "table_info" t.name, t.columns.map (·.row)),
     (Live.catalogQuery "foreign_key_list" t.name, t.references.map (·.row)),
     (Live.catalogQuery "index_list" t.name, t.indexes.map (·.row))] ++
    t.indexes.map fun i => (Live.catalogQuery "index_info" i.name, i.members.map (·.row))

theorem answers_reporting {entries : List (String × List Row)} {sql : String} {found : List Row}
    (h : entries.lookup sql = some found) :
  Answers (Connection.reporting entries) (fun _ => True) sql found
  := by
  intro s _
  refine ⟨s, ?_, trivial⟩
  show (({ rows := (entries.lookup sql).getD [] }, s) : Delivery × Unit) = _
  rw [h]
  rfl

/-- Items as they are reported, with indexes. -/
def reportedItems (indexes : List ReportedIndex) : ReportedTable where
  name := "Item"
  sql := none
  columns :=
    [{ place := 0, name := "Id", sqlType := "INTEGER", notNull := 0, key := 1 },
     { place := 1, name := "Name", sqlType := "TEXT", notNull := 1, key := 0 },
     { place := 2, name := "IsActive", sqlType := "BOOLEAN", notNull := 1, key := 0,
       default := .text "1" }]
  indexes := indexes

/-- The index over the names of items. -/
def itemsByName : ReportedIndex where
  place := 0
  name := "IX_Item_Name"
  origin := .statement
  members := [⟨0, 1, some "Name"⟩]

/-- An index over the names of items in small letters, which is none of the registry. -/
def itemsByLowerName : ReportedIndex where
  place := 0
  name := "by_lower"
  origin := .statement
  members := [⟨0, -2, none⟩]

/-- The items are reported with any of their indexes. -/
theorem reports_items {indexes : List ReportedIndex}
    (h : indexes = [itemsByName] ∨ indexes = [itemsByLowerName, itemsByName]) :
  Reports (Connection.reporting (reportedRows [reportedItems indexes])) (fun _ => True)
    [reportedItems indexes]
  where
  listed := answers_reporting (by rcases h with rfl | rfl <;> decide +kernel)
  columns t ht := by
    obtain rfl := List.mem_singleton.mp ht
    apply answers_reporting
    rcases h with rfl | rfl <;> decide +kernel
  references t ht := by
    obtain rfl := List.mem_singleton.mp ht
    apply answers_reporting
    rcases h with rfl | rfl <;> decide +kernel
  indexes t ht := by
    obtain rfl := List.mem_singleton.mp ht
    apply answers_reporting
    rcases h with rfl | rfl <;> decide +kernel
  members t ht i hi := by
    obtain rfl := List.mem_singleton.mp ht
    apply answers_reporting
    rcases h with rfl | rfl
    · obtain rfl := List.mem_singleton.mp hi
      decide +kernel
    · rcases List.mem_pair.mp hi with rfl | rfl <;> decide +kernel

/-- The items are read as they are in the schema of items. -/
theorem normalize_shape_items :
  (reportedItems [itemsByName]).shape.normalize = itemTable
  := by
  have hshape : (reportedItems [itemsByName]).shape = itemTable := by decide +kernel
  rw [hshape]
  apply TableShape.normalize_of_sorted <;> simp [itemTable]

/-- Items that are reported as they should be are read, and nothing is planned for them. -/
theorem items_read :
  let c := Connection.reporting (reportedRows [reportedItems [itemsByName]])
  ∃ live r, (Live.schema c ()).1 = .ok live ∧ live.shapes = [itemTable] ∧
    Registry.build ⟨[item], []⟩ = .ok r ∧ (Reconcile.plan c r {} ()).1 = .ok {}
  := by
  intro c
  obtain ⟨r, hbuild, htarget⟩ := target_item
  have hdistinct : DistinctNames ReportedTable.name [reportedItems [itemsByName]] :=
    List.pairwise_singleton _ _
  have hnamed : Named [reportedItems [itemsByName]] := by
    rw [← named_iff]
    decide +kernel
  obtain ⟨live, hlive, hshapes, htable, hplan⟩ :=
    (reads_reported (reports_items (.inl rfl)) hdistinct trivial).1 hnamed
  have huser : [reportedItems [itemsByName]].filter (·.isUser) = [reportedItems [itemsByName]] := by
    rfl
  rw [huser, List.map_singleton, normalize_shape_items] at hshapes
  refine ⟨live, r, hlive, List.perm_singleton.mp hshapes, hbuild, ?_⟩
  rw [hplan, htarget]
  apply Schema.plan_of_isSettled
  intro t ht
  have hitems : items.shapes = [itemTable] := by decide +kernel
  rw [hitems, List.mem_singleton] at ht
  subst ht
  refine ⟨itemTable, ?_, isSettled_self (by decide +kernel)⟩
  rw [← normalize_shape_items]
  exact htable _ List.mem_cons_self (by decide +kernel)

/-- An index over an expression, which is not owned, makes every reading and every pass fail. -/
theorem items_unread :
  let c := Connection.reporting (reportedRows [reportedItems [itemsByLowerName, itemsByName]])
  ∃ r, Registry.build ⟨[item], []⟩ = .ok r ∧ r.target = .ok items ∧
    Reports c (fun _ => True) [reportedItems [itemsByLowerName, itemsByName]] ∧
    (⟨itemsByLowerName.name, []⟩ : IndexShape).isOwned = false ∧
    (Live.schema c ()).1 = .error unnamedMember ∧
    (Reconcile.run c r {} ()).1 = .error unnamedMember
  := by
  intro c
  obtain ⟨r, hbuild, htarget⟩ := target_item
  have hreports : Reports c (fun _ => True) [reportedItems [itemsByLowerName, itemsByName]] :=
    reports_items (.inr rfl)
  have hschema := gives_schema hreports
  have hunnamed : ¬ Named [reportedItems [itemsByLowerName, itemsByName]] := by
    rw [← named_iff]
    decide +kernel
  rw [if_neg (mt named_iff.mp hunnamed)] at hschema
  obtain ⟨_, hrun, -⟩ := hschema () trivial
  obtain ⟨_, hplan, -⟩ := gives_plan hschema r {} () trivial
  refine ⟨r, hbuild, htarget, hreports, by decide +kernel, by rw [hrun], ?_⟩
  apply Reconcile.run_eq_error
  rw [hplan, htarget]
  rfl

end EntityStore
