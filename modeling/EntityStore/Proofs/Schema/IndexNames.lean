import EntityStore.Proofs.Number.Decimal
import EntityStore.Proofs.Schema.Definitions
import EntityStore.Proofs.Schema.Indexes
import EntityStore.Proofs.Schema.Registration
import Mathlib.Data.List.Perm.Basic

/-!
# Names of new indexes

The name of an index consists of the names of its table and of its columns, with underscores in
between.  Since there can be underscores in these names as well, only the words between them count
in the end.  A database without tables takes all indexes of a target if no two of them have the
same words, all of them have columns, and none is called like a table.
-/

namespace EntityStore

open Text

/-! ### Words of names -/

/-- The words between the underscores of a name, whose case does not count. -/
def nameWords (name : String) : List (List Char) :=
  (lower name).toList.splitOn '_'

/-- Names with the same words are the same. -/
theorem nameWords_inj {a b : String} :
  nameWords a = nameWords b ↔ sameName a b
  := by
  rw [sameName_iff]
  constructor
  · intro h
    have hjoined := congrArg (['_'].intercalate ·) h
    simp only [nameWords, List.intercalate_splitOn] at hjoined
    exact String.toList_inj.mp hjoined
  · intro h
    rw [nameWords, nameWords, h]

theorem nameWords_append (a b : String) :
  nameWords (a ++ "_" ++ b) = nameWords a ++ nameWords b
  := by
  have hunderscore : (lower "_").toList = ['_'] := rfl
  rw [nameWords, lower_append, lower_append, String.toList_append, String.toList_append,
    hunderscore, List.append_assoc, List.singleton_append]
  simp only [nameWords, List.splitOn_eq_splitOnP]
  apply List.splitOnP_append_cons
  rfl

/-- Names that are joined have the words of all of them. -/
theorem nameWords_joinNames {names : List String} (h : names ≠ []) :
  nameWords (joinNames names) = names.flatMap nameWords
  := by
  induction names with
  | nil => exact absurd rfl h
  | cons first rest ih =>
      cases rest with
      | nil => rw [joinNames, String.intercalate_singleton, List.flatMap_singleton]
      | cons second rest =>
          rw [joinNames, String.intercalate_cons_cons, nameWords_append, List.flatMap_cons,
            ← ih (List.cons_ne_nil _ _)]
          rfl

/-- The name of an index has the words of its table and of its columns. -/
theorem nameWords_indexName (table : String) {columns : List String} (h : columns ≠ []) :
  nameWords (indexName table columns) = ['i', 'x'] :: (table :: columns).flatMap nameWords
  := by
  have hname : indexName table columns = "IX" ++ "_" ++ table ++ "_" ++ joinNames columns := rfl
  have hlead : nameWords "IX" = [['i', 'x']] := by decide
  rw [hname, nameWords_append, nameWords_append, nameWords_joinNames h, hlead]
  simp

/-- Names are different exactly if their words are. -/
theorem distinctNames_iff_nodup {α : Type} {name : α → String} {as : List α} :
  DistinctNames name as ↔ (as.map fun a => nameWords (name a)).Nodup
  := by
  simp only [DistinctNames, List.nodup_iff_pairwise_ne, List.pairwise_map, ne_eq, nameWords_inj]

/-! ### Indexes of targets -/

namespace Descriptor

/-- The words of the names of indexes, after the first. -/
def indexWords (d : Descriptor) : List (List (List Char)) :=
  d.indexes.map fun columns => (d.table :: columns).flatMap nameWords

/-- The spelling of a column has its name. -/
theorem sameName_spelling (d : Descriptor) (column : String) :
  sameName (d.spelling column) column
  := by
  unfold spelling
  split
  · next name type h => exact sameName_symm (mem_of_resolve? h).2
  · apply sameName_refl

/-- The name of an index has the words of the columns that are listed, however they are spelled. -/
theorem nameWords_indexShape (d : Descriptor) {columns : List String} (h : columns ≠ []) :
  nameWords (d.indexShape columns).name = ['i', 'x'] :: (d.table :: columns).flatMap nameWords
  := by
  have hspelled (column : String) : nameWords (d.spelling column) = nameWords column :=
    nameWords_inj.mpr (d.sameName_spelling column)
  show nameWords (indexName d.table (columns.map d.spelling)) = _
  rw [nameWords_indexName _ (by simpa using h), List.flatMap_cons, List.flatMap_cons,
    List.flatMap_map]
  simp only [hspelled]

/-- The table of a descriptor has an index for each list of columns. -/
theorem perm_indexes_of_shape {d : Descriptor} {t : TableShape} (h : d.shape = .ok t) :
  t.indexes.Perm (d.indexes.map d.indexShape)
  := by
  obtain ⟨declared, -, heq⟩ := exists_of_bind_ok h
  cases heq
  apply List.mergeSort_perm

/-- A descriptor has a table if all its columns have types of the database. -/
theorem exists_shape {d : Descriptor}
    (h : ∀ c ∈ d.columns, (c.type.sqlName? c.maxLength).isSome) :
  ∃ t, d.shape = .ok t
  := by
  have hcolumns : ∃ declared, d.columns.mapM d.columnShape = .ok declared := by
    apply exists_mapM_ok_iff.mpr
    intro c hc
    obtain ⟨sqlType, hsql⟩ := Option.isSome_iff_exists.mp (h c hc)
    rw [columnShape, hsql]
    exact ⟨_, rfl⟩
  obtain ⟨declared, hdeclared⟩ := hcolumns
  unfold shape
  rw [hdeclared]
  exact ⟨_, rfl⟩

end Descriptor

/-- The indexes of all tables. -/
def Schema.indexes (s : Schema) : List IndexShape :=
  s.shapes.flatMap (·.indexes)

namespace Registry

variable {r : Registry} {target : Schema}

/-- A registry has a target if all columns have types of the database. -/
theorem exists_target_ok
    (h : ∀ d ∈ r.descriptors, ∀ c ∈ d.columns, (c.type.sqlName? c.maxLength).isSome) :
  ∃ target, r.target = .ok target
  := by
  obtain ⟨shapes, hshapes⟩ := exists_mapM_ok_iff.mpr fun d hd => Descriptor.exists_shape (h d hd)
  unfold target
  rw [hshapes]
  exact ⟨_, rfl⟩

/-- The target has the tables of descriptors in another order. -/
theorem Accepted.perm_shapes (h : r.Accepted) {shapes : List TableShape}
    (hshapes : r.descriptors.mapM (·.shape) = .ok shapes) :
  (shapes.foldl Schema.insert .empty).shapes.Perm shapes
  := by
  have hdistinct := h.distinct_shapes hshapes
  obtain ⟨hproper, hmem⟩ := Schema.Proper.empty.foldl_insert hdistinct
    (by simp [Schema.shapes, Schema.empty])
  rw [List.perm_ext_iff_of_nodup hproper.distinct.nodup hdistinct.nodup]
  intro t
  rw [hmem]
  simp [Schema.shapes, Schema.empty]

/-- The target has the indexes of all descriptors. -/
theorem Accepted.perm_indexes (h : r.Accepted) (htarget : r.target = .ok target) :
  target.indexes.Perm (r.descriptors.flatMap fun d => d.indexes.map d.indexShape)
  := by
  obtain ⟨shapes, hshapes, heq⟩ := exists_of_bind_ok htarget
  cases heq
  have hmap := map_eq_of_mapM_ok hshapes
  let indexesOf : Except Error TableShape → List IndexShape
    | .ok t => t.indexes
    | .error _ => []
  have hshape (d : Descriptor) (hd : d ∈ r.descriptors) :
      (indexesOf d.shape).Perm (d.indexes.map d.indexShape) := by
    have hmem := List.mem_map_of_mem (f := (·.shape)) hd
    rw [hmap] at hmem
    obtain ⟨t, -, ht⟩ := List.mem_map.mp hmem
    rw [← ht]
    exact Descriptor.perm_indexes_of_shape ht.symm
  have hindexes : shapes.flatMap (·.indexes) = r.descriptors.flatMap (indexesOf ·.shape) := by
    rw [← List.flatMap_map Descriptor.shape indexesOf, hmap, List.flatMap_map]
  apply ((h.perm_shapes hshapes).flatMap_right _).trans
  rw [hindexes]
  exact List.Perm.flatMap_left _ hshape

/-- No two indexes of a registry have the same words, and all have columns. -/
structure IndexedApart (r : Registry) : Prop where
  listed : ∀ d ∈ r.descriptors, [] ∉ d.indexes
  apart : (r.descriptors.flatMap Descriptor.indexWords).Nodup

/-- The indexes of the target have columns and different names exactly if those of the registry
have columns and different words. -/
theorem Accepted.distinct_indexes_iff (h : r.Accepted) (htarget : r.target = .ok target) :
  DistinctNames IndexShape.name target.indexes ∧ (∀ i ∈ target.indexes, i.columns ≠ []) ↔
    r.IndexedApart
  := by
  have hperm := h.perm_indexes htarget
  have hcolumns : (∀ i ∈ target.indexes, i.columns ≠ []) ↔
      ∀ d ∈ r.descriptors, [] ∉ d.indexes := by
    simp only [hperm.mem_iff, List.forall_mem_flatMap, List.forall_mem_map]
    simp only [Descriptor.indexShape, ne_eq, List.map_eq_nil_iff]
    grind
  have hnames (hlisted : ∀ d ∈ r.descriptors, [] ∉ d.indexes) :
      DistinctNames IndexShape.name target.indexes ↔
        (r.descriptors.flatMap Descriptor.indexWords).Nodup := by
    have hwords : (r.descriptors.flatMap fun d => d.indexes.map d.indexShape).map
          (fun i => nameWords i.name) =
        (r.descriptors.flatMap Descriptor.indexWords).map (['i', 'x'] :: ·) := by
      rw [List.map_flatMap, List.map_flatMap]
      apply List.flatMap_congr
      intro d hd
      rw [Descriptor.indexWords, List.map_map, List.map_map]
      apply List.map_congr_left
      intro columns hcolumns
      apply d.nameWords_indexShape
      rintro rfl
      exact hlisted d hd hcolumns
    rw [distinctNames_iff_nodup, (hperm.map _).nodup_iff, hwords,
      List.nodup_map_iff List.cons_injective]
  constructor
  · rintro ⟨hdistinct, hne⟩
    have hlisted := hcolumns.mp hne
    exact ⟨hlisted, (hnames hlisted).mp hdistinct⟩
  · rintro ⟨hlisted, hapart⟩
    exact ⟨(hnames hlisted).mpr hapart, hcolumns.mpr hlisted⟩

end Registry

/-! ### Execution on a database without tables -/

namespace Catalog

variable {s : Catalog} {steps more : List SchemaStep} {names others : List String}
  {table : String}

/-- Statements that make tables and indexes of some names.  They are executed exactly if the names
are different and free, and then the names are in use. -/
structure Takes (s : Catalog) (steps : List SchemaStep) (names : List String) : Prop where
  succeeds : (∃ s', s.run? steps = some s') ↔ DistinctNames id names ∧ ∀ n ∈ names, s.isFree n
  isFree_iff : ∀ s', s.run? steps = some s' →
    ∀ x, s'.isFree x ↔ s.isFree x ∧ ∀ n ∈ names, ¬ sameName n x

namespace Takes

theorem nil (s : Catalog) :
  s.Takes [] []
  := by
  constructor
  · simp [run?, DistinctNames]
  · intro s' h x
    cases h
    simp

/-- Statements one after the other. -/
theorem append (h : s.Takes steps names)
    (hmore : ∀ s', s.run? steps = some s' → s'.Takes more others) :
  s.Takes (steps ++ more) (names ++ others)
  := by
  have hrun (s₂ : Catalog) : s.run? (steps ++ more) = some s₂ ↔
      ∃ s₁, s.run? steps = some s₁ ∧ s₁.run? more = some s₂ := by
    rw [run?, List.foldlM_append]
    exact Option.bind_eq_some_iff
  constructor
  · simp only [hrun, DistinctNames, List.pairwise_append, List.forall_mem_append]
    constructor
    · rintro ⟨s₂, s₁, hfirst, hlast⟩
      obtain ⟨hdistinct, hfree⟩ := h.succeeds.mp ⟨s₁, hfirst⟩
      obtain ⟨hothers, hleft⟩ := (hmore s₁ hfirst).succeeds.mp ⟨s₂, hlast⟩
      have hused := h.isFree_iff s₁ hfirst
      refine ⟨⟨hdistinct, hothers, ?_⟩, hfree, ?_⟩
      · intro n hn x hx
        exact ((hused x).mp (hleft x hx)).2 n hn
      · intro x hx
        exact ((hused x).mp (hleft x hx)).1
    · rintro ⟨⟨hdistinct, hothers, hapart⟩, hfree, hleft⟩
      obtain ⟨s₁, hfirst⟩ := h.succeeds.mpr ⟨hdistinct, hfree⟩
      have hused := h.isFree_iff s₁ hfirst
      obtain ⟨s₂, hlast⟩ := (hmore s₁ hfirst).succeeds.mpr
        ⟨hothers, fun x hx => (hused x).mpr ⟨hleft x hx, fun n hn => hapart n hn x hx⟩⟩
      exact ⟨s₂, s₁, hfirst, hlast⟩
  · intro s₂ h₂ x
    obtain ⟨s₁, hfirst, hlast⟩ := (hrun s₂).mp h₂
    rw [(hmore s₁ hfirst).isFree_iff s₂ hlast, h.isFree_iff s₁ hfirst, List.forall_mem_append,
      and_assoc]

/-- A statement that makes something of a free name. -/
theorem singleton {step : SchemaStep} {s' : Catalog} {name : String}
    (h : s.step? step = if s.isFree name then some s' else none)
    (hused : ∀ x, s'.isFree x ↔ s.isFree x ∧ ¬ sameName name x) :
  s.Takes [step] [name]
  := by
  have hrun : s.run? [step] = if s.isFree name then some s' else none := by
    rw [run?, List.foldlM_cons, h]
    split <;> rfl
  constructor
  · rw [hrun]
    simp [DistinctNames]
  · rw [hrun]
    intro s'' hs x
    obtain ⟨-, heq⟩ := Option.ite_none_right_eq_some.mp hs
    cases heq
    rw [hused, List.forall_mem_singleton]

theorem createTable (s : Catalog) (name : String) (t : TableShape) :
  s.Takes [.createTable name t] [name]
  := by
  apply singleton rfl
  intro x
  simp only [isFree, hasTable, hasIndex, List.any_cons]
  grind

theorem createIndex (h : s.hasTable table) (i : IndexShape) :
  s.Takes [.createIndex table i] [i.name]
  := by
  have hstep : s.step? (.createIndex table i) =
      if s.isFree i.name then some { s with indexes := (table, i) :: s.indexes } else none := by
    simp [step?, h]
  apply singleton hstep
  intro x
  simp only [isFree, hasTable, hasIndex, List.any_cons]
  grind

/-- The indexes of a table that is there. -/
theorem indexSteps (h : s.hasTable table) (indexes : List IndexShape) :
  s.Takes (indexSteps table indexes) (indexes.map (·.name))
  := by
  induction indexes generalizing s with
  | nil => exact nil s
  | cons i indexes ih =>
      apply (createIndex h i).append
      intro s₁ hfirst
      obtain ⟨s₂, hstep, hnone⟩ := exists_of_run?_cons hfirst
      cases hnone
      exact ih (((step?_createIndex hstep).2.1 table).mpr h)

/-- New tables with their indexes. -/
theorem creates (s : Catalog) (ts : List TableShape) :
  s.Takes (ts.flatMap fun t => (Change.create t).steps)
    (ts.flatMap fun t => t.name :: t.indexes.map (·.name))
  := by
  induction ts generalizing s with
  | nil => exact nil s
  | cons t ts ih =>
      rw [List.flatMap_cons, List.flatMap_cons]
      apply append _ fun s' _ => ih s'
      apply (createTable s t.name t).append
      intro s₁ hfirst
      obtain ⟨s₂, hstep, hnone⟩ := exists_of_run?_cons hfirst
      cases hnone
      exact indexSteps (((step?_createTable hstep).2.1 t.name).mpr (.inr (sameName_refl _))) _

end Takes

end Catalog

/-- The plan that makes all tables of a schema. -/
def Schema.creation (s : Schema) : MigrationPlan :=
  ⟨s.shapes.map .create, []⟩

/-- Without tables, all tables of the target are made. -/
theorem Schema.plan_empty (target : Schema) (options : PlanOptions) :
  target.plan .empty options = .ok target.creation
  := by
  have hnone (name : String) : Schema.empty.table? name = none := rfl
  have hfindings : target.findings .empty options.format = [] := by
    apply List.flatMap_eq_nil_iff.mpr
    intro t _
    rw [findingsFor, hnone]
  have hchanges : target.changes .empty options.format = target.shapes.map .create := by
    rw [changes, ← List.filterMap_eq_map]
    apply List.filterMap_congr
    intro t _
    rw [changeFor?, hnone]
    rfl
  unfold plan
  rw [hfindings, hchanges]
  rfl

/-- A database without tables takes all statements of this plan exactly if no two indexes have the
same name, and none has that of a table. -/
theorem Schema.Proper.run?_creation {target : Schema} (h : target.Proper) :
  (∃ s, Catalog.run? {} target.creation.steps = some s) ↔
    DistinctNames IndexShape.name target.indexes ∧
      ∀ t ∈ target.shapes, ∀ i ∈ target.indexes, ¬ sameName t.name i.name
  := by
  have htakes := Catalog.Takes.creates {} target.shapes
  have hsteps : target.creation.steps =
      target.shapes.flatMap fun t => (Change.create t).steps := by
    rw [MigrationPlan.steps, creation, List.flatMap_map]
  have hfree (n : String) : (({} : Catalog).isFree n) = true := rfl
  have hperm := target.shapes.map_append_flatMap_perm (·.name) fun t => t.indexes.map (·.name)
  have hindexes : (target.shapes.flatMap fun t => t.indexes.map (·.name)) =
      target.indexes.map (·.name) := by
    rw [Schema.indexes, List.map_flatMap]
  rw [hindexes] at hperm
  have hmap {α : Type} (name : α → String) (as : List α) :
      DistinctNames id (as.map name) ↔ DistinctNames name as := List.pairwise_map
  rw [hsteps, htakes.succeeds, and_iff_left fun n _ => hfree n, ← DistinctNames.perm_iff hperm,
    DistinctNames, List.pairwise_append, ← DistinctNames, hmap, ← DistinctNames, hmap,
    and_iff_right h.distinct, List.forall_mem_map]
  simp only [List.forall_mem_map, id]

/-- A registry whose columns have types of the database has a target, and there is a plan that makes
it.  The indexes of the target have columns and different names exactly if those of the registry
have columns and different words.  As far as names go, a database without tables takes the plan
exactly if the names of indexes are different and none is that of a table. -/
theorem Registry.indexes_apart_iff {m : Model} {r : Registry} (hbuild : build m = .ok r)
    (htypes : ∀ d ∈ r.descriptors, ∀ c ∈ d.columns, (c.type.sqlName? c.maxLength).isSome) :
  ∃ target, r.target = .ok target ∧
    (∀ options, target.plan .empty options = .ok target.creation) ∧
    (DistinctNames IndexShape.name target.indexes ∧ (∀ i ∈ target.indexes, i.columns ≠ []) ↔
      r.IndexedApart) ∧
    ((∃ s, Catalog.run? {} target.creation.steps = some s) ↔
      DistinctNames IndexShape.name target.indexes ∧
        ∀ t ∈ target.shapes, ∀ i ∈ target.indexes, ¬ sameName t.name i.name)
  := by
  have haccepted := accepted_of_build hbuild
  obtain ⟨target, htarget⟩ := exists_target_ok htypes
  have hproper := (haccepted.proper_target htarget).1
  exact ⟨target, htarget, target.plan_empty, haccepted.distinct_indexes_iff htarget,
    hproper.run?_creation⟩

/-- The indexes of authors and posts have columns and different names. -/
theorem Registry.journal_indexes_apart :
  ∃ r target, build journal = .ok r ∧ r.target = .ok target ∧
    DistinctNames IndexShape.name target.indexes ∧ ∀ i ∈ target.indexes, i.columns ≠ []
  := by
  let r : Registry := ⟨journal.entities.map fun e => (e.finished journal.rules).1⟩
  have hr : build journal = .ok r := by rfl
  obtain ⟨target, htarget, -, hnames, -⟩ := indexes_apart_iff hr (by decide +kernel)
  exact ⟨r, target, hr, htarget, hnames.mpr ⟨by decide +kernel, by decide +kernel⟩⟩

/-- Posts with the names of tags, and tags of posts. -/
def taggedPosts : Model where
  entities :=
    [{ record := ⟨"Post", [.ofColumn "Id" .integer false, .ofColumn "Tag_Name" .text false]⟩
       table := "Post"
       description := [.index ["Tag_Name"]] },
     { record := ⟨"Tag", [.ofColumn "Id" .integer false, .ofColumn "Name" .text false]⟩
       table := "Tag"
       description := [.table "Post_Tag", .index ["Name"]] }]

/-- The tables of posts and of their tags, with an index of the same name each. -/
def taggedTarget : Schema :=
  (Schema.empty.put
    { name := "Post"
      columns := [⟨"Id", "INTEGER", false, true⟩, ⟨"Tag_Name", "TEXT", false, false⟩,
        ⟨"IsActive", "BOOLEAN", false, false⟩]
      indexes := [⟨"IX_Post_Tag_Name", ["Tag_Name"]⟩] }).put
    { name := "Post_Tag"
      columns := [⟨"Id", "INTEGER", false, true⟩, ⟨"Name", "TEXT", false, false⟩,
        ⟨"IsActive", "BOOLEAN", false, false⟩]
      indexes := [⟨"IX_Post_Tag_Name", ["Name"]⟩] }

/-- No database takes the plan that makes the tables of posts and of their tags. -/
theorem tagged_posts_indexed_alike :
  ∃ r, Registry.build taggedPosts = .ok r ∧
    (∀ d ∈ r.descriptors, ∀ c ∈ d.columns, (c.type.sqlName? c.maxLength).isSome) ∧
    r.target = .ok taggedTarget ∧
    ¬ DistinctNames IndexShape.name taggedTarget.indexes ∧
    Catalog.run? {} taggedTarget.creation.steps = none
  := by
  let r : Registry := ⟨taggedPosts.entities.map fun e => (e.finished taggedPosts.rules).1⟩
  have hr : Registry.build taggedPosts = .ok r := by rfl
  refine ⟨r, hr, ?_, ?_, ?_, ?_⟩
  · decide +kernel
  · decide +kernel
  · decide +kernel
  · decide +kernel

end EntityStore
