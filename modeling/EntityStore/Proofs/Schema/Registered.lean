import EntityStore.Proofs.Except
import EntityStore.Proofs.Schema.Tables
import EntityStore.Schema.Target

/-!
# Targets of registries

A model without problems has tables of different names, and its references lead to tables
that it has.  So the schema that its registry asks for is proper, and is closed under
references.
-/

namespace EntityStore

open Text

/-! ### Models without problems -/

namespace Assembly

/-- If nothing is wrong with the names of tables, no two are the same. -/
theorem pairwise_of_allNameProblems {before ds : List Descriptor}
    (h : allNameProblems before ds = []) :
  (∀ e ∈ before, ∀ d ∈ ds, ¬ sameName e.table d.table) ∧
    DistinctNames Descriptor.table ds
  := by
  induction ds generalizing before with
  | nil => exact ⟨by simp, List.Pairwise.nil⟩
  | cons d ds ih =>
      obtain ⟨hname, hrest⟩ := List.append_eq_nil_iff.mp h
      obtain ⟨hbefore, hapart⟩ := ih hrest
      have hunused : ∀ e ∈ before, ¬ sameName e.table d.table := by
        unfold nameProblems at hname
        have htwice := (List.append_eq_nil_iff.mp (List.append_eq_nil_iff.mp hname).1).2
        split at htwice
        · cases htwice
        · next hnone => simpa using hnone
      constructor
      · intro e he
        rw [List.forall_mem_cons]
        exact ⟨hunused e he, hbefore e (List.mem_append_left _ he)⟩
      · apply List.Pairwise.cons _ hapart
        apply hbefore d (by simp)

/-- If nothing is wrong with the names of columns, they are identifiers. -/
theorem named_of_allNameProblems {before ds : List Descriptor}
    (h : allNameProblems before ds = []) :
  ∀ d ∈ ds, ∀ c ∈ d.columns, Sql.isIdentifier c.name = true
  := by
  induction ds generalizing before with
  | nil => simp
  | cons d ds ih =>
      obtain ⟨hname, hrest⟩ := List.append_eq_nil_iff.mp h
      rw [List.forall_mem_cons]
      constructor
      · unfold nameProblems at hname
        have hcolumns := (List.append_eq_nil_iff.mp hname).2
        simpa using hcolumns
      · apply ih hrest

/-- If nothing is wrong with references, every reference leads to a table. -/
theorem exists_table_of_referenceProblems {ds : List Descriptor}
    (h : referenceProblems ds = []) {d : Descriptor} (hd : d ∈ ds) {c : Column}
    {fk : ForeignKey} (hfk : (c, fk) ∈ d.foreignKeys) :
  ∃ t ∈ ds, sameName t.table fk.table
  := by
  have hfine := List.filterMap_eq_nil_iff.mp (List.flatMap_eq_nil_iff.mp h d hd) _ hfk
  cases hfind : ds.find? fun t => sameName t.table fk.table with
  | none => simp [referenceProblem?, hfind] at hfine
  | some t =>
      have hsame := List.find?_some hfind
      exact ⟨t, List.mem_of_find?_eq_some hfind, hsame⟩

end Assembly

namespace Registry

/-- Nothing is wrong with the descriptors of a registry that is built. -/
theorem problems_of_build {m : Model} {r : Registry} (h : build m = .ok r) :
  Assembly.allNameProblems [] r.descriptors = [] ∧
    Assembly.referenceProblems r.descriptors = []
  := by
  dsimp only [build] at h
  split at h
  · next hempty =>
      cases h
      have hnone := List.append_eq_nil_iff.mp (List.isEmpty_iff.mp hempty)
      exact List.append_eq_nil_iff.mp hnone.2
  · cases h

/-- The descriptors of a registry that a model without problems gives. -/
structure Accepted (r : Registry) : Prop where
  apart : DistinctNames Descriptor.table r.descriptors
  closed : ∀ d ∈ r.descriptors, ∀ c fk, (c, fk) ∈ d.foreignKeys →
    ∃ e ∈ r.descriptors, sameName e.table fk.table

/-- A registry that is built is accepted. -/
theorem accepted_of_build {m : Model} {r : Registry} (h : build m = .ok r) :
  r.Accepted
  := by
  obtain ⟨hnames, hreferences⟩ := problems_of_build h
  constructor
  · apply (Assembly.pairwise_of_allNameProblems hnames).2
  · intro d hd c fk hfk
    apply Assembly.exists_table_of_referenceProblems hreferences hd hfk

end Registry

/-! ### Shapes of descriptors -/

/-- The table of a descriptor has its name. -/
theorem Descriptor.name_of_shape {d : Descriptor} {t : TableShape} (h : d.shape = .ok t) :
  t.name = d.table
  := by
  obtain ⟨declared, -, heq⟩ := exists_of_bind_ok h
  cases heq
  rfl

/-- The references of the table of a descriptor are those of its columns. -/
theorem Descriptor.references_of_shape {d : Descriptor} {t : TableShape} (h : d.shape = .ok t)
    {reference : ReferenceShape} (hreference : reference ∈ t.references) :
  ∃ c fk, (c, fk) ∈ d.foreignKeys ∧ reference = d.referenceShape c fk
  := by
  obtain ⟨declared, -, heq⟩ := exists_of_bind_ok h
  cases heq
  obtain ⟨⟨c, fk⟩, hfk, rfl⟩ := List.mem_map.mp (List.mem_mergeSort.mp hreference)
  exact ⟨c, fk, hfk, rfl⟩

namespace Registry.Accepted

variable {r : Registry} {target : Schema}

/-- The tables of descriptors have different names. -/
theorem distinct_shapes (h : r.Accepted) {shapes : List TableShape}
    (hshapes : r.descriptors.mapM (·.shape) = .ok shapes) :
  DistinctNames TableShape.name shapes
  := by
  have hapart : (r.descriptors.map (·.shape)).Pairwise fun x y =>
      ∀ t u, x = .ok t → y = .ok u → ¬ sameName t.name u.name := by
    rw [List.pairwise_map]
    apply h.apart.imp
    intro d e hne t u ht hu
    rwa [Descriptor.name_of_shape ht, Descriptor.name_of_shape hu]
  rw [map_eq_of_mapM_ok hshapes, List.pairwise_map] at hapart
  exact hapart.imp fun hne => hne _ _ rfl rfl

/-- The target has one table for each descriptor. -/
theorem proper_target (h : r.Accepted) (htarget : r.target = .ok target) :
  target.Proper ∧ ∀ t, t ∈ target.shapes ↔ ∃ d ∈ r.descriptors, d.shape = .ok t
  := by
  obtain ⟨shapes, hshapes, heq⟩ := exists_of_bind_ok htarget
  cases heq
  obtain ⟨hproper, hmem⟩ := Schema.Proper.empty.foldl_insert (h.distinct_shapes hshapes)
    (by simp [Schema.shapes, Schema.empty])
  use hproper
  intro t
  rw [hmem, ← List.mem_map (f := (·.shape)) (l := r.descriptors), map_eq_of_mapM_ok hshapes]
  simp [Schema.shapes, Schema.empty]

/-- A reference of the target leads to a table of it. -/
theorem closed_target (h : r.Accepted) (htarget : r.target = .ok target) {t : TableShape}
    (ht : t ∈ target.shapes) {reference : ReferenceShape} (href : reference ∈ t.references) :
  ∃ u ∈ target.shapes, sameName u.name reference.foreignTable
  := by
  obtain ⟨-, hmem⟩ := h.proper_target htarget
  obtain ⟨d, hd, hshape⟩ := (hmem t).mp ht
  obtain ⟨c, fk, hfk, rfl⟩ := Descriptor.references_of_shape hshape href
  obtain ⟨e, he, hsame⟩ := h.closed d hd c fk hfk
  obtain ⟨shapes, hshapes, -⟩ := exists_of_bind_ok htarget
  have hshape : e.shape ∈ shapes.map .ok := by
    rw [← map_eq_of_mapM_ok hshapes]
    apply List.mem_map_of_mem he
  obtain ⟨u, -, hu⟩ := List.mem_map.mp hshape
  use u, (hmem u).mpr ⟨e, he, hu.symm⟩
  rwa [Descriptor.name_of_shape hu.symm]

end Registry.Accepted

/-- Items with a name, which has an index. -/
def item : EntityType where
  record := ⟨"Item", [.ofColumn "Id" .integer false, .ofColumn "Name" .text false]⟩
  table := "Item"
  description := [.index ["Name"]]

/-- The table of items. -/
def itemTable : TableShape where
  name := "Item"
  columns := [⟨"Id", "INTEGER", false, true⟩, ⟨"Name", "TEXT", false, false⟩,
    ⟨"IsActive", "BOOLEAN", false, false⟩]
  indexes := [⟨"IX_Item_Name", ["Name"]⟩]

/-- The schema of items. -/
def items : Schema :=
  Schema.empty.put itemTable

/-- Items and nothing else are what their registry asks for. -/
theorem target_item :
  ∃ r, Registry.build ⟨[item], []⟩ = .ok r ∧ r.target = .ok items
  := ⟨_, rfl, by decide +kernel⟩

/-- A table of items without a name for some of them, and with another index. -/
def unnamedItems : TableShape where
  name := "item"
  columns := [⟨"Id", "INTEGER", false, true⟩, ⟨"Name", "TEXT", true, false⟩,
    ⟨"IsActive", "BOOLEAN", false, false⟩]
  indexes := [⟨"IX_item_IsActive", ["IsActive"]⟩]

end EntityStore
