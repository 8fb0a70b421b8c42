import EntityStore.Entity.Registry
import EntityStore.Proofs.Except
import Mathlib.Data.List.Induction
import Mathlib.Data.List.Nodup

/-!
# Declared columns

In a registry that is built every type of entities has one descriptor.  Descriptions and rules
say more about its columns, but do not change which there are: those of the fields of the type
that are not in every table.
-/

namespace EntityStore

open Text

/-! ### Outlines -/

/-- The name of the type of a descriptor, and the names and types of its columns. -/
def Descriptor.outline (d : Descriptor) : String × List (String × ColumnType) :=
  (d.typeName, d.columns.map fun c => (c.name, c.type))

/-- The fields of a type that have columns of their own. -/
def RecordType.declared (type : RecordType) : List Field :=
  type.fields.filter fun f => !f.isImplicit

/-- The outline that the fields of a type ask for. -/
def RecordType.outline (type : RecordType) : String × List (String × ColumnType) :=
  (type.name, type.declared.map fun f => (f.name, f.columnType))

/-- A change of columns. -/
def Column.Keeps (change : Column → Column) : Prop :=
  ∀ c, (change c).name = c.name ∧ (change c).type = c.type

namespace Descriptor

variable {d d' : Descriptor}

/-- A column is changed at the first place of its name. -/
theorem updateColumn?_eq_some_iff {name : String} {change : Column → Column} :
  d.updateColumn? name change = some d' ↔
    ∃ i, (d.columns.findIdx? fun c => sameName c.name name) = some i ∧
      d' = { d with columns := d.columns.modify i change }
  := by
  unfold updateColumn?
  cases d.columns.findIdx? fun c => sameName c.name name <;> simp [eq_comm]

/-- A change of a column that keeps its name and type keeps the outline. -/
theorem outline_of_updateColumn? {name : String} {change : Column → Column}
    (hchange : Column.Keeps change) (h : d.updateColumn? name change = some d') :
  d'.outline = d.outline
  := by
  obtain ⟨i, -, rfl⟩ := updateColumn?_eq_some_iff.mp h
  unfold outline
  congr 1
  apply List.ext_getElem?
  intro n
  simp only [List.getElem?_map, List.getElem?_modify]
  split
  · cases d.columns[n]? <;> simp [hchange _]
  · simp

/-- The columns of a descriptor with the outline of a type have the names of its fields. -/
theorem names_of_outline {type : RecordType}
    (h : d.outline = type.outline) :
  d.columns.map (·.name) = type.declared.map (·.name)
  := by
  have hcolumns := congrArg (List.map Prod.fst) (congrArg Prod.snd h)
  simpa [Descriptor.outline, RecordType.outline, Function.comp_def] using hcolumns

/-- A column of a descriptor with the outline of a type is a field of it. -/
theorem exists_fieldIndex? {type : RecordType}
    (h : d.outline = type.outline) {c : Column} (hc : c ∈ d.columns) :
  ∃ i, type.fieldIndex? c.name = some i
  := by
  have hname := List.mem_map_of_mem (f := (·.name)) hc
  rw [names_of_outline h] at hname
  obtain ⟨field, hfield, hsame⟩ := List.mem_map.mp hname
  apply Option.isSome_iff_exists.mp
  rw [RecordType.fieldIndex?, List.findIdx?_isSome, List.any_eq_true]
  use field, (List.mem_filter.mp hfield).1
  rw [hsame]
  apply sameName_refl

end Descriptor

namespace Draft

/-- A clause about a column keeps the outline. -/
theorem outline_onColumn (d : Draft) (name : String) {change : Column → Column}
    (hchange : Column.Keeps change) :
  (d.onColumn name change).descriptor.outline = d.descriptor.outline
  := by
  unfold onColumn
  split
  · next descriptor hd => exact Descriptor.outline_of_updateColumn? hchange hd
  · rfl

/-- A clause keeps the outline of the fields. -/
theorem outline_apply {type : RecordType} {d : Draft} (h : d.descriptor.outline = type.outline)
    (clause : Clause) :
  (d.apply type clause).descriptor.outline = type.outline
  := by
  have hkeeps : ∀ {name change}, Column.Keeps change →
      (d.onColumn name change).descriptor.outline = type.outline := by
    intro name change hchange
    rw [outline_onColumn d name hchange, h]
  cases clause with
  | table name =>
      simp [apply, ofFields, Descriptor.outline, RecordType.outline, RecordType.declared]
  | softDelete => exact h
  | foreignKey column target => exact hkeeps fun _ => ⟨rfl, rfl⟩
  | unique column group => exact hkeeps fun _ => ⟨rfl, rfl⟩
  | maxLength column length => exact hkeeps fun _ => ⟨rfl, rfl⟩
  | nullable column => exact hkeeps fun _ => ⟨rfl, rfl⟩
  | required column => exact hkeeps fun _ => ⟨rfl, rfl⟩
  | index columns => exact h

end Draft

/-- A description keeps the outline of the fields. -/
theorem EntityType.outline_draft (e : EntityType) :
  e.draft.descriptor.outline = e.record.outline
  := by
  unfold draft
  apply List.foldlRecOn
    (motive := fun d : Draft => d.descriptor.outline = e.record.outline) e.description
  · rw [Draft.ofFields, Descriptor.outline, List.map_map]
    rfl
  · intro d hd clause _
    apply Draft.outline_apply hd

/-! ### Registration -/

namespace Assembly

/-- A type is registered without a problem only if it is new. -/
theorem register_of_problems {a : Assembly} {e : EntityType}
    (h : (a.register e).problems = []) :
  a.problems = [] ∧ (∀ d ∈ a.descriptors, d.typeName ≠ e.record.name) ∧
    (a.register e).descriptors = a.descriptors ++ [e.draft.descriptor]
  := by
  dsimp only [register] at h ⊢
  split at h
  · simp [note] at h
  · next hnew =>
      rw [if_neg hnew]
      simp only [note, List.append_eq_nil_iff] at h hnew
      exact ⟨h.1, by simpa using hnew, rfl⟩

/-- Types that are registered without a problem have different names, and each has a
descriptor with the outline of its fields. -/
theorem outlines_of_register {es : List EntityType} (h : (es.foldl register {}).problems = []) :
  (es.foldl register {}).descriptors.map (·.outline) = es.map (·.record.outline) ∧
    (es.map (·.record.name)).Nodup
  := by
  induction es using List.reverseRecOn with
  | nil => simp
  | append_singleton es e ih =>
      rw [List.foldl_append] at h ⊢
      obtain ⟨hnone, hnew, hdescriptors⟩ := register_of_problems h
      obtain ⟨houtlines, hnodup⟩ := ih hnone
      have hnames : (es.foldl register {}).descriptors.map (·.typeName) =
          es.map (·.record.name) := by
        have hfirst := congrArg (List.map Prod.fst) houtlines
        rwa [List.map_map, List.map_map] at hfirst
      constructor
      · rw [List.foldl_cons, List.foldl_nil, hdescriptors, List.map_append, houtlines,
          List.map_singleton, e.outline_draft, List.map_append]
        rfl
      · rw [List.map_append, List.nodup_append]
        refine ⟨hnodup, by simp, ?_⟩
        rw [← hnames]
        simpa using hnew

/-! ### Rules -/

/-- Adding a column to a unique group keeps the outline. -/
theorem outline_joinGroup (group : UInt32) (state : Descriptor × List ModelProblem)
    (name : String) :
  (joinGroup group state name).1.outline = state.1.outline
  := by
  obtain ⟨d, problems⟩ := state
  unfold joinGroup
  simp only
  split
  · rfl
  · split
    · rfl
    · have hkeeps : Column.Keeps ({ · with uniqueGroup := some group }) := fun _ => ⟨rfl, rfl⟩
      cases h : d.updateColumn? name ({ · with uniqueGroup := some group }) with
      | none => rfl
      | some d' => exact Descriptor.outline_of_updateColumn? hkeeps h

/-- A rule keeps the outline of the descriptor that it is about. -/
theorem outline_relate (d : Descriptor) (relation : Relation) :
  (relate d relation).1.outline = d.outline
  := by
  cases relation with
  | uniqueGroup columns =>
      apply List.foldlRecOn
        (motive := fun state : Descriptor × List ModelProblem => state.1.outline = d.outline)
        columns
      · rfl
      · intro state hstate name _
        rw [outline_joinGroup, hstate]
  | index columns => rfl
  | references column target =>
      have hkeeps : Column.Keeps ({ · with foreignKey := some target }) := fun _ => ⟨rfl, rfl⟩
      dsimp only [relate]
      split
      · next d' h => exact Descriptor.outline_of_updateColumn? hkeeps h
      · rfl

/-- A rule keeps of all descriptors what it keeps of the one that it is about. -/
theorem map_applyRule {α : Type} {f : Descriptor → α}
    (hkept : ∀ d relation, f (relate d relation).1 = f d) (a : Assembly) (rule : Rule) :
  (a.applyRule rule).descriptors.map f = a.descriptors.map f
  := by
  unfold applyRule
  split
  · rfl
  · next i _ =>
      split
      · rfl
      · next d hd =>
          simp only
          rw [List.map_set, hkept]
          apply List.ext_getElem?
          intro n
          rw [List.getElem?_set]
          split
          · next hn =>
              subst hn
              rw [List.getElem?_map, hd]
              simp [(List.getElem?_eq_some_iff.mp hd).1]
          · rfl

/-- A rule keeps all outlines and all problems. -/
theorem outlines_applyRule (a : Assembly) (rule : Rule) :
  (a.applyRule rule).descriptors.map (·.outline) = a.descriptors.map (·.outline) ∧
    ((a.applyRule rule).problems = [] → a.problems = [])
  := by
  use map_applyRule outline_relate a rule
  unfold applyRule
  split
  · simp [note]
  · split
    · exact id
    · exact fun h => (List.append_eq_nil_iff.mp h).1

/-- Rules keep all outlines and all problems. -/
theorem outlines_applyRules (a : Assembly) (rules : List Rule) :
  (rules.foldl applyRule a).descriptors.map (·.outline) = a.descriptors.map (·.outline) ∧
    ((rules.foldl applyRule a).problems = [] → a.problems = [])
  := by
  induction rules generalizing a with
  | nil => simp
  | cons rule rules ih =>
      obtain ⟨hrest, hproblems⟩ := ih (a.applyRule rule)
      obtain ⟨hfirst, hproblem⟩ := outlines_applyRule a rule
      exact ⟨hrest.trans hfirst, fun h => hproblem (hproblems h)⟩

end Assembly

/-! ### Registries -/

/-- The descriptor of a type of entities is the one that is found under its name. -/
theorem Registry.descriptor_eq_ok_iff {r : Registry} {typeName : String} {d : Descriptor} :
  r.descriptor typeName = .ok d ↔ r.ofType? typeName = some d
  := by
  unfold descriptor
  cases r.ofType? typeName <;> simp

/-- A registry that is built has one descriptor for each type of its model, with the outline of
its fields. -/
theorem Registry.outlines_of_build {m : Model} {r : Registry} (h : build m = .ok r) :
  r.descriptors.map (·.outline) = m.entities.map (·.record.outline) ∧
    (m.entities.map (·.record.name)).Nodup
  := by
  dsimp only [build] at h
  split at h
  · next hempty =>
      cases h
      obtain ⟨hrules, -⟩ := List.append_eq_nil_iff.mp (List.isEmpty_iff.mp hempty)
      obtain ⟨houtlines, hproblems⟩ :=
        Assembly.outlines_applyRules (m.entities.foldl Assembly.register {}) m.rules
      obtain ⟨hentities, hnodup⟩ := Assembly.outlines_of_register (hproblems hrules)
      exact ⟨houtlines.trans hentities, hnodup⟩
  · cases h

/-- A type of a model has a descriptor, and that has the outline of its fields. -/
theorem Registry.exists_of_mem {m : Model} {r : Registry} (h : build m = .ok r)
    {e : EntityType} (he : e ∈ m.entities) :
  ∃ d, r.ofType? e.record.name = some d ∧ d.outline = e.record.outline
  := by
  obtain ⟨houtlines, hnodup⟩ := outlines_of_build h
  obtain ⟨d, hd, hname⟩ : ∃ d ∈ r.descriptors, d.outline = e.record.outline := by
    apply List.mem_map.mp
    rw [houtlines]
    apply List.mem_map_of_mem he
  have hfound : (r.ofType? e.record.name).isSome := by
    rw [ofType?, List.find?_isSome]
    use d, hd
    exact decide_eq_true (congrArg Prod.fst hname)
  obtain ⟨found, hfound⟩ := Option.isSome_iff_exists.mp hfound
  use found, hfound
  -- The descriptor that is found is that of a type of the same name, which is the same type.
  have hmem := List.mem_map_of_mem (f := (·.outline)) (List.mem_of_find?_eq_some hfound)
  rw [houtlines] at hmem
  obtain ⟨e', he', houtline⟩ := List.mem_map.mp hmem
  have htype : found.typeName = e.record.name := by simpa using List.find?_some hfound
  have hsame : e'.record.name = e.record.name := (congrArg Prod.fst houtline).trans htype
  obtain rfl := List.inj_on_of_nodup_map hnodup he' he hsame
  exact houtline.symm

end EntityStore
