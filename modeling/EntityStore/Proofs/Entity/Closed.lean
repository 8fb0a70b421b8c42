import EntityStore.Proofs.Entity.Declared
import EntityStore.Proofs.Schema.Registered

/-!
# Closed registries

A registry that is built is closed: whatever its descriptors mention is there.  The columns of
indexes are looked up when an index is added, by a description or by a rule, and what comes later
leaves all names of columns as they are.  References are looked up last, when all tables are
known.
-/

namespace EntityStore

open Text Sql

/-! ### Indexes -/

namespace Descriptor

variable {d d' : Descriptor}

/-- Whether all columns of all indexes are there. -/
def Indexed (d : Descriptor) : Prop :=
  ∀ columns ∈ d.indexes, ∀ name ∈ columns, (d.resolve? name).isSome

/-- Descriptors with the same outline have the same columns. -/
theorem resolve?_of_outline (h : d'.outline = d.outline) (name : String) :
  d'.resolve? name = d.resolve? name
  := by
  have hcolumn : ∀ e : Descriptor, (e.column? name).map (fun c => (c.name, c.type)) =
      e.outline.2.find? fun c => sameName c.1 name := by
    intro e
    rw [column?, outline, List.find?_map]
    rfl
  unfold resolve?
  rw [hcolumn, hcolumn, h]

/-- A descriptor with the same outline and the same indexes has their columns as well. -/
theorem Indexed.congr (h : d.Indexed) (houtline : d'.outline = d.outline)
    (hindexes : d'.indexes = d.indexes) :
  d'.Indexed
  := by
  intro columns hcolumns name hname
  rw [hindexes] at hcolumns
  rw [resolve?_of_outline houtline]
  apply h columns hcolumns name hname

/-- One more index over columns that are there. -/
theorem Indexed.add (h : d.Indexed) {columns : List String}
    (hcolumns : ∀ name ∈ columns, (d.resolve? name).isSome) :
  Indexed { d with indexes := d.indexes ++ [columns] }
  := by
  show ∀ c ∈ d.indexes ++ [columns], ∀ name ∈ c, (d.resolve? name).isSome
  rw [List.forall_mem_append, List.forall_mem_singleton]
  exact ⟨h, hcolumns⟩

/-- A change of a column leaves the indexes as they are. -/
theorem indexes_of_updateColumn? {name : String} {change : Column → Column}
    (h : d.updateColumn? name change = some d') :
  d'.indexes = d.indexes
  := by
  obtain ⟨i, -, rfl⟩ := updateColumn?_eq_some_iff.mp h
  rfl

/-- A change of a column that keeps its name and type keeps the columns of indexes. -/
theorem Indexed.updateColumn? (h : d.Indexed) {name : String} {change : Column → Column}
    (hchange : Column.Keeps change) (hd : d.updateColumn? name change = some d') :
  d'.Indexed
  := h.congr (outline_of_updateColumn? hchange hd) (indexes_of_updateColumn? hd)

end Descriptor

namespace Draft

/-- Whether the columns of all indexes are there, as far as nothing else is noted. -/
def Indexed (d : Draft) : Prop :=
  d.problems = [] → d.descriptor.Indexed

/-- A clause about a column keeps the columns of indexes. -/
theorem Indexed.onColumn {d : Draft} (h : d.Indexed) (name : String) {change : Column → Column}
    (hchange : Column.Keeps change) :
  (d.onColumn name change).Indexed
  := by
  unfold Draft.onColumn
  split
  · next descriptor hd =>
      intro hnone
      exact (h hnone).updateColumn? hchange hd
  · intro hnone
    simp [note] at hnone

/-- Every clause keeps the columns of indexes, or notes that one is not there. -/
theorem Indexed.apply {d : Draft} (h : d.Indexed) (type : RecordType) (clause : Clause) :
  (d.apply type clause).Indexed
  := by
  cases clause with
  | table name =>
      intro _ columns hcolumns
      cases hcolumns
  | softDelete =>
      intro hnone
      exact (h hnone).congr rfl rfl
  | foreignKey column target => exact h.onColumn column fun _ => ⟨rfl, rfl⟩
  | unique column group => exact h.onColumn column fun _ => ⟨rfl, rfl⟩
  | maxLength column length => exact h.onColumn column fun _ => ⟨rfl, rfl⟩
  | nullable column => exact h.onColumn column fun _ => ⟨rfl, rfl⟩
  | required column => exact h.onColumn column fun _ => ⟨rfl, rfl⟩
  | index columns =>
      intro hnone
      obtain ⟨hbefore, hunknown⟩ := List.append_eq_nil_iff.mp hnone
      apply (h hbefore).add
      simpa [Option.isSome_iff_ne_none] using hunknown

end Draft

/-- A description that nothing is wrong with has indexes over columns that are there. -/
theorem EntityType.indexed_draft (e : EntityType) :
  e.draft.Indexed
  := by
  unfold draft
  apply List.foldlRecOn (motive := Draft.Indexed) e.description
  · intro _ columns hcolumns
    cases hcolumns
  · intro d hd clause _
    apply hd.apply

namespace Assembly

/-- Whether nothing is wrong with the keys of entity types and the indexes of descriptors. -/
structure Fine (es : List EntityType) (ds : List Descriptor) : Prop where
  keyed : ∀ e ∈ es, keyProblems e = []
  indexed : ∀ d ∈ ds, d.Indexed

/-- A type is registered without a problem only if nothing is wrong with it. -/
theorem problems_of_register {a : Assembly} {e : EntityType}
    (h : (a.register e).problems = []) :
  keyProblems e = [] ∧ e.draft.problems = []
  := by
  dsimp only [register] at h
  split at h
  · simp [note] at h
  · simp only [note, List.append_eq_nil_iff] at h
    exact h.2

/-- Types are registered without a problem only if nothing is wrong with any of them. -/
theorem fine_of_register {es : List EntityType} (h : (es.foldl register {}).problems = []) :
  Fine es (es.foldl register {}).descriptors
  := by
  induction es using List.reverseRecOn with
  | nil =>
      constructor
      · simp
      · simp
  | append_singleton es e ih =>
      rw [List.foldl_append] at h ⊢
      obtain ⟨hnone, -, hdescriptors⟩ := register_of_problems h
      obtain ⟨hkey, hdraft⟩ := problems_of_register h
      obtain ⟨hkeyed, hindexed⟩ := ih hnone
      constructor
      · rw [List.forall_mem_append, List.forall_mem_singleton]
        exact ⟨hkeyed, hkey⟩
      · rw [List.foldl_cons, List.foldl_nil, hdescriptors, List.forall_mem_append,
          List.forall_mem_singleton]
        exact ⟨hindexed, e.indexed_draft hdraft⟩

/-- Adding a column to a unique group keeps the columns of indexes. -/
theorem indexed_joinGroup (group : UInt32) {state : Descriptor × List ModelProblem}
    (h : state.1.Indexed) (name : String) :
  (joinGroup group state name).1.Indexed
  := by
  obtain ⟨d, problems⟩ := state
  unfold joinGroup
  simp only
  split
  · exact h
  · split
    · exact h
    · have hkeeps : Column.Keeps ({ · with uniqueGroup := some group }) := fun _ => ⟨rfl, rfl⟩
      cases hd : d.updateColumn? name ({ · with uniqueGroup := some group }) with
      | none => exact h
      | some d' => exact Descriptor.Indexed.updateColumn? h hkeeps hd

/-- A rule keeps the columns of indexes, or notes that one is not there. -/
theorem indexed_relate {d : Descriptor} (h : d.Indexed) {relation : Relation}
    (hnone : (relate d relation).2 = []) :
  (relate d relation).1.Indexed
  := by
  cases relation with
  | uniqueGroup columns =>
      apply List.foldlRecOn
        (motive := fun state : Descriptor × List ModelProblem => state.1.Indexed) columns
      · exact h
      · intro state hstate name _
        apply indexed_joinGroup _ hstate
  | index columns =>
      dsimp only [relate] at hnone ⊢
      split at hnone
      · cases hnone
      · next hfound =>
          apply h.add
          simpa [Option.isSome_iff_ne_none] using hfound
  | references column target =>
      have hkeeps : Column.Keeps ({ · with foreignKey := some target }) := fun _ => ⟨rfl, rfl⟩
      dsimp only [relate]
      split
      · next d' hd => exact h.updateColumn? hkeeps hd
      · exact h

/-- A rule that nothing is noted about keeps the columns of all indexes. -/
theorem indexed_applyRule {a : Assembly} (h : ∀ d ∈ a.descriptors, d.Indexed) {rule : Rule}
    (hnone : (a.applyRule rule).problems = []) :
  ∀ d ∈ (a.applyRule rule).descriptors, d.Indexed
  := by
  unfold applyRule at hnone ⊢
  split at hnone
  · simp [note] at hnone
  · next i _ =>
      split at hnone
      · exact h
      · next d hd =>
          obtain ⟨-, hrelate⟩ := List.append_eq_nil_iff.mp hnone
          intro e he
          obtain he | rfl := List.mem_or_eq_of_mem_set he
          · exact h e he
          · exact indexed_relate (h d (List.mem_of_getElem? hd)) hrelate

/-- Rules that nothing is noted about keep the columns of all indexes. -/
theorem indexed_applyRules {a : Assembly} {rules : List Rule}
    (hnone : (rules.foldl applyRule a).problems = [])
    (h : ∀ d ∈ a.descriptors, d.Indexed) :
  ∀ d ∈ (rules.foldl applyRule a).descriptors, d.Indexed
  := by
  induction rules generalizing a with
  | nil => exact h
  | cons rule rules ih =>
      have hfirst := (outlines_applyRules (a.applyRule rule) rules).2 hnone
      apply ih hnone (indexed_applyRule h hfirst)

end Assembly

/-! ### Names and keys -/

namespace Assembly

/-- If nothing is wrong with the names of tables, they are identifiers. -/
theorem isIdentifier_of_allNameProblems {before ds : List Descriptor}
    (h : allNameProblems before ds = []) :
  ∀ d ∈ ds, isIdentifier d.table = true
  := by
  induction ds generalizing before with
  | nil => simp
  | cons d ds ih =>
      obtain ⟨hname, hrest⟩ := List.append_eq_nil_iff.mp h
      rw [List.forall_mem_cons]
      constructor
      · unfold nameProblems at hname
        have htable := (List.append_eq_nil_iff.mp (List.append_eq_nil_iff.mp hname).1).1
        simpa using htable
      · apply ih hrest

/-- If nothing is wrong with references, every reference leads to a column. -/
theorem exists_column_of_referenceProblems {ds : List Descriptor}
    (h : referenceProblems ds = []) {d : Descriptor} (hd : d ∈ ds) {c : Column}
    {fk : ForeignKey} (hfk : (c, fk) ∈ d.foreignKeys) :
  ∃ t, (ds.find? fun t => sameName t.table fk.table) = some t ∧ (t.resolve? fk.column).isSome
  := by
  have hfine := List.filterMap_eq_nil_iff.mp (List.flatMap_eq_nil_iff.mp h d hd) _ hfk
  dsimp only [referenceProblem?] at hfine
  split at hfine
  · cases hfine
  · next t hfind =>
      use t, hfind
      split at hfine
      · cases hfine
      · next hcolumn => simpa [Option.isSome_iff_ne_none] using hcolumn

/-- If nothing is wrong with the key of a type, it is an integer. -/
theorem exists_key_of_keyProblems {e : EntityType} (h : keyProblems e = []) :
  ∃ f, (e.record.fields.find? fun f => sameName f.name primaryKey) = some f ∧
    f.columnType = .integer
  := by
  unfold keyProblems at h
  split at h
  · next f hf =>
      split at h
      · next htype => exact ⟨f, hf, htype⟩
      · cases h
  · cases h

end Assembly

/-! ### Registries -/

namespace Registry

/-- Nothing is wrong with the types of a registry that is built. -/
theorem fine_of_build {m : Model} {r : Registry} (h : build m = .ok r) :
  Assembly.Fine m.entities r.descriptors
  := by
  dsimp only [build] at h
  split at h
  · next hempty =>
      cases h
      obtain ⟨hrules, -⟩ := List.append_eq_nil_iff.mp (List.isEmpty_iff.mp hempty)
      have hregister := (Assembly.outlines_applyRules _ m.rules).2 hrules
      obtain ⟨hkeyed, hindexed⟩ := Assembly.fine_of_register hregister
      exact ⟨hkeyed, Assembly.indexed_applyRules hrules hindexed⟩
  · cases h

/-- The descriptor of a type is found under its name, and no other is. -/
theorem ofType?_eq_some_iff {r : Registry} (h : (r.descriptors.map (·.typeName)).Nodup)
    {typeName : String} {d : Descriptor} :
  r.ofType? typeName = some d ↔ d ∈ r.descriptors ∧ d.typeName = typeName
  := by
  have hfound : ∀ e, r.ofType? typeName = some e → e ∈ r.descriptors ∧ e.typeName = typeName := by
    intro e he
    exact ⟨List.mem_of_find?_eq_some he, by simpa using List.find?_some he⟩
  constructor
  · apply hfound
  · rintro ⟨hd, hname⟩
    cases he : r.ofType? typeName with
    | none => exact absurd (decide_eq_true hname) (List.find?_eq_none.mp he d hd)
    | some e =>
        obtain ⟨hmem, hsame⟩ := hfound e he
        rw [List.inj_on_of_nodup_map h hmem hd (hsame.trans hname.symm)]

/-- What is promised of the registry of a model. -/
structure Closed (m : Model) (r : Registry) : Prop where
  /-- Tables have identifiers for names. -/
  tables : ∀ d ∈ r.descriptors, isIdentifier d.table = true
  /-- Declared columns have identifiers for names. -/
  columns : ∀ d ∈ r.descriptors, ∀ c ∈ d.columns, isIdentifier c.name = true
  /-- No two tables have the same name, up to the case of letters. -/
  apart : DistinctNames Descriptor.table r.descriptors
  /-- Every reference leads to a column of a registered table. -/
  references : ∀ d ∈ r.descriptors, ∀ c fk, (c, fk) ∈ d.foreignKeys →
    ∃ t, r.table? fk.table = some t ∧ (t.resolve? fk.column).isSome
  /-- Every index is over columns of its own table. -/
  indexed : ∀ d ∈ r.descriptors, d.Indexed
  /-- The key of every type is there, and is an integer. -/
  keyed : ∀ e ∈ m.entities, ∃ f,
    (e.record.fields.find? fun f => sameName f.name primaryKey) = some f ∧ f.columnType = .integer
  /-- There is one descriptor for each type, in the order in which types are registered. -/
  ordered : r.descriptors.map (·.typeName) = m.entities.map (·.record.name)
  /-- No type is there twice. -/
  once : (m.entities.map (·.record.name)).Nodup
  /-- A type is looked up by its name. -/
  ofType?_eq : ∀ typeName d,
    r.ofType? typeName = some d ↔ d ∈ r.descriptors ∧ d.typeName = typeName
  /-- A table is looked up by any spelling of its name. -/
  table?_eq : ∀ name d, r.table? name = some d ↔ d ∈ r.descriptors ∧ sameName d.table name
  /-- Both find the descriptor that stands where its type was registered. -/
  lookup : ∀ (i : Nat) (e : EntityType), m.entities[i]? = some e → ∃ d, r.descriptors[i]? = some d ∧
    r.ofType? e.record.name = some d ∧ ∀ name, sameName d.table name → r.table? name = some d

/-- A registry that is built is closed, whatever descriptions and rules it comes from. -/
theorem closed_of_build {m : Model} {r : Registry} (h : build m = .ok r) :
  r.Closed m
  := by
  obtain ⟨hnames, hreferences⟩ := problems_of_build h
  obtain ⟨hkeyed, hindexed⟩ := fine_of_build h
  obtain ⟨houtlines, honce⟩ := outlines_of_build h
  have hapart := (Assembly.pairwise_of_allNameProblems hnames).2
  have hordered : r.descriptors.map (·.typeName) = m.entities.map (·.record.name) := by
    have hfirst := congrArg (List.map Prod.fst) houtlines
    rwa [List.map_map, List.map_map] at hfirst
  have hsame : (r.descriptors.map (·.typeName)).Nodup := by rwa [hordered]
  have htype : ∀ typeName d, r.ofType? typeName = some d ↔
      d ∈ r.descriptors ∧ d.typeName = typeName :=
    fun _ _ => ofType?_eq_some_iff hsame
  have htable : ∀ name d, r.table? name = some d ↔ d ∈ r.descriptors ∧ sameName d.table name :=
    fun name d => hapart.find?_eq_some_iff
  constructor
  · apply Assembly.isIdentifier_of_allNameProblems hnames
  · apply Assembly.named_of_allNameProblems hnames
  · apply hapart
  · intro d hd c fk hfk
    apply Assembly.exists_column_of_referenceProblems hreferences hd hfk
  · apply hindexed
  · intro e he
    apply Assembly.exists_key_of_keyProblems (hkeyed e he)
  · apply hordered
  · apply honce
  · apply htype
  · apply htable
  · intro i e he
    have hname : (r.descriptors.map (·.typeName))[i]? = some e.record.name := by
      rw [hordered, List.getElem?_map, he]
      rfl
    rw [List.getElem?_map, Option.map_eq_some_iff] at hname
    obtain ⟨d, hd, hname⟩ := hname
    have hmem := List.mem_of_getElem? hd
    use d, hd, (htype _ d).mpr ⟨hmem, hname⟩
    intro name hsame
    exact (htable name d).mpr ⟨hmem, hsame⟩

/-- Authors and their posts.  One reference comes from the description of posts, and another
from a rule, which takes the place of one that leads nowhere. -/
def journal : Model where
  entities :=
    [{ record := ⟨"Author", [.ofColumn "id" .integer false, .ofColumn "Name" .text false]⟩
       table := "Author"
       description := [.index ["Gone"], .table "Writer", .index ["name", "ISACTIVE"]] },
     { record := ⟨"Post", [.ofColumn "Id" .integer false, .ofColumn "AuthorId" .integer false,
         .ofColumn "EditorName" .text true]⟩
       table := "Post"
       description := [.foreignKey "authorid" { table := "WRITER" },
         .foreignKey "EditorName" { table := "Ghost" }] }]
  rules :=
    [⟨"post", .references "EditorName" { table := "writer", column := "NAME" }⟩,
     ⟨"POST", .index ["AuthorId", "id"]⟩]

/-- The registry of authors and posts is built and closed, and posts are found under any
spelling of the name of their table. -/
theorem closed_journal :
  ∃ r, build journal = .ok r ∧ r.Closed journal ∧
    ∃ d, d.typeName = "Post" ∧ r.table? "pOST" = some d
  := by
  obtain ⟨r, hr⟩ : ∃ r, build journal = .ok r := ⟨_, rfl⟩
  have hclosed := closed_of_build hr
  obtain ⟨d, -, hd, htable⟩ := hclosed.lookup 1 _ rfl
  have hmem := ((hclosed.ofType?_eq _ d).mp hd).2
  refine ⟨r, hr, hclosed, d, hmem, ?_⟩
  cases hr
  cases hd
  apply htable
  decide

end Registry

end EntityStore
