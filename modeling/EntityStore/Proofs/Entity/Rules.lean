import EntityStore.Proofs.Entity.Closed

/-!
# Rules about tables

In a model without problems no two tables have the same name, so that a rule is about the
descriptor of one type.  What becomes of a type then depends on its own description and on the
rules about its table only.  A model has no problems exactly if nothing is wrong with any of its
types, rules and references, in whatever order the types are registered.
-/

namespace EntityStore

open Text Sql

/-! ### Rules about one table -/

/-- What rules say about a table, in their order. -/
def relationsOf (rules : List Rule) (table : String) : List Relation :=
  (rules.filter fun rule => sameName table rule.table).map (·.relation)

/-- What a further rule says comes first, if it is about the table. -/
theorem relationsOf_cons (rule : Rule) (rules : List Rule) (table : String) :
  relationsOf (rule :: rules) table =
    if sameName table rule.table then rule.relation :: relationsOf rules table
    else relationsOf rules table
  := by
  unfold relationsOf
  rw [List.filter_cons]
  split <;> rfl

/-- A descriptor after what is said about its table, with the problems noted. -/
def Descriptor.related (d : Descriptor) : List Relation → Descriptor × List ModelProblem
  | [] => (d, [])
  | relation :: relations =>
    let (first, problems) := Assembly.relate d relation
    let (last, more) := first.related relations
    (last, problems ++ more)

/-- The descriptor of a type after all rules, with the problems that they have noted. -/
def EntityType.finished (e : EntityType) (rules : List Rule) : Descriptor × List ModelProblem :=
  e.draft.descriptor.related (relationsOf rules e.draft.descriptor.table)

namespace Descriptor

variable {d d' : Descriptor}

theorem related_cons (d : Descriptor) (relation : Relation) (relations : List Relation) :
  d.related (relation :: relations) =
    (((Assembly.relate d relation).1.related relations).1,
      (Assembly.relate d relation).2 ++ ((Assembly.relate d relation).1.related relations).2)
  := rfl

/-- A change of a column leaves the name of the table as it is. -/
theorem table_of_updateColumn? {name : String} {change : Column → Column}
    (h : d.updateColumn? name change = some d') :
  d'.table = d.table
  := by
  obtain ⟨i, -, rfl⟩ := updateColumn?_eq_some_iff.mp h
  rfl

end Descriptor

namespace Assembly

/-- Adding a column to a unique group leaves the name of the table as it is. -/
theorem table_joinGroup (group : UInt32) (state : Descriptor × List ModelProblem)
    (name : String) :
  (joinGroup group state name).1.table = state.1.table
  := by
  obtain ⟨d, problems⟩ := state
  unfold joinGroup
  simp only
  split
  · rfl
  · split
    · rfl
    · cases h : d.updateColumn? name ({ · with uniqueGroup := some group }) with
      | none => rfl
      | some d' => exact Descriptor.table_of_updateColumn? h

/-- A rule leaves the name of its table as it is. -/
theorem table_relate (d : Descriptor) (relation : Relation) :
  (relate d relation).1.table = d.table
  := by
  cases relation with
  | uniqueGroup columns =>
      apply List.foldlRecOn
        (motive := fun state : Descriptor × List ModelProblem => state.1.table = d.table) columns
      · rfl
      · intro state hstate name _
        rw [table_joinGroup, hstate]
  | index columns => rfl
  | references column target =>
      dsimp only [relate]
      split
      · next d' h => exact Descriptor.table_of_updateColumn? h
      · rfl

/-- Rules leave the names of tables as they are. -/
theorem tables_applyRules (a : Assembly) (rules : List Rule) :
  (rules.foldl applyRule a).descriptors.map (·.table) = a.descriptors.map (·.table)
  := by
  induction rules generalizing a with
  | nil => rfl
  | cons rule rules ih => rw [List.foldl_cons, ih, map_applyRule table_relate]

/-- A rule changes the one descriptor of its table.  It has no problem exactly if there is such
a descriptor and nothing is noted about it. -/
theorem applyRule_spec {a : Assembly} (hapart : DistinctNames Descriptor.table a.descriptors)
    (rule : Rule) :
  (a.applyRule rule).descriptors = a.descriptors.map (fun d =>
      if sameName d.table rule.table then (relate d rule.relation).1 else d) ∧
    ((a.applyRule rule).problems = [] ↔ a.problems = [] ∧
      (∃ d ∈ a.descriptors, sameName d.table rule.table) ∧
      ∀ d ∈ a.descriptors, sameName d.table rule.table → (relate d rule.relation).2 = [])
  := by
  unfold applyRule
  cases hfind : a.descriptors.findIdx? fun d => sameName d.table rule.table with
  | none =>
      rw [List.findIdx?_eq_none_iff] at hfind
      constructor
      · show a.descriptors = _
        symm
        rw [List.map_congr_left (g := id), List.map_id]
        intro d hd
        rw [hfind d hd]
        rfl
      · simp only [note, List.append_eq_nil_iff, List.cons_ne_nil, and_false, false_iff]
        rintro ⟨-, ⟨d, hd, hsame⟩, -⟩
        rw [hfind d hd] at hsame
        cases hsame
  | some i =>
      obtain ⟨hi, hsame, -⟩ := List.findIdx?_eq_some_iff_getElem.mp hfind
      -- No other descriptor has a table of this name.
      have hother : ∀ n (hn : n < a.descriptors.length),
          sameName a.descriptors[n].table rule.table ↔ n = i := by
        intro n hn
        constructor
        · intro hname
          by_contra hne
          rcases Nat.lt_or_gt_of_ne hne with hlt | hlt
          · apply List.pairwise_iff_getElem.mp hapart n i hn hi hlt
            apply sameName_trans hname (sameName_symm hsame)
          · apply List.pairwise_iff_getElem.mp hapart i n hi hn hlt
            apply sameName_trans hsame (sameName_symm hname)
        · rintro rfl
          exact hsame
      simp only [List.getElem?_eq_getElem hi]
      constructor
      · apply List.ext_getElem
        · simp
        · intro n hn hmap
          have hlt : n < a.descriptors.length := by simpa using hmap
          simp only [List.getElem_set, List.getElem_map, hother n hlt]
          grind
      · rw [List.append_eq_nil_iff, List.exists_mem_iff_getElem, List.forall_mem_iff_getElem]
        simp only [hother]
        grind

/-- Rules change every descriptor by what they say about its table.  They have no problem exactly
if each of them is about a table that is there, and nothing is noted about any. -/
theorem applyRules_spec {a : Assembly} (hapart : DistinctNames Descriptor.table a.descriptors)
    (rules : List Rule) :
  (rules.foldl applyRule a).descriptors =
      a.descriptors.map (fun d => (d.related (relationsOf rules d.table)).1) ∧
    ((rules.foldl applyRule a).problems = [] ↔ a.problems = [] ∧
      (∀ rule ∈ rules, ∃ d ∈ a.descriptors, sameName d.table rule.table) ∧
      ∀ d ∈ a.descriptors, (d.related (relationsOf rules d.table)).2 = [])
  := by
  induction rules generalizing a with
  | nil => simp [relationsOf, Descriptor.related]
  | cons rule rules ih =>
      obtain ⟨hdescriptors, hproblems⟩ := applyRule_spec hapart rule
      let change (d : Descriptor) : Descriptor :=
        if sameName d.table rule.table then (relate d rule.relation).1 else d
      have htable (d : Descriptor) : (change d).table = d.table := by
        unfold change
        split
        · apply table_relate
        · rfl
      -- What all rules do is what the others do after the first.
      have hfirst (d : Descriptor) : (d.related (relationsOf (rule :: rules) d.table)).1 =
            ((change d).related (relationsOf rules (change d).table)).1 ∧
          ((d.related (relationsOf (rule :: rules) d.table)).2 = [] ↔
            (sameName d.table rule.table → (relate d rule.relation).2 = []) ∧
              ((change d).related (relationsOf rules (change d).table)).2 = []) := by
        rw [htable, relationsOf_cons]
        unfold change
        split
        · next hsame => simp [Descriptor.related_cons, hsame]
        · next hsame => simp [hsame]
      have hchanged : DistinctNames Descriptor.table (a.applyRule rule).descriptors := by
        rw [hdescriptors]
        apply List.pairwise_map.mpr
        apply hapart.imp
        intro d e hne
        show ¬ sameName (change d).table (change e).table
        rwa [htable, htable]
      obtain ⟨hrest, hnone⟩ := ih hchanged
      have hexists (table : String) : (∃ d ∈ (a.applyRule rule).descriptors,
          sameName d.table table) ↔ ∃ d ∈ a.descriptors, sameName d.table table := by
        rw [hdescriptors]
        simp only [List.mem_map, exists_exists_and_eq_and]
        show (∃ d ∈ a.descriptors, sameName (change d).table table) ↔ _
        simp only [htable]
      rw [List.foldl_cons, hrest, hnone, hproblems]
      constructor
      · rw [hdescriptors, List.map_map]
        apply List.map_congr_left
        intro d _
        exact (hfirst d).1.symm
      · simp only [hexists, List.forall_mem_cons]
        simp only [hdescriptors, List.forall_mem_map, hfirst]
        grind

/-- Rules finish the descriptors of types of different tables, each on its own. -/
theorem finished_spec {a : Assembly} {es : List EntityType}
    (hdrafts : a.descriptors = es.map (·.draft.descriptor))
    (hapart : DistinctNames (fun e : EntityType => e.draft.descriptor.table) es)
    (rules : List Rule) :
  (rules.foldl applyRule a).descriptors = es.map (fun e => (e.finished rules).1) ∧
    ((rules.foldl applyRule a).problems = [] ↔ a.problems = [] ∧
      (∀ rule ∈ rules, ∃ e ∈ es, sameName e.draft.descriptor.table rule.table) ∧
      ∀ e ∈ es, (e.finished rules).2 = [])
  := by
  have hdistinct : DistinctNames Descriptor.table a.descriptors := by
    rw [hdrafts]
    exact List.pairwise_map.mpr hapart
  obtain ⟨hdescriptors, hproblems⟩ := applyRules_spec hdistinct rules
  rw [hdescriptors, hproblems, hdrafts, List.map_map, List.forall_mem_map]
  constructor
  · rfl
  · simp only [List.mem_map, exists_exists_and_eq_and]
    rfl

/-! ### Registration -/

/-- A type is registered without a further problem exactly if nothing is wrong with it and it is
new. -/
theorem problems_register_iff {a : Assembly} {e : EntityType} :
  (a.register e).problems = [] ↔ a.problems = [] ∧
    (keyProblems e = [] ∧ e.draft.problems = []) ∧ ∀ d ∈ a.descriptors, d.typeName ≠ e.record.name
  := by
  constructor
  · intro h
    obtain ⟨hnone, hnew, -⟩ := register_of_problems h
    exact ⟨hnone, problems_of_register h, hnew⟩
  · rintro ⟨hnone, ⟨hkey, hdraft⟩, hnew⟩
    dsimp only [register]
    rw [if_neg]
    · simp [note, hnone, hkey, hdraft]
    · simpa [note] using hnew

/-- Types are registered without a problem exactly if nothing is wrong with any of them and they
have different names.  Then their descriptors are those of their descriptions. -/
theorem registered_spec (es : List EntityType) :
  ((es.foldl register {}).problems = [] ↔
    (∀ e ∈ es, keyProblems e = [] ∧ e.draft.problems = []) ∧ (es.map (·.record.name)).Nodup) ∧
  ((es.foldl register {}).problems = [] →
    (es.foldl register {}).descriptors = es.map (·.draft.descriptor))
  := by
  induction es using List.reverseRecOn with
  | nil => simp
  | append_singleton es e ih =>
      obtain ⟨hproblems, hdescriptors⟩ := ih
      have hname (e : EntityType) : e.draft.descriptor.typeName = e.record.name :=
        congrArg Prod.fst e.outline_draft
      rw [List.foldl_append, List.foldl_cons, List.foldl_nil]
      have hnames : (es.foldl register {}).problems = [] →
          ((∀ d ∈ (es.foldl register {}).descriptors, d.typeName ≠ e.record.name) ↔
            ∀ f ∈ es, f.record.name ≠ e.record.name) := by
        intro hnone
        rw [hdescriptors hnone, List.forall_mem_map]
        simp only [hname]
      constructor
      · rw [problems_register_iff, and_congr_right fun hnone => and_congr_right' (hnames hnone),
          hproblems, List.forall_mem_append, List.forall_mem_singleton, List.map_append,
          List.map_singleton, List.nodup_append]
        simp only [List.nodup_singleton, List.forall_mem_map, List.mem_singleton, forall_eq,
          true_and]
        tauto
      · intro h
        obtain ⟨hnone, -, heq⟩ := register_of_problems h
        rw [heq, hdescriptors hnone, List.map_append, List.map_singleton]

/-! ### Names and references -/

/-- Nothing is wrong with names exactly if they are identifiers and tables have different ones. -/
theorem allNameProblems_eq_nil_iff {before ds : List Descriptor} :
  allNameProblems before ds = [] ↔
    (∀ d ∈ ds, isIdentifier d.table ∧ ∀ c ∈ d.columns, isIdentifier c.name) ∧
    (∀ e ∈ before, ∀ d ∈ ds, ¬ sameName e.table d.table) ∧ DistinctNames Descriptor.table ds
  := by
  constructor
  · intro h
    exact ⟨fun d hd => ⟨isIdentifier_of_allNameProblems h d hd, named_of_allNameProblems h d hd⟩,
      pairwise_of_allNameProblems h⟩
  · rintro ⟨hnamed, hbefore, hapart⟩
    induction ds generalizing before with
    | nil => rfl
    | cons d ds ih =>
        rw [List.forall_mem_cons] at hnamed
        obtain ⟨hd, hapart⟩ := List.pairwise_cons.mp hapart
        have hunused : ∀ e ∈ before.reverse, ¬ sameName e.table d.table :=
          fun e he => hbefore e (List.mem_reverse.mp he) d List.mem_cons_self
        have hfirst : nameProblems before d = [] := by
          unfold nameProblems
          rw [List.find?_eq_none.mpr hunused]
          simpa [hnamed.1.1] using hnamed.1.2
        rw [allNameProblems, hfirst, List.nil_append]
        apply ih hnamed.2 _ hapart
        rw [List.forall_mem_append, List.forall_mem_singleton]
        exact ⟨fun e he f hf => hbefore e he f (List.mem_cons_of_mem _ hf), hd⟩

/-- Nothing is wrong with references exactly if each of them leads to a column of a table. -/
theorem referenceProblems_eq_nil_iff {ds : List Descriptor}
    (hapart : DistinctNames Descriptor.table ds) :
  referenceProblems ds = [] ↔ ∀ d ∈ ds, ∀ c fk, (c, fk) ∈ d.foreignKeys →
    ∃ t ∈ ds, sameName t.table fk.table ∧ (t.resolve? fk.column).isSome
  := by
  constructor
  · intro h d hd c fk hfk
    obtain ⟨t, hfind, hcolumn⟩ := exists_column_of_referenceProblems h hd hfk
    obtain ⟨ht, hsame⟩ := hapart.find?_eq_some_iff.mp hfind
    exact ⟨t, ht, hsame, hcolumn⟩
  · intro h
    apply List.flatMap_eq_nil_iff.mpr
    intro d hd
    apply List.filterMap_eq_nil_iff.mpr
    rintro ⟨c, fk⟩ hfk
    obtain ⟨t, ht, hsame, hcolumn⟩ := h d hd c fk hfk
    have hfind := hapart.find?_eq_some_iff.mpr ⟨ht, hsame⟩
    simp [referenceProblem?, hfind, Option.ne_none_iff_isSome.mpr hcolumn]

end Assembly

/-! ### Sound models -/

/-- A model without problems, whatever the order of its types. -/
structure Model.Sound (m : Model) : Prop where
  /-- Nothing is wrong with the key or the description of a type. -/
  described : ∀ e ∈ m.entities, Assembly.keyProblems e = [] ∧ e.draft.problems = []
  /-- No type is registered twice. -/
  once : (m.entities.map (·.record.name)).Nodup
  /-- Every rule is about a table. -/
  addressed : ∀ rule ∈ m.rules, ∃ e ∈ m.entities, sameName e.draft.descriptor.table rule.table
  /-- Nothing is wrong with what the rules say. -/
  related : ∀ e ∈ m.entities, (e.finished m.rules).2 = []
  /-- Tables and columns have identifiers for names. -/
  named : ∀ e ∈ m.entities, isIdentifier (e.finished m.rules).1.table ∧
    ∀ c ∈ (e.finished m.rules).1.columns, isIdentifier c.name
  /-- Tables have different names. -/
  apart : DistinctNames (fun e : EntityType => e.draft.descriptor.table) m.entities
  /-- Every reference leads to a column of a table. -/
  references : ∀ e ∈ m.entities, ∀ c fk, (c, fk) ∈ (e.finished m.rules).1.foreignKeys →
    ∃ t ∈ m.entities, sameName (t.finished m.rules).1.table fk.table ∧
      ((t.finished m.rules).1.resolve? fk.column).isSome

/-- All rules leave the name of a table as it is. -/
theorem Descriptor.table_related (d : Descriptor) (relations : List Relation) :
  (d.related relations).1.table = d.table
  := by
  induction relations generalizing d with
  | nil => rfl
  | cons relation relations ih =>
      rw [related_cons, ih, Assembly.table_relate]

/-- A model has a registry exactly if it is sound.  The descriptor of each type is what the rules
about its table make of its description. -/
theorem Registry.build_eq_ok_iff {m : Model} {r : Registry} :
  build m = .ok r ↔ m.Sound ∧ r = ⟨m.entities.map fun e => (e.finished m.rules).1⟩
  := by
  obtain ⟨hregistered, hdescriptors⟩ := Assembly.registered_spec m.entities
  let registered := m.entities.foldl Assembly.register {}
  let related := m.rules.foldl Assembly.applyRule registered
  have hbuild : build m = .ok r ↔
      (related.problems = [] ∧ Assembly.allNameProblems [] related.descriptors = [] ∧
        Assembly.referenceProblems related.descriptors = []) ∧ r = ⟨related.descriptors⟩ := by
    have hproblems : (Assembly.ofModel m).problems = related.problems ++
        (Assembly.allNameProblems [] related.descriptors ++
          Assembly.referenceProblems related.descriptors) := rfl
    simp only [build, hproblems, List.isEmpty_iff, List.append_eq_nil_iff]
    split
    · next hnone => simp [hnone, eq_comm, related, registered, Assembly.ofModel, Assembly.note]
    · next hsome => simp [hsome]
  rw [hbuild, Assembly.allNameProblems_eq_nil_iff]
  constructor
  · rintro ⟨⟨hrelated, ⟨hnamed, -, hapart⟩, hreferences⟩, rfl⟩
    have hnone := (Assembly.outlines_applyRules registered m.rules).2 hrelated
    obtain ⟨hdescribed, honce⟩ := hregistered.mp hnone
    have hdrafts : registered.descriptors = _ := hdescriptors hnone
    have htables : DistinctNames (fun e : EntityType => e.draft.descriptor.table) m.entities := by
      have hsame := Assembly.tables_applyRules registered m.rules
      rw [hdrafts, List.map_map] at hsame
      have hnames : (related.descriptors.map (·.table)).Pairwise fun a b => ¬ sameName a b :=
        List.pairwise_map.mpr hapart
      rw [hsame] at hnames
      exact List.pairwise_map.mp hnames
    obtain ⟨hfinished, hproblems⟩ := Assembly.finished_spec hdrafts htables m.rules
    obtain ⟨-, haddressed, hfine⟩ := hproblems.mp hrelated
    change related.descriptors = _ at hfinished
    rw [Assembly.referenceProblems_eq_nil_iff hapart] at hreferences
    rw [hfinished, List.forall_mem_map] at hnamed hreferences
    simp only [List.mem_map, exists_exists_and_eq_and] at hreferences
    refine ⟨⟨hdescribed, honce, haddressed, hfine, hnamed, htables, hreferences⟩, ?_⟩
    rw [hfinished]
  · rintro ⟨hsound, rfl⟩
    have hnone : registered.problems = [] := hregistered.mpr ⟨hsound.described, hsound.once⟩
    have hdrafts : registered.descriptors = _ := hdescriptors hnone
    obtain ⟨hfinished, hproblems⟩ := Assembly.finished_spec hdrafts hsound.apart m.rules
    change related.descriptors = _ at hfinished
    have hapart : DistinctNames Descriptor.table related.descriptors := by
      rw [hfinished]
      apply List.pairwise_map.mpr
      apply hsound.apart.imp
      intro e f hne
      simpa only [EntityType.finished, Descriptor.table_related] using hne
    have hrelated := hproblems.mpr ⟨hnone, hsound.addressed, hsound.related⟩
    refine ⟨⟨hrelated, ⟨?_, by simp, hapart⟩, ?_⟩, ?_⟩
    · rw [hfinished, List.forall_mem_map]
      exact hsound.named
    · rw [Assembly.referenceProblems_eq_nil_iff hapart, hfinished, List.forall_mem_map]
      simp only [List.mem_map, exists_exists_and_eq_and]
      exact hsound.references
    · rw [hfinished]

end EntityStore
