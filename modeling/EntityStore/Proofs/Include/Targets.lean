import EntityStore.Proofs.Entity.Closed
import EntityStore.Proofs.Include.Steps

/-!
# Targets of pairings

A step is paired by the first reference that leads from its table to the one it is linked from,
or the other way.  The column that is referenced is known, but rows are paired on the key.  So
they are paired on the column that is referenced exactly if that is the key.
-/

namespace EntityStore

open Text Sql

/-! ### References of steps -/

namespace IncludeStep

variable {s : IncludeStep} {d : Descriptor}

/-- The reference that a step is paired by: one of its own table if it is reversed, else one of
the table it is linked from. -/
def reference? (s : IncludeStep) (d : Descriptor) : Option (Column × ForeignKey) :=
  if s.reversed then s.descriptor.foreignKeyTo? d.table else d.foreignKeyTo? s.descriptor.table

/-- The table that has the reference of a step. -/
def referencing (s : IncludeStep) (d : Descriptor) : Descriptor :=
  if s.reversed then s.descriptor else d

/-- The table that the reference of a step leads to. -/
def referenced (s : IncludeStep) (d : Descriptor) : Descriptor :=
  if s.reversed then d else s.descriptor

/-- The pairing of a step with the table under an alias, where `column` references `target`. -/
def pairingOn (s : IncludeStep) (tableAlias column target : String) : Equality :=
  if s.reversed then .columns s.tableAlias column tableAlias target
  else .columns s.tableAlias target tableAlias column

/-- The columns of a pairing are known by it. -/
theorem pairingOn_inj {tableAlias column target target' : String} :
  s.pairingOn tableAlias column target = s.pairingOn tableAlias column target' ↔ target = target'
  := by
  unfold pairingOn
  split <;> simp

/-- The reference of a step is one of the table that has it, and names the one it leads to. -/
theorem mem_of_reference? {c : Column} {fk : ForeignKey} (h : s.reference? d = some (c, fk)) :
  (c, fk) ∈ (s.referencing d).foreignKeys ∧ sameName fk.table (s.referenced d).table
  := by
  have hfound : (s.referencing d).foreignKeyTo? (s.referenced d).table = some (c, fk) := by
    unfold reference? at h
    unfold referencing referenced
    split at h
    · next hreversed => rwa [if_pos hreversed, if_pos hreversed]
    · next hreversed => rwa [if_neg hreversed, if_neg hreversed]
  have hsame := List.find?_some hfound
  exact ⟨List.mem_of_find?_eq_some hfound, hsame⟩

end IncludeStep

/-- A column is found as the key exactly if it is asked for by the name of the key. -/
theorem Descriptor.eq_primaryKey_iff {d : Descriptor} {name column : String} {type : ColumnType}
    (h : d.resolve? name = some (column, type)) :
  column = primaryKey ↔ sameName name primaryKey
  := by
  constructor
  · intro hcolumn
    unfold resolve? at h
    split at h
    · next hkey => exact hkey
    · split at h
      · cases h
        exact absurd hcolumn (by decide)
      · obtain ⟨c, hc, heq⟩ := Option.map_eq_some_iff.mp h
        have hsame := List.find?_some hc
        have hname : c.name = column := congrArg Prod.fst heq
        rw [hname, hcolumn] at hsame
        exact sameName_symm hsame
  · intro hkey
    rw [resolve?, if_pos hkey] at h
    cases h
    rfl

namespace IncludePlan

/-- How a step is paired: by a reference between its table and the one it is linked from, on the
key of the table that the reference leads to.  Rows are paired by a reference of the table they
are linked from only if one record is asked for and there is such a reference. -/
structure PairedByReference (s : IncludeStep) (anchor : Anchor) (c : Column) (fk : ForeignKey) :
    Prop where
  reference : s.reference? anchor.descriptor = some (c, fk)
  forward : s.reversed = false ↔ s.cardinality = .one ∧
    (anchor.descriptor.foreignKeyTo? s.descriptor.table).isSome
  pairing : s.pairing = s.pairingOn anchor.tableAlias c.name primaryKey

variable {plan plan' : IncludePlan} {registry : Registry}

/-- A step with the pairing that is chosen is paired by a reference. -/
theorem exists_pairedByReference {s : IncludeStep} {anchor : Anchor}
    (h : pairing? anchor s.descriptor s.tableAlias s.cardinality = some (s.reversed, s.pairing)) :
  ∃ c fk, PairedByReference s anchor c fk
  := by
  unfold pairing? at h
  split at h
  · next c fk hcardinality hfound =>
      obtain ⟨hreversed, hpairing⟩ := Prod.mk.inj (Option.some.inj h)
      use c, fk
      constructor
      · rw [IncludeStep.reference?, ← hreversed]
        exact hfound
      · simp [← hreversed, hcardinality, hfound]
      · rw [← hpairing, IncludeStep.pairingOn, ← hreversed]
        rfl
  · next c fk hfound hother =>
      obtain ⟨hreversed, hpairing⟩ := Prod.mk.inj (Option.some.inj h)
      use c, fk
      constructor
      · rw [IncludeStep.reference?, ← hreversed]
        exact hfound
      · rw [← hreversed]
        simp only [Bool.true_eq_false, false_iff, not_and, Bool.not_eq_true,
          Option.isSome_eq_false_iff, Option.isNone_iff_eq_none]
        intro hone
        apply Option.eq_none_iff_forall_ne_some.mpr
        rintro ⟨c', fk'⟩ hforward
        exact hother c' fk' hone hforward
      · rw [← hpairing, IncludeStep.pairingOn, ← hreversed]
        rfl
  · cases h

/-- Every step of a plan is paired with the table it is linked from by a reference. -/
def Paired (plan : IncludePlan) : Prop :=
  ∀ s ∈ plan.steps, ∃ anchor c fk, plan.anchor? s.parent = some anchor ∧
    PairedByReference s anchor c fk

/-- Adding a step keeps all paired. -/
theorem Paired.add (h : plan.Paired) {parent : Nat} {expected child : EntityType}
    {navigation : String} {cardinality : Cardinality}
    (hadd : plan.add parent expected child navigation cardinality = .ok plan') :
  plan'.Paired
  := by
  obtain ⟨anchor, descriptor, reversed, pairing, hanchor, -, -, hpairing, rfl⟩ := eq_of_add hadd
  unfold Paired
  rw [List.forall_mem_append, List.forall_mem_singleton]
  constructor
  · intro s hs
    obtain ⟨anchor, c, fk, hanchor, hpaired⟩ := h s hs
    exact ⟨anchor, c, fk, anchor?_append _ hanchor, hpaired⟩
  · obtain ⟨c, fk, hpaired⟩ := exists_pairedByReference (s := {
        type := child, descriptor, tableAlias := stepAlias (plan.steps.length + 1)
        parentType := expected, parent, navigation, cardinality, reversed, pairing }) hpairing
    exact ⟨anchor, c, fk, anchor?_append _ hanchor, hpaired⟩

/-- All steps of a plan that is built are paired. -/
theorem paired_of_build {root : EntityType} {inclusions : List Inclusion}
    (h : build registry root inclusions = .ok plan) :
  plan.Paired
  := by
  obtain ⟨start, hstart, h⟩ := exists_of_bind_ok h
  obtain ⟨descriptor, -, hstart⟩ := exists_of_bind_ok hstart
  cases hstart
  apply foldlM_preserves _ _ h
  · intro before i after hbefore hadd
    apply hbefore.add hadd
  · intro s hs
    cases hs

end IncludePlan

/-! ### Targets of references -/

/-- In a registry that is built, the table that a reference names has the column that it
references. -/
theorem Registry.exists_target {m : Model} {registry : Registry}
    (h : Registry.build m = .ok registry) {d t : Descriptor} (hd : d ∈ registry.descriptors)
    (ht : t ∈ registry.descriptors) {c : Column} {fk : ForeignKey} (hfk : (c, fk) ∈ d.foreignKeys)
    (hsame : sameName fk.table t.table) :
  ∃ target type, t.resolve? fk.column = some (target, type)
  := by
  obtain ⟨hnames, hreferences⟩ := problems_of_build h
  have hapart := (Assembly.pairwise_of_allNameProblems hnames).2
  obtain ⟨u, hu, hcolumn⟩ := Assembly.exists_column_of_referenceProblems hreferences hd hfk
  have htable := hapart.find?_eq_some_iff.mpr ⟨ht, sameName_symm hsame⟩
  obtain rfl := Option.some.inj (htable.symm.trans hu)
  obtain ⟨⟨target, type⟩, hresolve⟩ := Option.isSome_iff_exists.mp hcolumn
  exact ⟨target, type, hresolve⟩

/-- Every step of a plan is paired with the table it is linked from by a reference between the
two, whose column is there.  It is paired on that column exactly if the reference is to the
key, in any spelling. -/
theorem IncludePlan.paired_on_target_iff {m : Model} {registry : Registry} {root : EntityType}
    {inclusions : List Inclusion} {plan : IncludePlan} (hbuild : Registry.build m = .ok registry)
    (hplan : IncludePlan.build registry root inclusions = .ok plan) {n : Nat} {s : IncludeStep}
    (hs : plan.steps[n]? = some s) :
  ∃ anchor c fk target type, plan.anchor? s.parent = some anchor ∧
    PairedByReference s anchor c fk ∧
    (s.referenced anchor.descriptor).resolve? fk.column = some (target, type) ∧
    (s.pairing = s.pairingOn anchor.tableAlias c.name target ↔ sameName fk.column primaryKey)
  := by
  obtain ⟨hconnected, -, -⟩ := connected_of_build hplan
  obtain ⟨anchor, c, fk, hanchor, hpaired⟩ := paired_of_build hplan s (List.mem_of_getElem? hs)
  obtain ⟨hfk, hsame⟩ := IncludeStep.mem_of_reference? hpaired.reference
  have hown : s.descriptor ∈ registry.descriptors := by
    rw [← hconnected.registry]
    apply List.mem_of_find?_eq_some (hconnected.steps n s hs).descriptor
  have hother : anchor.descriptor ∈ registry.descriptors :=
    List.mem_of_find?_eq_some (hconnected.registered hanchor)
  have hboth : s.referencing anchor.descriptor ∈ registry.descriptors ∧
      s.referenced anchor.descriptor ∈ registry.descriptors := by
    unfold IncludeStep.referencing IncludeStep.referenced
    cases s.reversed
    · exact ⟨hother, hown⟩
    · exact ⟨hown, hother⟩
  obtain ⟨target, type, hresolve⟩ := Registry.exists_target hbuild hboth.1 hboth.2 hfk hsame
  refine ⟨anchor, c, fk, target, type, hanchor, hpaired, hresolve, ?_⟩
  rw [hpaired.pairing, IncludeStep.pairingOn_inj, eq_comm, Descriptor.eq_primaryKey_iff hresolve]

/-- Blogs have addresses. -/
def blog : EntityType where
  record := ⟨"Blog", [.ofColumn "Id" .integer false, .ofColumn "Url" .text false]⟩
  table := "Blog"
  description := []

/-- Posts reference the key of their blog, in another spelling. -/
def post : EntityType where
  record := ⟨"Post", [.ofColumn "Id" .integer false, .ofColumn "BlogId" .integer false]⟩
  table := "Post"
  description := [.foreignKey "BlogId" { table := "BLOG", column := "ID" }]

/-- Links reference the address of a blog. -/
def blogLink : EntityType where
  record := ⟨"Link", [.ofColumn "Id" .integer false, .ofColumn "BlogUrl" .text false]⟩
  table := "Link"
  description := [.foreignKey "BlogUrl" { table := "Blog", column := "Url" }]

/-- Posts are paired with their blog by the column that they reference. -/
theorem post_paired_with_blog :
  let registry : Registry := ⟨[blog.draft.descriptor, post.draft.descriptor]⟩
  let inclusions : List IncludePlan.Inclusion :=
    [{ cardinality := .one, child := blog, navigation := "Blog" }]
  Registry.build ⟨[blog, post], []⟩ = .ok registry ∧
    ∃ plan s, IncludePlan.build registry post inclusions = .ok plan ∧ plan.steps[0]? = some s ∧
      s.pairing.sql = "t1.Id = t0.BlogId" ∧
      ∃ anchor c fk target type, plan.anchor? s.parent = some anchor ∧
        IncludePlan.PairedByReference s anchor c fk ∧
        (s.referenced anchor.descriptor).resolve? fk.column = some (target, type) ∧
        (s.pairing = s.pairingOn anchor.tableAlias c.name target ↔ sameName fk.column primaryKey)
  := by
  intro registry inclusions
  have hbuild : Registry.build ⟨[blog, post], []⟩ = .ok registry := by decide +kernel
  have hplan : ∃ plan s, IncludePlan.build registry post inclusions = .ok plan ∧
      plan.steps[0]? = some s ∧ s.pairing.sql = "t1.Id = t0.BlogId" := by
    refine ⟨_, _, rfl, rfl, ?_⟩
    decide +kernel
  obtain ⟨plan, s, hplan, hs, hsql⟩ := hplan
  exact ⟨hbuild, plan, s, hplan, hs, hsql, IncludePlan.paired_on_target_iff hbuild hplan hs⟩

/-- Links reference the address of their blog, and are paired with the key of it. -/
theorem link_paired_with_key :
  let registry : Registry := ⟨[blog.draft.descriptor, blogLink.draft.descriptor]⟩
  let inclusions : List IncludePlan.Inclusion :=
    [{ cardinality := .many, child := blogLink, navigation := "Links" }]
  Registry.build ⟨[blog, blogLink], []⟩ = .ok registry ∧
    blogLink.draft.descriptor.foreignKeys.map (fun (c, fk) => (c.name, fk.table, fk.column)) =
      [("BlogUrl", "Blog", "Url")] ∧
    (IncludePlan.build registry blog inclusions).map (fun plan =>
      plan.steps.map fun s => s.pairing.sql) = .ok ["t1.BlogUrl = t0.Id"]
  := by decide +kernel

end EntityStore
