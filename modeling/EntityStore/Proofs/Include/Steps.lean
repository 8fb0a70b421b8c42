import EntityStore.Proofs.Entity.Declared
import EntityStore.Proofs.Graph.Rows
import EntityStore.Proofs.Join.Slots

/-!
# Steps of plans

However a plan is put together, its steps form a tree: each has the alias of its number, is
linked from the root or an earlier step, and is paired with that by columns of the two tables.
The aliases and columns are identifiers.
-/

namespace EntityStore

open Text Sql

/-- The names of all columns of a table. -/
def Descriptor.columnNames (d : Descriptor) : List String :=
  d.allColumns.map (·.1)

theorem Descriptor.mem_columnNames {d : Descriptor} {name : String} :
  name ∈ d.columnNames ↔
    name = primaryKey ∨ name ∈ d.columns.map (·.name) ∨ name = activeFlag
  := by
  simp [columnNames, allColumns]

/-- The alias of a step is an identifier. -/
theorem isIdentifier_stepAlias (n : Nat) :
  isIdentifier (stepAlias n) = true
  := isIdentifier_append_decimalText (by decide) n

namespace IncludePlan

/-- How a step fits into a plan under a number. -/
structure Fits (plan : IncludePlan) (n : Nat) (s : IncludeStep) : Prop where
  tableAlias : s.tableAlias = stepAlias (n + 1)
  descriptor : plan.registry.ofType? s.type.record.name = some s.descriptor
  parent : s.parent ≤ n
  pairing : ∃ anchor, plan.anchor? s.parent = some anchor ∧
    anchor.tableAlias = stepAlias s.parent ∧
    ∃ own ∈ s.descriptor.columnNames, ∃ other ∈ anchor.descriptor.columnNames,
      s.pairing = .columns s.tableAlias own anchor.tableAlias other

/-- A plan over a registry all of whose steps fit. -/
structure Connected (registry : Registry) (plan : IncludePlan) : Prop where
  registry : plan.registry = registry
  root : plan.registry.ofType? plan.root.record.name = some plan.descriptor
  steps : ∀ (n : Nat) s, plan.steps[n]? = some s → plan.Fits n s

variable {plan plan' : IncludePlan} {registry : Registry}

/-- Tables are paired by a foreign key of either. -/
theorem columns_of_pairing? {anchor : Anchor} {child : Descriptor} {tableAlias : String}
    {cardinality : Cardinality} {reversed : Bool} {e : Equality}
    (h : pairing? anchor child tableAlias cardinality = some (reversed, e)) :
  ∃ own ∈ child.columnNames, ∃ other ∈ anchor.descriptor.columnNames,
    e = .columns tableAlias own anchor.tableAlias other
  := by
  have hkey : ∀ d : Descriptor, primaryKey ∈ d.columnNames :=
    fun d => Descriptor.mem_columnNames.mpr (.inl rfl)
  have hforeign : ∀ {d : Descriptor} {table : String} {c : Column} {fk : ForeignKey},
      d.foreignKeyTo? table = some (c, fk) → c.name ∈ d.columnNames := by
    intro d table c fk hfound
    obtain ⟨c', hc', hfk⟩ := List.mem_filterMap.mp (List.mem_of_find?_eq_some hfound)
    obtain ⟨_, -, heq⟩ := Option.map_eq_some_iff.mp hfk
    cases heq
    exact Descriptor.mem_columnNames.mpr (.inr (.inl (List.mem_map_of_mem hc')))
  unfold pairing? at h
  split at h
  · next hfound =>
      cases h
      exact ⟨primaryKey, hkey child, _, hforeign hfound, rfl⟩
  · next column fk hfound _ =>
      cases h
      exact ⟨column.name, hforeign hfound, primaryKey, hkey anchor.descriptor, rfl⟩
  · cases h

/-- The table of the root or of a step has the alias of its number. -/
theorem Connected.alias_of_anchor? (h : plan.Connected registry) {anchor : Anchor} {n : Nat}
    (hanchor : plan.anchor? n = some anchor) :
  anchor.tableAlias = stepAlias n
  := by
  cases n with
  | zero =>
      cases hanchor
      rfl
  | succ n =>
      obtain ⟨s, hs, rfl⟩ := Option.map_eq_some_iff.mp hanchor
      exact (h.steps n s hs).tableAlias

/-- The table that steps can be linked from is registered. -/
theorem Connected.registered (h : plan.Connected registry) {n : Nat} {anchor : Anchor}
    (hanchor : plan.anchor? n = some anchor) :
  registry.ofType? anchor.type.record.name = some anchor.descriptor
  := by
  rw [← h.registry]
  cases n with
  | zero =>
      cases hanchor
      apply h.root
  | succ n =>
      obtain ⟨s, hs, rfl⟩ := Option.map_eq_some_iff.mp hanchor
      apply (h.steps n s hs).descriptor

/-- A step that fits still does when one more is added. -/
theorem Fits.append {n : Nat} {s : IncludeStep} (h : plan.Fits n s)
    (steps : List IncludeStep) :
  Fits { plan with steps := plan.steps ++ steps } n s
  := by
  obtain ⟨anchor, hanchor, hrest⟩ := h.pairing
  exact ⟨h.tableAlias, h.descriptor, h.parent, anchor, anchor?_append _ hanchor, hrest⟩

/-- A step that is added fits. -/
theorem Connected.add (h : plan.Connected registry) {parent : Nat}
    {expected child : EntityType} {navigation : String} {cardinality : Cardinality}
    (hadd : plan.add parent expected child navigation cardinality = .ok plan') :
  plan'.Connected registry
  := by
  obtain ⟨anchor, descriptor, reversed, pairing, hanchor, -, hdescriptor, hpairing, rfl⟩ :=
    eq_of_add hadd
  refine ⟨h.registry, h.root, ?_⟩
  intro n s hs
  dsimp only at hs
  by_cases hn : n < plan.steps.length
  · rw [List.getElem?_append_left hn] at hs
    apply (h.steps n s hs).append
  · have hlength := (List.getElem?_eq_some_iff.mp hs).1
    rw [List.length_append, List.length_singleton] at hlength
    obtain rfl : n = plan.steps.length := by omega
    rw [List.getElem?_concat_length] at hs
    cases hs
    refine ⟨rfl, ?_, le_length_of_anchor? hanchor, anchor, anchor?_append _ hanchor,
      h.alias_of_anchor? hanchor, columns_of_pairing? hpairing⟩
    exact Registry.descriptor_eq_ok_iff.mp hdescriptor

/-- Inclusions keep a plan connected, and each adds a step of its type. -/
theorem Connected.addAll (h : plan.Connected registry) {root : EntityType}
    {inclusions : List Inclusion}
    (hadd : inclusions.foldlM (fun plan i =>
      plan.add i.parent (i.expected.getD root) i.child i.navigation i.cardinality) plan =
        .ok plan') :
  plan'.Connected registry ∧ plan'.root = plan.root ∧
    plan'.steps.map (·.type) = plan.steps.map (·.type) ++ inclusions.map (·.child)
  := by
  induction inclusions generalizing plan with
  | nil =>
      cases hadd
      simpa using h
  | cons i inclusions ih =>
      rw [List.foldlM_cons] at hadd
      obtain ⟨next, hnext, hrest⟩ := exists_of_bind_ok hadd
      obtain ⟨hconnected, hroot, htypes⟩ := ih (h.add hnext) hrest
      obtain ⟨anchor, descriptor, reversed, pairing, -, -, -, -, rfl⟩ := eq_of_add hnext
      refine ⟨hconnected, hroot, ?_⟩
      rw [htypes]
      simp

/-- A plan is connected, and loads the types that are to be included in their order. -/
theorem connected_of_build {root : EntityType} {inclusions : List Inclusion}
    (h : build registry root inclusions = .ok plan) :
  plan.Connected registry ∧ plan.root = root ∧
    plan.steps.map (·.type) = inclusions.map (·.child)
  := by
  obtain ⟨start, hstart, h⟩ := exists_of_bind_ok h
  obtain ⟨descriptor, hdescriptor, hstart⟩ := exists_of_bind_ok hstart
  cases hstart
  have hbare : Connected registry { registry, root, descriptor } := by
    refine ⟨rfl, Registry.descriptor_eq_ok_iff.mp hdescriptor, ?_⟩
    intro n s hs
    cases hs
  apply hbare.addAll h

end IncludePlan

end EntityStore
