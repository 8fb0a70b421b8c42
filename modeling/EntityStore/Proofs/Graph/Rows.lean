import EntityStore.Proofs.Graph.Growth

/-!
# Rows of a graph

Reading a row finds its root and the records its steps have, and nothing else.  A row can
be read if its records can be: the types that a step links are always those of the records
it finds, because a plan is put together so.
-/

namespace EntityStore

/-- The record of a step in a row, if the row has one. -/
def IncludeStep.identity? (row : Row) (entry : IncludeStep × RowMapper) : Option Identity :=
  (entry.2.key? row).map fun key => ⟨entry.1.type.record.name, key⟩

/-- The records of the steps in a row. -/
def IncludePlan.linked (plan : IncludePlan) (readers : RowReaders) (row : Row) : List Identity :=
  (plan.steps.zip readers.steps).filterMap (IncludeStep.identity? row)

namespace Loading

variable {plan : IncludePlan} {format : String} {row : Row} {l l' : Loading}
  {slots slots' : List (Option Found)}

/-- A step finds its record, if the row has one. -/
theorem addStep_ok {entry : IncludeStep × RowMapper} {n : Nat}
    (h : addStep row (l, slots) (entry, n) = .ok (l', slots')) :
  Grown l l' (IncludeStep.identity? row entry).toList
  := by
  obtain ⟨step, reader⟩ := entry
  unfold addStep IncludeStep.identity? at *
  dsimp only at h ⊢
  cases hkey : reader.key? row with
  | none =>
      rw [hkey] at h
      cases h
      apply Grown.refl
  | some key =>
      rw [hkey] at h
      obtain ⟨⟨position, created, l₁⟩, hrecord, h⟩ := exists_of_bind_ok h
      obtain ⟨hgrown, -, -⟩ := recordOf_ok hrecord
      dsimp only at h
      split at h
      · obtain ⟨l₂, hlink, h⟩ := exists_of_bind_ok h
        cases h
        have hgrown' := hgrown.trans (link_ok hlink)
        rw [List.append_nil] at hgrown'
        apply hgrown'
      · cases h
        apply hgrown

/-- Steps find the records that the row has of them. -/
theorem foldlM_addStep_ok (entries : List (IncludeStep × RowMapper)) (n : Nat)
    (h : (entries.zipIdx n).foldlM (addStep row) (l, slots) = .ok (l', slots')) :
  Grown l l' (entries.filterMap (IncludeStep.identity? row))
  := by
  induction entries generalizing n l slots with
  | nil =>
      cases h
      apply Grown.refl
  | cons entry entries ih =>
      rw [List.zipIdx_cons, List.foldlM_cons] at h
      obtain ⟨⟨l₁, slots₁⟩, hstep, hrest⟩ := exists_of_bind_ok h
      have hgrown := (addStep_ok hstep).trans (ih (n + 1) hrest)
      rw [List.filterMap_cons]
      cases hidentity : IncludeStep.identity? row entry with
      | none =>
          rw [hidentity] at hgrown
          apply hgrown
      | some a =>
          rw [hidentity] at hgrown
          apply hgrown

/-- A row has a root, which is one more root if it was unknown, and the records of its
steps. -/
theorem addRow_ok {readers : RowReaders}
    (hreaders : l.readers.getD (.build plan row.columns format) = readers)
    (h : addRow plan format l row = .ok l') :
  ∃ key position created l₁, readers.root.key? row = some key ∧
    l.recordOf plan.root readers.root row key = .ok (position, created, l₁) ∧
    Grown { l₁ with
        roots := if created then l₁.roots ++ [position] else l₁.roots, readers := some readers }
      l' (plan.linked readers row)
  := by
  unfold addRow at h
  dsimp only at h
  rw [hreaders] at h
  cases hkey : readers.root.key? row with
  | none =>
      rw [hkey] at h
      cases h
  | some key =>
      rw [hkey] at h
      obtain ⟨⟨position, created, l₁⟩, hrecord, h⟩ := exists_of_bind_ok h
      obtain ⟨⟨l₂, slots⟩, hsteps, h⟩ := exists_of_bind_ok h
      cases h
      use key, position, created, l₁, rfl, hrecord
      apply foldlM_addStep_ok _ 0 hsteps

end Loading

/-! ### Rows that can be read -/

namespace IncludePlan

variable {plan plan' : IncludePlan}

/-- Every step is linked from records of the type that its parent has. -/
def WellTyped (plan : IncludePlan) : Prop :=
  ∀ s ∈ plan.steps, ∃ anchor, plan.anchor? s.parent = some anchor ∧
    anchor.type.record.name = s.parentType.record.name

/-- One more step leaves the tables before it where they are. -/
theorem anchor?_append {anchor : Anchor} {n : Nat} (steps : List IncludeStep)
    (h : plan.anchor? n = some anchor) :
  anchor? { plan with steps := plan.steps ++ steps } n = some anchor
  := by
  cases n with
  | zero => apply h
  | succ n =>
      unfold anchor? at h ⊢
      dsimp only at h ⊢
      obtain ⟨s, hs, hanchor⟩ := Option.map_eq_some_iff.mp h
      have hn := (List.getElem?_eq_some_iff.mp hs).1
      rw [List.getElem?_append_left hn, hs, Option.map_some, hanchor]

/-- What is added is a step under the next number, linked from a table that is there and has the
expected type, and paired with it by a foreign key. -/
theorem eq_of_add {parent : Nat} {expected child : EntityType} {navigation : String}
    {cardinality : Cardinality}
    (h : plan.add parent expected child navigation cardinality = .ok plan') :
  ∃ anchor descriptor reversed pairing, plan.anchor? parent = some anchor ∧
    anchor.type.record.name = expected.record.name ∧
    plan.registry.descriptor child.record.name = .ok descriptor ∧
    pairing? anchor descriptor (stepAlias (plan.steps.length + 1)) cardinality =
      some (reversed, pairing) ∧
    plan' = { plan with
      steps := plan.steps ++ [{
        type := child, descriptor, tableAlias := stepAlias (plan.steps.length + 1)
        parentType := expected, parent, navigation, cardinality, reversed, pairing }] }
  := by
  unfold add at h
  dsimp only at h
  split at h
  · rename_i anchor hanchor
    split at h
    · cases h
    · rename_i htype
      obtain ⟨descriptor, hdescriptor, h⟩ := exists_of_bind_ok h
      split at h
      · rename_i reversed pairing hpairing
        cases h
        exact ⟨anchor, descriptor, reversed, pairing, hanchor, not_not.mp htype, hdescriptor,
          hpairing, rfl⟩
      · cases h
  · cases h

/-- A step that is added is linked from a table that is there and has the expected type. -/
theorem exists_of_add {parent : Nat} {expected child : EntityType} {navigation : String}
    {cardinality : Cardinality}
    (h : plan.add parent expected child navigation cardinality = .ok plan') :
  ∃ anchor step, plan.anchor? parent = some anchor ∧
    anchor.type.record.name = expected.record.name ∧ step.parent = parent ∧
    step.parentType = expected ∧ plan' = { plan with steps := plan.steps ++ [step] }
  := by
  obtain ⟨anchor, descriptor, reversed, pairing, hanchor, htype, -, -, rfl⟩ := eq_of_add h
  exact ⟨anchor, _, hanchor, htype, rfl, rfl, rfl⟩

/-- A step is added with the type its parent has. -/
theorem wellTyped_of_add {parent : Nat} {expected child : EntityType} {navigation : String}
    {cardinality : Cardinality} (hplan : plan.WellTyped)
    (h : plan.add parent expected child navigation cardinality = .ok plan') :
  plan'.WellTyped
  := by
  obtain ⟨anchor, step, hanchor, htype, rfl, rfl, rfl⟩ := exists_of_add h
  intro s hs
  obtain hs | hs := List.mem_append.mp hs
  · obtain ⟨anchor, hanchor, htype⟩ := hplan s hs
    use anchor, anchor?_append _ hanchor, htype
  · obtain rfl := List.mem_singleton.mp hs
    use anchor, anchor?_append _ hanchor, htype

/-- Plans are put together so that every step is linked from the type its parent has. -/
theorem wellTyped_of_build {registry : Registry} {root : EntityType}
    {inclusions : List Inclusion} (h : build registry root inclusions = .ok plan) :
  plan.WellTyped
  := by
  obtain ⟨start, hstart, h⟩ := exists_of_bind_ok h
  obtain ⟨descriptor, -, hstart⟩ := exists_of_bind_ok hstart
  cases hstart
  refine foldlM_preserves ?_ ?_ h
  · intro plan i plan' hplan hadd
    apply wellTyped_of_add hplan hadd
  · intro s hs
    cases hs

/-- Every step is linked from the root or from an earlier step. -/
def Ordered (plan : IncludePlan) : Prop :=
  ∀ (n : Nat) (s : IncludeStep), plan.steps[n]? = some s → s.parent ≤ n

/-- A table that is there has a number up to that of the last step. -/
theorem le_length_of_anchor? {anchor : Anchor} {n : Nat} (h : plan.anchor? n = some anchor) :
  n ≤ plan.steps.length
  := by
  cases n with
  | zero => apply Nat.zero_le
  | succ n =>
      obtain ⟨s, hs, -⟩ := Option.map_eq_some_iff.mp h
      apply (List.getElem?_eq_some_iff.mp hs).1

/-- A step is added after the one it is linked from. -/
theorem ordered_of_add {parent : Nat} {expected child : EntityType} {navigation : String}
    {cardinality : Cardinality} (hplan : plan.Ordered)
    (h : plan.add parent expected child navigation cardinality = .ok plan') :
  plan'.Ordered
  := by
  obtain ⟨anchor, step, hanchor, -, rfl, -, rfl⟩ := exists_of_add h
  intro n s hs
  dsimp only at hs
  by_cases hn : n < plan.steps.length
  · rw [List.getElem?_append_left hn] at hs
    apply hplan n s hs
  · have hlength := (List.getElem?_eq_some_iff.mp hs).1
    rw [List.length_append, List.length_singleton] at hlength
    obtain rfl : n = plan.steps.length := by omega
    rw [List.getElem?_concat_length] at hs
    cases hs
    apply le_length_of_anchor? hanchor

/-- Plans are put together so that every step is linked from the root or an earlier step. -/
theorem ordered_of_build {registry : Registry} {root : EntityType}
    {inclusions : List Inclusion} (h : build registry root inclusions = .ok plan) :
  plan.Ordered
  := by
  obtain ⟨start, hstart, h⟩ := exists_of_bind_ok h
  obtain ⟨descriptor, -, hstart⟩ := exists_of_bind_ok hstart
  cases hstart
  refine foldlM_preserves ?_ ?_ h
  · intro plan i plan' hplan hadd
    apply ordered_of_add hplan hadd
  · intro n s hs
    cases hs

end IncludePlan

/-- A row with a root from which its records can be read. -/
structure RowReaders.Reads (readers : RowReaders) (row : Row) : Prop where
  key : ∃ key, readers.root.key? row = some key
  root : ∃ record, readers.root.map row = .ok record
  steps : ∀ reader ∈ readers.steps, reader.key? row ≠ none → ∃ record, reader.map row = .ok record

namespace Loading

variable {plan : IncludePlan} {format : String} {row : Row} {l l' : Loading}
  {slots slots' : List (Option Found)}

/-- The records found in a row as far as the steps have been taken, each of the type that
its table has. -/
structure Filled (plan : IncludePlan) (n : Nat) (l : Loading) (slots : List (Option Found)) :
    Prop where
  sound : l.Sound
  length : slots.length = n + 1
  typed : ∀ i found, slots[i]?.join = some found → ∃ anchor, plan.anchor? i = some anchor ∧
    l.graph.isOf anchor.type.record.name found.position = true

/-- One more record of the type of its step. -/
theorem Filled.append {n : Nat} {found : List Identity} {slot : Option Found}
    (h : Filled plan n l slots) (hgrown : Grown l l' found)
    (hslot : ∀ f, slot = some f → ∃ anchor, plan.anchor? (n + 1) = some anchor ∧
      l'.graph.isOf anchor.type.record.name f.position = true) :
  Filled plan (n + 1) l' (slots ++ [slot])
  := by
  constructor
  · apply hgrown.sound h.sound
  · rw [List.length_append, h.length]
    rfl
  · intro i f hf
    obtain hi | rfl | hi := Nat.lt_trichotomy i slots.length
    · rw [List.getElem?_append_left hi] at hf
      obtain ⟨anchor, hanchor, htype⟩ := h.typed i f hf
      use anchor, hanchor
      apply hgrown.typed _ _ htype
    · rw [List.getElem?_append_right (Nat.le_refl _), Nat.sub_self] at hf
      rw [h.length]
      apply hslot f hf
    · rw [List.getElem?_eq_none (by simp; omega)] at hf
      cases hf

/-- The parent of a record, if it was found, is of the type that the step is linked from. -/
theorem Filled.isOf_parent (hplan : plan.WellTyped) {n : Nat} {step : IncludeStep}
    (hstep : step ∈ plan.steps) (h : Filled plan n l slots) {parent : Found}
    (hparent : slots[step.parent]?.join = some parent) :
  l.graph.isOf step.parentType.record.name parent.position = true
  := by
  obtain ⟨anchor, hanchor, htype⟩ := h.typed step.parent parent hparent
  obtain ⟨anchor', hanchor', htype'⟩ := hplan step hstep
  rw [hanchor] at hanchor'
  cases hanchor'
  rw [← htype']
  apply htype

/-- A step whose record can be read can be taken. -/
theorem exists_addStep (hplan : plan.WellTyped) {n : Nat} {step : IncludeStep}
    {reader : RowMapper} (hstep : plan.steps[n]? = some step)
    (hread : reader.key? row ≠ none → ∃ record, reader.map row = .ok record)
    (h : Filled plan n l slots) :
  ∃ l' slots', addStep row (l, slots) ((step, reader), n) = .ok (l', slots') ∧
    Filled plan (n + 1) l' slots'
  := by
  have hanchor : plan.anchor? (n + 1) = some ⟨step.type, step.descriptor, step.tableAlias⟩ := by
    simp only [IncludePlan.anchor?, hstep, Option.map_some]
  unfold addStep
  dsimp only
  cases hkey : reader.key? row with
  | none =>
      use l, slots ++ [none], rfl
      apply h.append (Grown.refl l)
      simp
  | some key =>
      obtain ⟨position, created, l₁, hrecord⟩ :=
        exists_recordOf l step.type key (hread (by simp [hkey]))
      obtain ⟨hgrown, hposition, -⟩ := recordOf_ok hrecord
      have htype := (hgrown.sound h.sound).typed _ _ hposition
      dsimp only
      rw [hrecord]
      cases hparent : slots[step.parent]?.join with
      | none =>
          use l₁, slots ++ [some ⟨key, position⟩], rfl
          apply h.append hgrown
          rintro _ ⟨rfl⟩
          exact ⟨_, hanchor, htype⟩
      | some parent =>
          have hparent := h.isOf_parent hplan (List.mem_of_getElem? hstep) hparent
          obtain ⟨l₂, hlink⟩ := exists_link n ⟨key, position⟩ (hgrown.typed _ _ hparent) htype
          use l₂, slots ++ [some ⟨key, position⟩]
          constructor
          · show (l₁.link step n parent ⟨key, position⟩ >>= fun l =>
              .ok (l, slots ++ [some ⟨key, position⟩])) = _
            rw [hlink]
            rfl
          · have hgrown' := link_ok hlink
            apply h.append (hgrown.trans hgrown')
            rintro _ ⟨rfl⟩
            exact ⟨_, hanchor, hgrown'.typed _ _ htype⟩

/-- Steps whose records can be read can be taken. -/
theorem exists_foldlM_addStep (hplan : plan.WellTyped) {n : Nat}
    (entries : List (IncludeStep × RowMapper))
    (hsteps : ∀ i entry, entries[i]? = some entry → plan.steps[n + i]? = some entry.1)
    (hread : ∀ entry ∈ entries, entry.2.key? row ≠ none →
      ∃ record, entry.2.map row = .ok record)
    (h : Filled plan n l slots) :
  ∃ result, (entries.zipIdx n).foldlM (addStep row) (l, slots) = .ok result ∧ result.1.Sound
  := by
  induction entries generalizing n l slots with
  | nil => exact ⟨(l, slots), rfl, h.sound⟩
  | cons entry entries ih =>
      obtain ⟨step, reader⟩ := entry
      have hfirst : plan.steps[n]? = some step := hsteps 0 (step, reader) rfl
      obtain ⟨l', slots', hstep, hfilled⟩ := exists_addStep hplan hfirst
        (hread (step, reader) List.mem_cons_self) h
      rw [List.zipIdx_cons, List.foldlM_cons, hstep]
      apply ih _ _ hfilled
      · intro i next hnext
        rw [Nat.add_assoc, Nat.add_comm 1 i]
        apply hsteps (i + 1) next hnext
      · intro next hnext
        apply hread next (List.mem_cons_of_mem _ hnext)

/-- A row from which its records can be read can be added. -/
theorem exists_addRow (hplan : plan.WellTyped) {readers : RowReaders}
    (hreaders : l.readers.getD (.build plan row.columns format) = readers)
    (hread : readers.Reads row) (hl : l.Sound) :
  ∃ l', addRow plan format l row = .ok l' ∧ l'.Sound
  := by
  obtain ⟨key, hkey⟩ := hread.key
  obtain ⟨position, created, l₁, hrecord⟩ := exists_recordOf l plan.root key hread.root
  obtain ⟨hgrown, hposition, -⟩ := recordOf_ok hrecord
  have hsound := hgrown.sound hl
  have hfilled : Filled plan 0
      { l₁ with
        roots := if created then l₁.roots ++ [position] else l₁.roots, readers := some readers }
      [some ⟨key, position⟩] := by
    constructor
    · exact ⟨hsound.typed, hsound.distinct⟩
    · rfl
    · intro i found hfound
      cases i with
      | zero =>
          cases hfound
          exact ⟨_, rfl, hsound.typed _ _ hposition⟩
      | succ i => cases hfound
  have hsteps : ∀ i entry, (plan.steps.zip readers.steps)[i]? = some entry →
      plan.steps[0 + i]? = some entry.1 := by
    intro i entry hentry
    rw [Nat.zero_add]
    apply (List.getElem?_zip_eq_some.mp hentry).1
  have hreads : ∀ entry ∈ plan.steps.zip readers.steps, entry.2.key? row ≠ none →
      ∃ record, entry.2.map row = .ok record := by
    intro entry hentry
    apply hread.steps _ (List.of_mem_zip hentry).2
  obtain ⟨⟨l', slots⟩, hfold, hl'⟩ := exists_foldlM_addStep hplan _ hsteps hreads hfilled
  use l'
  constructor
  · unfold addRow
    dsimp only
    rw [hreaders, hkey]
    dsimp only
    rw [hrecord]
    show (List.foldlM (addStep row) _ _ >>= fun result => .ok result.1) = _
    rw [hfold]
    rfl
  · apply hl'

end Loading

end EntityStore
