import EntityStore.Proofs.Entity.Rules

/-!
# Order of registration

The order in which types are registered decides about the order of descriptors, and about nothing
else: a model has a registry in every order or in none, each type has the same descriptor, and the
target schema is the same.
-/

namespace EntityStore

open Text Sql

/-! ### Sound models -/

/-- Types may be registered in any order. -/
theorem Model.Sound.perm {m : Model} (h : m.Sound) {es : List EntityType}
    (hperm : m.entities.Perm es) :
  Model.Sound { m with entities := es }
  where
  described e he := h.described e (hperm.mem_iff.mpr he)
  once := (hperm.map _).nodup_iff.mp h.once
  addressed rule hrule := by
    obtain ⟨e, he, hsame⟩ := h.addressed rule hrule
    exact ⟨e, hperm.mem_iff.mp he, hsame⟩
  related e he := h.related e (hperm.mem_iff.mpr he)
  named e he := h.named e (hperm.mem_iff.mpr he)
  apart := (DistinctNames.perm_iff hperm).mp h.apart
  references e he c fk hfk := by
    obtain ⟨t, ht, hreference⟩ := h.references e (hperm.mem_iff.mpr he) c fk hfk
    exact ⟨t, hperm.mem_iff.mp ht, hreference⟩

/-- A model has a registry in every order of its types, or in none. -/
theorem Registry.exists_build_perm {m : Model} {es : List EntityType}
    (hperm : m.entities.Perm es) {r : Registry} (h : build m = .ok r) :
  ∃ r', build { m with entities := es } = .ok r' ∧ r.descriptors.Perm r'.descriptors
  := by
  obtain ⟨hsound, rfl⟩ := build_eq_ok_iff.mp h
  exact ⟨_, build_eq_ok_iff.mpr ⟨hsound.perm hperm, rfl⟩, hperm.map _⟩

/-! ### Target schemas -/

namespace Schema

variable {s s' : Schema}

/-- Schemas with the same entries are equal. -/
theorem eq_of_mem_iff (h : ∀ entry, entry ∈ s.tables ↔ entry ∈ s'.tables) :
  s = s'
  := by
  have hperm : s.tables.Perm s'.tables := by
    have hnodup (t : Schema) : t.tables.Nodup := by
      apply t.increasing.imp
      rintro a b hlt rfl
      exact String.lt_irrefl _ hlt
    exact (List.perm_ext_iff_of_nodup (hnodup s) (hnodup s')).mpr h
  have heq : s.tables = s'.tables := by
    apply hperm.eq_of_pairwise _ s.increasing s'.increasing
    intro a b _ _ hab hba
    exact absurd (String.lt_trans hab hba) (String.lt_irrefl _)
  cases s
  cases s'
  simpa using heq

/-- Proper schemas with the same tables are equal. -/
theorem Proper.eq_of_shapes (h : s.Proper) (h' : s'.Proper)
    (hshapes : ∀ t, t ∈ s.shapes ↔ t ∈ s'.shapes) :
  s = s'
  := by
  have hentry {u : Schema} (hu : u.Proper) (entry : String × TableShape) :
      entry ∈ u.tables ↔ entry.1 = entry.2.name ∧ entry.2 ∈ u.shapes := by
    constructor
    · intro hmem
      exact ⟨hu.keyed entry hmem, mem_shapes.mpr ⟨entry, hmem, rfl⟩⟩
    · rintro ⟨hkey, hshape⟩
      obtain ⟨other, hother, heq⟩ := mem_shapes.mp hshape
      have hsame : other = entry := Prod.ext (by rw [hu.keyed other hother, heq, hkey]) heq
      rwa [← hsame]
  apply eq_of_mem_iff
  intro entry
  rw [hentry h, hentry h', hshapes]

end Schema

/-- The target of a registry has the tables of its descriptors, all of which must have one. -/
theorem Registry.Accepted.target_eq_ok_iff {r : Registry} (h : r.Accepted) {target : Schema} :
  r.target = .ok target ↔ target.Proper ∧ (∀ d ∈ r.descriptors, ∃ t, d.shape = .ok t) ∧
    ∀ t, t ∈ target.shapes ↔ ∃ d ∈ r.descriptors, d.shape = .ok t
  := by
  constructor
  · intro htarget
    obtain ⟨hproper, hmem⟩ := h.proper_target htarget
    obtain ⟨shapes, hshapes, -⟩ := exists_of_bind_ok htarget
    exact ⟨hproper, exists_mapM_ok_iff.mp ⟨shapes, hshapes⟩, hmem⟩
  · rintro ⟨hproper, hall, hmem⟩
    obtain ⟨shapes, hshapes⟩ := exists_mapM_ok_iff.mpr hall
    have htarget : r.target = .ok (shapes.foldl Schema.insert .empty) := by
      unfold Registry.target
      rw [hshapes]
      rfl
    obtain ⟨hproper', hmem'⟩ := h.proper_target htarget
    rw [htarget, hproper.eq_of_shapes hproper' fun t => (hmem t).trans (hmem' t).symm]

/-- Registries with the same descriptors have the same target. -/
theorem Registry.Accepted.target_perm {r r' : Registry} (h : r.Accepted) (h' : r'.Accepted)
    (hperm : r.descriptors.Perm r'.descriptors) (target : Schema) :
  r.target = .ok target ↔ r'.target = .ok target
  := by simp only [h.target_eq_ok_iff, h'.target_eq_ok_iff, hperm.mem_iff]

/-- The order in which types are registered makes no difference to whether there is a registry, to
the descriptor of any type, to what is found under the name of a table, and to the target. -/
theorem Registry.registered_in_any_order {m : Model} {es : List EntityType}
    (hperm : m.entities.Perm es) :
  ((∃ r, build m = .ok r) ↔ ∃ r', build { m with entities := es } = .ok r') ∧
  ∀ r r', build m = .ok r → build { m with entities := es } = .ok r' →
    r.descriptors.Perm r'.descriptors ∧
    (∀ typeName, r.ofType? typeName = r'.ofType? typeName) ∧
    (∀ name, r.table? name = r'.table? name) ∧
    ∀ target, r.target = .ok target ↔ r'.target = .ok target
  := by
  constructor
  · constructor
    · rintro ⟨r, hr⟩
      obtain ⟨r', hr', -⟩ := exists_build_perm hperm hr
      exact ⟨r', hr'⟩
    · rintro ⟨r', hr'⟩
      obtain ⟨r, hr, -⟩ := exists_build_perm hperm.symm hr'
      exact ⟨r, hr⟩
  · intro r r' hr hr'
    obtain ⟨other, hother, hdescriptors⟩ := exists_build_perm hperm hr
    obtain rfl : other = r' := Except.ok.inj (hother.symm.trans hr')
    have hclosed := closed_of_build hr
    have hclosed' := closed_of_build hr'
    refine ⟨hdescriptors, ?_, ?_, ?_⟩
    · intro typeName
      apply Option.ext
      intro d
      rw [hclosed.ofType?_eq, hclosed'.ofType?_eq, hdescriptors.mem_iff]
    · intro name
      apply Option.ext
      intro d
      rw [hclosed.table?_eq, hclosed'.table?_eq, hdescriptors.mem_iff]
    · apply (accepted_of_build hr).target_perm (accepted_of_build hr') hdescriptors

/-- Authors and posts can be registered the other way round, with the other order of descriptors
only. -/
theorem Registry.journal_in_any_order :
  ∃ r r' target, build journal = .ok r ∧
    build { journal with entities := journal.entities.reverse } = .ok r' ∧
    r.descriptors ≠ r'.descriptors ∧ r.ofType? "Post" = r'.ofType? "Post" ∧
    r.target = .ok target ∧ r'.target = .ok target
  := by
  let finished (e : EntityType) : Descriptor := (e.finished journal.rules).1
  let r : Registry := ⟨journal.entities.map finished⟩
  let r' : Registry := ⟨journal.entities.reverse.map finished⟩
  have hr : build journal = .ok r := by rfl
  have hr' : build { journal with entities := journal.entities.reverse } = .ok r' := by rfl
  have htarget : r.target.toOption.isSome := by decide +kernel
  obtain ⟨target, htarget⟩ := Option.isSome_iff_exists.mp htarget
  rw [toOption_eq_some_iff] at htarget
  have hperm := (List.reverse_perm journal.entities).symm
  obtain ⟨-, htypes, -, htargets⟩ := (registered_in_any_order hperm).2 r r' hr hr'
  exact ⟨r, r', target, hr, hr', by decide +kernel, htypes "Post", htarget,
    (htargets target).mp htarget⟩

end EntityStore
