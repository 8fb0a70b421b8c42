import EntityStore.Graph.Loading
import EntityStore.Proofs.Except

/-!
# Graphs grow

What is known of the rows that have been read stays known.  A step of loading adds records
and links, and it keeps the position and the type of every record that is there.
-/

namespace EntityStore

namespace Graph

variable {g : Graph} {typeName : String} {p : Nat}

/-- A record is of the type it is added with. -/
theorem isOf_add_self (g : Graph) (n : Node) :
  (g.add n).2.isOf n.type.record.name (g.add n).1 = true
  := by simp [add, isOf, at?]

/-- A record that is there has a position in the graph. -/
theorem lt_length_of_isOf (h : g.isOf typeName p = true) :
  p < g.nodes.length
  := by
  unfold isOf at? at h
  by_contra hp
  rw [List.getElem?_eq_none (by omega)] at h
  cases h

/-- Records keep their types when one is added. -/
theorem isOf_add (n : Node) (h : g.isOf typeName p = true) :
  (g.add n).2.isOf typeName p = true
  := by
  have hp := lt_length_of_isOf h
  unfold isOf at? at h ⊢
  simp only [add]
  rw [List.getElem?_append_left hp]
  apply h

/-- Records keep their types when they are linked. -/
theorem isOf_link (navigation : String) (cardinality : Cardinality) (parent child : Nat)
    (h : g.isOf typeName p = true) :
  (g.link navigation cardinality parent child).isOf typeName p = true
  := by
  unfold isOf at? at h ⊢
  simp only [link, List.getElem?_modify]
  cases hnode : g.nodes[p]? with
  | none =>
      rw [hnode] at h
      cases h
  | some n =>
      rw [hnode] at h
      by_cases heq : parent = p
      · simpa [heq, Node.link] using h
      · simpa [heq] using h

end Graph

namespace Loading

/-- Every known record is of its type, and no two have one position. -/
structure Sound (l : Loading) : Prop where
  typed : ∀ a p, l.identities.get? a = some p → l.graph.isOf a.typeName p = true
  distinct : ∀ a b p, l.identities.get? a = some p → l.identities.get? b = some p → a = b

/-- What has been put together after some more records have been found. -/
structure Grown (l l' : Loading) (found : List Identity) : Prop where
  roots : l'.roots = l.roots
  readers : l'.readers = l.readers
  kept : ∀ a p, l.identities.get? a = some p → l'.identities.get? a = some p
  known : ∀ a, (l'.identities.get? a).isSome ↔ (l.identities.get? a).isSome ∨ a ∈ found
  typed : ∀ typeName p, l.graph.isOf typeName p = true → l'.graph.isOf typeName p = true
  sound : l.Sound → l'.Sound

/-- Nothing is known at the start. -/
theorem sound_empty :
  Sound {}
  := by
  constructor
  · intro a p h
    cases h
  · intro a b p h
    cases h

namespace Grown

variable {l l' l'' : Loading} {found found' : List Identity}

/-- Nothing happens. -/
theorem refl (l : Loading) :
  Grown l l []
  := by constructor <;> simp

/-- More is found later. -/
theorem trans (h : Grown l l' found) (h' : Grown l' l'' found') :
  Grown l l'' (found ++ found')
  := by
  constructor
  · rw [h'.roots, h.roots]
  · rw [h'.readers, h.readers]
  · intro a p ha
    apply h'.kept a p (h.kept a p ha)
  · intro a
    rw [h'.known, h.known, List.mem_append, or_assoc]
  · intro typeName p hp
    apply h'.typed typeName p (h.typed typeName p hp)
  · intro hl
    apply h'.sound (h.sound hl)

end Grown

variable {l l' : Loading} {type : EntityType} {reader : RowMapper} {row : Row} {key : Int64}

/-- A record that is new has a position of its own. -/
theorem sound_insert {a : Identity} (n : Node) (hname : n.type.record.name = a.typeName)
    (hl : l.Sound) :
  Sound { l with
    identities := l.identities.insert a (l.graph.add n).1, graph := (l.graph.add n).2 }
  := by
  have hfresh : ∀ b, l.identities.get? b ≠ some (l.graph.add n).1 := by
    intro b hb
    have := Graph.lt_length_of_isOf (hl.typed b _ hb)
    apply Nat.lt_irrefl _ this
  constructor
  · intro b p hb
    rw [IdentityMap.get?_insert] at hb
    split at hb
    · rename_i heq
      cases hb
      rw [heq, ← hname]
      apply Graph.isOf_add_self
    · apply Graph.isOf_add n (hl.typed b p hb)
  · intro b c p hb hc
    rw [IdentityMap.get?_insert] at hb hc
    split at hb <;> split at hc
    · rename_i hb' hc'
      rw [hb', hc']
    · cases hb
      cases hfresh c hc
    · cases hc
      cases hfresh b hb
    · apply hl.distinct b c p hb hc

/-- A record that was unknown is known from then on. -/
theorem grown_insert {a : Identity} (n : Node) (hname : n.type.record.name = a.typeName)
    (hunknown : l.identities.get? a = none) :
  Grown l { l with
    identities := l.identities.insert a (l.graph.add n).1, graph := (l.graph.add n).2 } [a]
  := by
  constructor
  · rfl
  · rfl
  · intro b p hb
    have hne : b ≠ a := by
      rintro rfl
      rw [hunknown] at hb
      cases hb
    rw [IdentityMap.get?_insert, if_neg hne, hb]
  · intro b
    rw [IdentityMap.get?_insert]
    by_cases hb : b = a <;> simp [hb]
  · intro typeName p hp
    apply Graph.isOf_add n hp
  · apply sound_insert n hname

/-- A record that is known is nothing new. -/
theorem grown_known {a : Identity} {p : Nat} (hknown : l.identities.get? a = some p) :
  Grown l l [a]
  := by
  have hrefl := Grown.refl l
  constructor
  · rfl
  · rfl
  · apply hrefl.kept
  · intro b
    by_cases hb : b = a <;> simp [hb, hknown]
  · apply hrefl.typed
  · apply hrefl.sound

/-- The record of a row has its position from then on, and it is read if it was unknown. -/
theorem recordOf_ok {position : Nat} {created : Bool}
    (h : l.recordOf type reader row key = .ok (position, created, l')) :
  Grown l l' [⟨type.record.name, key⟩] ∧
    l'.identities.get? ⟨type.record.name, key⟩ = some position ∧
    (created = true ↔ l.identities.get? ⟨type.record.name, key⟩ = none)
  := by
  obtain ⟨resolved, hresolve, h⟩ := exists_of_bind_ok h
  cases h
  unfold IdentityMap.resolve at hresolve
  split at hresolve
  · rename_i position hknown
    cases hresolve
    use grown_known hknown, hknown
    simp [hknown]
  · rename_i hunknown
    obtain ⟨⟨position, g⟩, hmake, hresolve⟩ := exists_of_bind_ok hresolve
    obtain ⟨record, hrecord, hmake⟩ := exists_of_bind_ok hmake
    cases hresolve
    cases hmake
    use grown_insert { type, record } rfl hunknown
    rw [IdentityMap.get?_insert, if_pos rfl]
    simp [hunknown]

/-- A record that can be read has a position. -/
theorem exists_recordOf (l : Loading) (type : EntityType) (key : Int64)
    (hmap : ∃ record, reader.map row = .ok record) :
  ∃ position created l', l.recordOf type reader row key = .ok (position, created, l')
  := by
  obtain ⟨record, hrecord⟩ := hmap
  unfold recordOf IdentityMap.resolve
  rw [hrecord]
  cases l.identities.get? ⟨type.record.name, key⟩ with
  | some position => exact ⟨_, _, _, rfl⟩
  | none => exact ⟨_, _, _, rfl⟩

/-- A change of the links alone. -/
theorem grown_links {g : Graph} (links : List LinkMark)
    (htyped : ∀ typeName p, l.graph.isOf typeName p = true → g.isOf typeName p = true) :
  Grown l { l with graph := g, links := links } []
  := by
  constructor
  · rfl
  · rfl
  · intro a p h
    apply h
  · simp
  · apply htyped
  · intro hl
    constructor
    · intro a p h
      apply htyped _ _ (hl.typed a p h)
    · apply hl.distinct

/-- A link leaves the records as they are. -/
theorem link_ok {step : IncludeStep} {n : Nat} {parent child : Found}
    (h : l.link step n parent child = .ok l') :
  Grown l l' []
  := by
  unfold link at h
  dsimp only at h
  split at h
  · cases h
    apply Grown.refl
  · obtain ⟨g, hattach, h⟩ := exists_of_bind_ok h
    cases h
    unfold IncludeStep.attach at hattach
    split at hattach
    · cases hattach
      apply grown_links
      intro typeName p
      apply Graph.isOf_link
    · cases hattach

/-- Records of the types that a step links can be linked. -/
theorem exists_link {step : IncludeStep} (n : Nat) {parent : Found} (child : Found)
    (hparent : l.graph.isOf step.parentType.record.name parent.position = true)
    (hchild : l.graph.isOf step.type.record.name child.position = true) :
  ∃ l', l.link step n parent child = .ok l'
  := by
  unfold link
  dsimp only
  split
  · use l
    rfl
  · rw [IncludeStep.attach, hparent, hchild]
    exact ⟨_, rfl⟩

end Loading

end EntityStore
