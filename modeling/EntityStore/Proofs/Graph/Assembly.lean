import EntityStore.Proofs.Graph.Roots
import Mathlib.Data.List.Forall2

/-!
# Assembly of graphs

A graph that is read from rows is what comes out if reading and linking are taken apart:
every record is read where it occurs first in the rows, and then every pair of records that
some row has for a step is linked once, in the order in which the pairs come first.
-/

namespace EntityStore

/-! ### Records in rows -/

/-- A record that occurs in a row: its key and what reads it from there. -/
structure Occurrence where
  type : EntityType
  reader : RowMapper
  row : Row
  key : Int64

namespace Occurrence

variable {os : List Occurrence}

/-- The record that occurs. -/
def identity (o : Occurrence) : Identity :=
  ⟨o.type.record.name, o.key⟩

/-- The record as it is read from the row, without links. -/
def node (o : Occurrence) : Except Error Node := do
  return { type := o.type, record := ← o.reader.map o.row }

/-- The record of a table in a row, if the row has one. -/
def ofRow? (row : Row) (table : EntityType × RowMapper) : Option Occurrence :=
  (table.2.key? row).map fun key => ⟨table.1, table.2, row, key⟩

/-- The first occurrence of every record. -/
def firsts : List Occurrence → List Occurrence
  | [] => []
  | o :: os => o :: (firsts os).filter fun other => other.identity ≠ o.identity

/-- Every record that occurs has a first occurrence. -/
theorem mem_identity_firsts {a : Identity} :
  a ∈ (firsts os).map identity ↔ a ∈ os.map identity
  := by
  induction os with
  | nil => rfl
  | cons o os ih =>
      rw [firsts, List.map_cons, List.map_cons, List.mem_cons, List.mem_cons, ← ih]
      by_cases h : a = o.identity
      · simp [h]
      · apply or_congr_right
        simp only [List.mem_map, List.mem_filter, decide_eq_true_eq]
        constructor
        · rintro ⟨other, ⟨hmem, -⟩, rfl⟩
          use other, hmem
        · rintro ⟨other, hmem, rfl⟩
          use other, ⟨hmem, h⟩

/-- The last occurrence is the first of its record if that does not occur before. -/
theorem firsts_append_singleton (os : List Occurrence) (o : Occurrence) :
  firsts (os ++ [o]) =
    if o.identity ∈ os.map identity then firsts os else firsts os ++ [o]
  := by
  induction os with
  | nil => rfl
  | cons first os ih =>
      rw [List.cons_append, firsts, ih, List.map_cons, firsts]
      by_cases hknown : o.identity ∈ os.map identity
      · rw [if_pos hknown, if_pos (List.mem_cons_of_mem _ hknown)]
      · rw [if_neg hknown, List.filter_append]
        by_cases hfirst : o.identity = first.identity
        · rw [if_pos (by simp [hfirst])]
          simp [hfirst]
        · rw [if_neg (by simp [hfirst, hknown])]
          simp [hfirst]

end Occurrence

namespace IncludePlan

/-- The tables of a plan and what reads their records, the root first. -/
def tables (plan : IncludePlan) (readers : RowReaders) : List (EntityType × RowMapper) :=
  (plan.root, readers.root) ::
    (plan.steps.zip readers.steps).map fun (step, reader) => (step.type, reader)

/-- The records that occur in a row, the root first and then those of the steps. -/
def occurrences (plan : IncludePlan) (readers : RowReaders) (row : Row) : List Occurrence :=
  (plan.tables readers).filterMap (Occurrence.ofRow? row)

end IncludePlan

/-! ### Links in rows -/

/-- A record that is linked can be added before or after. -/
theorem Graph.link_add (g : Graph) (n : Node) (navigation : String) (cardinality : Cardinality)
    {parent : Nat} (child : Nat) (h : parent < g.nodes.length) :
  (g.add n).2.link navigation cardinality parent child =
    ((g.link navigation cardinality parent child).add n).2
  := by
  simp only [add, link, Graph.mk.injEq]
  apply List.ext_getElem?
  intro p
  rw [List.getElem?_modify]
  by_cases hp : p < g.nodes.length
  · rw [List.getElem?_append_left hp, List.getElem?_append_left (by rwa [List.length_modify]),
      List.getElem?_modify]
  · have hne : parent ≠ p := by omega
    rw [List.getElem?_append_right (by omega), List.getElem?_append_right (by simp; omega),
      List.length_modify]
    simp [hne]

/-- The key in a slot of a row; slot zero is that of the root, and each step has the next. -/
def RowReaders.keyAt? (readers : RowReaders) (row : Row) (slot : Nat) : Option Int64 :=
  (readers.root :: readers.steps)[slot]?.bind (·.key? row)

/-- The link that a row has for the step with a number, if both of its ends are there. -/
def IncludeStep.mark? (readers : RowReaders) (row : Row) (step : IncludeStep) (n : Nat) :
    Option LinkMark := do
  return ⟨n, ← readers.keyAt? row step.parent, ← readers.keyAt? row (n + 1)⟩

namespace IncludePlan

/-- The links that a row has, in the order of the steps. -/
def marks (plan : IncludePlan) (readers : RowReaders) (row : Row) : List LinkMark :=
  plan.steps.zipIdx.filterMap fun (step, n) => step.mark? readers row n

/-- The records that occur in a row are that of the root and those of the steps. -/
theorem occurrences_eq {plan : IncludePlan} {readers : RowReaders} {row : Row} {key : Int64}
    (hkey : readers.root.key? row = some key) :
  plan.occurrences readers row = ⟨plan.root, readers.root, row, key⟩ ::
    (plan.steps.zip readers.steps).filterMap fun entry =>
      Occurrence.ofRow? row (entry.1.type, entry.2)
  := by
  rw [occurrences, tables, List.filterMap_cons, List.filterMap_map]
  simp only [Occurrence.ofRow?, hkey, Option.map_some]
  rfl

/-- The links that a row has come from the steps that have readers, which are all. -/
theorem marks_eq {plan : IncludePlan} {readers : RowReaders} {row : Row}
    (hlength : readers.steps.length = plan.steps.length) :
  plan.marks readers row = ((plan.steps.zip readers.steps).zipIdx).filterMap
    fun entry => entry.1.1.mark? readers row entry.2
  := by
  have hsteps : (plan.steps.zip readers.steps).map Prod.fst = plan.steps :=
    List.map_fst_zip (Nat.le_of_eq hlength.symm)
  unfold marks
  conv_lhs => rw [← hsteps, List.zipIdx_map, List.filterMap_map]
  rfl

/-- The graph after the navigation of a step is told to link the known records at the ends
of a link. -/
def attach? (plan : IncludePlan) (known : IdentityMap) (g : Graph) (mark : LinkMark) :
    Option Graph := do
  let step ← plan.steps[mark.step]?
  let parent ← known.get? ⟨step.parentType.record.name, mark.parent⟩
  let child ← known.get? ⟨step.type.record.name, mark.child⟩
  (step.attach g parent child).toOption

variable {plan plan' : IncludePlan} {known known' : IdentityMap} {g g' : Graph} {mark : LinkMark}

/-- Linking takes a step and the records at both ends. -/
theorem attach?_eq_some :
  plan.attach? known g mark = some g' ↔
    ∃ step parent child, plan.steps[mark.step]? = some step ∧
      known.get? ⟨step.parentType.record.name, mark.parent⟩ = some parent ∧
      known.get? ⟨step.type.record.name, mark.child⟩ = some child ∧
      step.attach g parent child = .ok g'
  := by
  simp only [attach?, Option.bind_eq_bind, Option.bind_eq_some_iff]
  constructor
  · rintro ⟨step, hstep, parent, hparent, child, hchild, h⟩
    use step, parent, child, hstep, hparent, hchild
    cases hattach : step.attach g parent child with
    | error e =>
        rw [hattach] at h
        cases h
    | ok g₁ =>
        rw [hattach] at h
        cases h
        rfl
  · rintro ⟨step, parent, child, hstep, hparent, hchild, h⟩
    use step, hstep, parent, hparent, child, hchild
    rw [h]
    rfl

/-- Linking goes the same if more records are known. -/
theorem attach?_mono
    (hkept : ∀ a p, known.get? a = some p → known'.get? a = some p)
    (h : plan.attach? known g mark = some g') :
  plan.attach? known' g mark = some g'
  := by
  obtain ⟨step, parent, child, hstep, hparent, hchild, hattach⟩ := attach?_eq_some.mp h
  apply attach?_eq_some.mpr
  exact ⟨step, parent, child, hstep, hkept _ _ hparent, hkept _ _ hchild, hattach⟩

/-- Linking goes the same if there is one more record. -/
theorem attach?_add (n : Node) (h : plan.attach? known g mark = some g') :
  plan.attach? known (g.add n).2 mark = some (g'.add n).2
  := by
  obtain ⟨step, parent, child, hstep, hparent, hchild, hattach⟩ := attach?_eq_some.mp h
  apply attach?_eq_some.mpr
  use step, parent, child, hstep, hparent, hchild
  unfold IncludeStep.attach at hattach ⊢
  split at hattach
  · rename_i htyped
    obtain ⟨htype, htype'⟩ := Bool.and_eq_true_iff.mp htyped
    cases hattach
    rw [Graph.isOf_add n htype, Graph.isOf_add n htype', Graph.link_add]
    · rfl
    · apply Graph.lt_length_of_isOf htype
  · cases hattach

/-- Linking neither adds nor removes records. -/
theorem length_of_attach? (h : plan.attach? known g mark = some g') :
  g'.nodes.length = g.nodes.length
  := by
  obtain ⟨step, parent, child, -, -, -, hattach⟩ := attach?_eq_some.mp h
  unfold IncludeStep.attach at hattach
  split at hattach
  · cases hattach
    apply List.length_modify
  · cases hattach

/-- Links that are made one after the other are also made if more records are known. -/
theorem foldlM_attach?_mono {marks : List LinkMark}
    (hkept : ∀ a p, known.get? a = some p → known'.get? a = some p)
    (h : marks.foldlM (plan.attach? known) g = some g') :
  marks.foldlM (plan.attach? known') g = some g'
  := by
  induction marks generalizing g with
  | nil => apply h
  | cons mark marks ih =>
      rw [List.foldlM_cons] at h ⊢
      obtain ⟨g₁, hmark, hmarks⟩ := Option.bind_eq_some_iff.mp h
      rw [attach?_mono hkept hmark]
      apply ih hmarks

/-- Links that are made one after the other are also made if there is one more record. -/
theorem foldlM_attach?_add {marks : List LinkMark} (n : Node)
    (h : marks.foldlM (plan.attach? known) g = some g') :
  marks.foldlM (plan.attach? known) (g.add n).2 = some (g'.add n).2
  := by
  induction marks generalizing g with
  | nil =>
      cases h
      rfl
  | cons mark marks ih =>
      rw [List.foldlM_cons] at h ⊢
      obtain ⟨g₁, hmark, hmarks⟩ := Option.bind_eq_some_iff.mp h
      rw [attach?_add n hmark]
      apply ih hmarks

/-- Links that are made one after the other neither add nor remove records. -/
theorem length_of_foldlM_attach? {marks : List LinkMark}
    (h : marks.foldlM (plan.attach? known) g = some g') :
  g'.nodes.length = g.nodes.length
  := by
  induction marks generalizing g with
  | nil =>
      cases h
      rfl
  | cons mark marks ih =>
      rw [List.foldlM_cons] at h
      obtain ⟨g₁, hmark, hmarks⟩ := Option.bind_eq_some_iff.mp h
      rw [ih hmarks, length_of_attach? hmark]

end IncludePlan

/-! ### Reading and linking -/

/-- A list with one more element has the elements it had and that one at its end. -/
theorem getElem?_append_singleton_eq_some {α : Type} {as : List α} {a b : α} {i : Nat} :
  (as ++ [a])[i]? = some b ↔ as[i]? = some b ∨ i = as.length ∧ a = b
  := by
  obtain hi | rfl | hi := Nat.lt_trichotomy i as.length
  · rw [List.getElem?_append_left hi]
    simp [Nat.ne_of_lt hi]
  · simp
  · rw [List.getElem?_eq_none (by simp; omega), List.getElem?_eq_none (by omega)]
    simp [Nat.ne_of_gt hi]

namespace Loading

variable {plan : IncludePlan} {readers : RowReaders} {format : String} {row : Row}
  {os : List Occurrence} {ms : List LinkMark} {l l' : Loading}

/-- What has been put together from some occurrences of records and some links: every record
was read where it occurs first, and every link was made once. -/
structure Assembled (plan : IncludePlan) (os : List Occurrence) (ms : List LinkMark)
    (l : Loading) : Prop where
  known : ∀ a p, l.identities.get? a = some p ↔
    ((Occurrence.firsts os).map (·.identity))[p]? = some a
  links : l.links = ms.eraseDups
  graph : ∃ nodes, List.Forall₂ (fun o n => o.node = .ok n) (Occurrence.firsts os) nodes ∧
    l.links.foldlM (plan.attach? l.identities) ⟨nodes⟩ = some l.graph

/-- Nothing is put together from nothing. -/
theorem assembled_empty (plan : IncludePlan) :
  Assembled plan [] [] {}
  := by
  constructor
  · intro a p
    simp [IdentityMap.get?, Occurrence.firsts]
  · rfl
  · exact ⟨[], List.Forall₂.nil, rfl⟩

/-- The graph has one record for each that occurs. -/
theorem Assembled.length (h : Assembled plan os ms l) :
  l.graph.nodes.length = (Occurrence.firsts os).length
  := by
  obtain ⟨nodes, hnodes, hgraph⟩ := h.graph
  rw [IncludePlan.length_of_foldlM_attach? hgraph, hnodes.length_eq]

/-- The known records are those that occur. -/
theorem Assembled.isSome_iff (h : Assembled plan os ms l) (a : Identity) :
  (l.identities.get? a).isSome ↔ a ∈ os.map (·.identity)
  := by
  rw [← Occurrence.mem_identity_firsts, List.mem_iff_getElem?, Option.isSome_iff_exists]
  apply exists_congr
  intro p
  apply h.known

/-- A record that occurs before is not read again. -/
theorem Assembled.again {o : Occurrence} (h : Assembled plan os ms l)
    (hknown : (l.identities.get? o.identity).isSome) :
  Assembled plan (os ++ [o]) ms l
  := by
  have hfirsts := Occurrence.firsts_append_singleton os o
  rw [if_pos ((h.isSome_iff _).mp hknown)] at hfirsts
  constructor
  · rw [hfirsts]
    apply h.known
  · apply h.links
  · rw [hfirsts]
    apply h.graph

/-- A record that does not occur before is read. -/
theorem Assembled.insert {o : Occurrence} {n : Node} (h : Assembled plan os ms l)
    (hunknown : l.identities.get? o.identity = none) (hread : o.node = .ok n) :
  Assembled plan (os ++ [o]) ms { l with
    identities := l.identities.insert o.identity (l.graph.add n).1, graph := (l.graph.add n).2 }
  := by
  have hmem : o.identity ∉ os.map (·.identity) := by
    rw [← h.isSome_iff, hunknown]
    simp
  have hfirsts := Occurrence.firsts_append_singleton os o
  rw [if_neg hmem] at hfirsts
  obtain ⟨nodes, hnodes, hgraph⟩ := h.graph
  have hkept : ∀ a p, l.identities.get? a = some p →
      (l.identities.insert o.identity (l.graph.add n).1).get? a = some p := by
    intro a p ha
    rw [IdentityMap.get?_insert, if_neg, ha]
    rintro rfl
    cases hunknown.symm.trans ha
  constructor
  · intro a p
    rw [hfirsts, List.map_append, List.map_singleton, getElem?_append_singleton_eq_some,
      ← h.known, List.length_map, ← h.length, IdentityMap.get?_insert]
    by_cases ha : a = o.identity
    · rw [if_pos ha, ha, hunknown]
      simp [Graph.add, eq_comm]
    · rw [if_neg ha]
      simp [Ne.symm ha]
  · apply h.links
  · use nodes ++ [n]
    constructor
    · rw [hfirsts]
      apply List.rel_append hnodes
      exact List.Forall₂.cons hread List.Forall₂.nil
    · exact IncludePlan.foldlM_attach?_add n (IncludePlan.foldlM_attach?_mono hkept hgraph)

/-- A record that occurs is read unless it occurs before. -/
theorem Assembled.record {type : EntityType} {reader : RowMapper} {key : Int64} {position : Nat}
    {created : Bool} (h : Assembled plan os ms l)
    (hrecord : l.recordOf type reader row key = .ok (position, created, l')) :
  Assembled plan (os ++ [⟨type, reader, row, key⟩]) ms l'
  := by
  obtain ⟨resolved, hresolve, hrecord⟩ := exists_of_bind_ok hrecord
  cases hrecord
  unfold IdentityMap.resolve at hresolve
  split at hresolve
  · rename_i position hknown
    cases hresolve
    apply h.again
    exact Option.isSome_iff_exists.mpr ⟨position, hknown⟩
  · rename_i hunknown
    obtain ⟨⟨position, g⟩, hmake, hresolve⟩ := exists_of_bind_ok hresolve
    obtain ⟨record, hmap, hmake⟩ := exists_of_bind_ok hmake
    cases hresolve
    cases hmake
    apply h.insert (o := ⟨type, reader, row, key⟩) hunknown
    simp only [Occurrence.node, hmap]
    rfl

/-- A link is made unless it has been made before. -/
theorem Assembled.link {step : IncludeStep} {n : Nat} {parent child : Found}
    (h : Assembled plan os ms l) (hstep : plan.steps[n]? = some step)
    (hparent : l.identities.get? ⟨step.parentType.record.name, parent.key⟩ = some parent.position)
    (hchild : l.identities.get? ⟨step.type.record.name, child.key⟩ = some child.position)
    (hlink : l.link step n parent child = .ok l') :
  Assembled plan os (ms ++ [⟨n, parent.key, child.key⟩]) l'
  := by
  have hmarks := eraseDups_append_singleton ms ⟨n, parent.key, child.key⟩
  unfold Loading.link at hlink
  dsimp only at hlink
  rw [h.links] at hlink
  simp only [List.mem_eraseDups] at hlink
  split at hlink
  · rename_i hmade
    cases hlink
    rw [if_pos hmade] at hmarks
    constructor
    · apply h.known
    · rw [hmarks]
      apply h.links
    · apply h.graph
  · rename_i hnew
    obtain ⟨g, hattach, hlink⟩ := exists_of_bind_ok hlink
    cases hlink
    rw [if_neg hnew] at hmarks
    obtain ⟨nodes, hnodes, hgraph⟩ := h.graph
    constructor
    · apply h.known
    · rw [hmarks]
    · use nodes, hnodes
      rw [h.links] at hgraph
      rw [List.foldlM_append, hgraph]
      show (List.foldlM (plan.attach? l.identities) l.graph [_]) = some g
      rw [List.foldlM_cons, IncludePlan.attach?_eq_some.mpr
        ⟨step, _, _, hstep, hparent, hchild, hattach⟩]
      rfl

/-! ### Steps and rows -/

/-- The records found in a row as far as the steps have been taken: they are those of which
the row has the keys, and their positions are known. -/
structure Located (plan : IncludePlan) (readers : RowReaders) (row : Row) (n : Nat)
    (l : Loading) (slots : List (Option Found)) : Prop where
  length : slots.length = n + 1
  keys : ∀ i, i ≤ n → slots[i]?.join.map (·.key) = readers.keyAt? row i
  known : ∀ i found, slots[i]?.join = some found → ∃ anchor, plan.anchor? i = some anchor ∧
    l.identities.get? ⟨anchor.type.record.name, found.key⟩ = some found.position

variable {n : Nat} {slots slots' : List (Option Found)}

/-- One more record is located. -/
theorem Located.append {found : List Identity} {slot : Option Found}
    (h : Located plan readers row n l slots) (hgrown : Grown l l' found)
    (hkey : slot.map (·.key) = readers.keyAt? row (n + 1))
    (hslot : ∀ f, slot = some f → ∃ anchor, plan.anchor? (n + 1) = some anchor ∧
      l'.identities.get? ⟨anchor.type.record.name, f.key⟩ = some f.position) :
  Located plan readers row (n + 1) l' (slots ++ [slot])
  := by
  have hlast : ∀ i, (slots ++ [slot])[i]?.join =
      if i = n + 1 then slot else slots[i]?.join := by
    intro i
    rw [List.getElem?_append, h.length]
    split
    · rw [if_neg (by omega)]
    · rename_i hi
      by_cases heq : i = n + 1
      · simp [heq]
      · rw [if_neg heq, List.getElem?_eq_none (by simp; omega),
          List.getElem?_eq_none (by rw [h.length]; omega)]
  constructor
  · rw [List.length_append, h.length]
    rfl
  · intro i hi
    rw [hlast]
    split
    · rename_i heq
      rw [heq, hkey]
    · apply h.keys i (by omega)
  · intro i f hf
    rw [hlast] at hf
    split at hf
    · rename_i heq
      rw [heq]
      apply hslot f hf
    · obtain ⟨anchor, hanchor, hposition⟩ := h.known i f hf
      use anchor, hanchor
      apply hgrown.kept _ _ hposition

/-- The parent of a record, if it was found, is known as a record of the type that the step
is linked from. -/
theorem Located.known_parent (hplan : plan.WellTyped) {step : IncludeStep}
    (hstep : step ∈ plan.steps) (h : Located plan readers row n l slots) {parent : Found}
    (hparent : slots[step.parent]?.join = some parent) :
  l.identities.get? ⟨step.parentType.record.name, parent.key⟩ = some parent.position
  := by
  obtain ⟨anchor, hanchor, hposition⟩ := h.known step.parent parent hparent
  obtain ⟨anchor', hanchor', htype⟩ := hplan step hstep
  rw [hanchor] at hanchor'
  cases hanchor'
  rw [← htype]
  apply hposition

/-- A step reads the record that the row has of it, and links it if the row has its parent. -/
theorem Assembled.addStep {step : IncludeStep} {reader : RowMapper} (hplan : plan.WellTyped)
    (hstep : plan.steps[n]? = some step) (hreader : readers.steps[n]? = some reader)
    (hparent : step.parent ≤ n) (h : Assembled plan os ms l)
    (hslots : Located plan readers row n l slots)
    (hadd : addStep row (l, slots) ((step, reader), n) = .ok (l', slots')) :
  Assembled plan (os ++ (Occurrence.ofRow? row (step.type, reader)).toList)
      (ms ++ (step.mark? readers row n).toList) l' ∧
    Located plan readers row (n + 1) l' slots'
  := by
  have hanchor : plan.anchor? (n + 1) = some ⟨step.type, step.descriptor, step.tableAlias⟩ := by
    simp only [IncludePlan.anchor?, hstep, Option.map_some]
  have hkeyAt : readers.keyAt? row (n + 1) = reader.key? row := by
    simp only [RowReaders.keyAt?, List.getElem?_cons_succ, hreader, Option.bind_some]
  have hmark : step.mark? readers row n = (slots[step.parent]?.join).bind fun parent =>
      (reader.key? row).map fun key => ⟨n, parent.key, key⟩ := by
    simp only [IncludeStep.mark?, hkeyAt, ← hslots.keys _ hparent]
    cases slots[step.parent]?.join <;> cases reader.key? row <;> rfl
  unfold Loading.addStep at hadd
  dsimp only at hadd
  rw [hmark, Occurrence.ofRow?]
  cases hkey : reader.key? row with
  | none =>
      rw [hkey] at hadd
      cases hadd
      constructor
      · simpa using h
      · apply hslots.append (Grown.refl l)
        · rw [hkeyAt, hkey]
          rfl
        · simp
  | some key =>
      rw [hkey] at hadd
      obtain ⟨⟨position, created, l₁⟩, hrecord, hadd⟩ := exists_of_bind_ok hadd
      obtain ⟨hgrown, hposition, -⟩ := recordOf_ok hrecord
      have hassembled := h.record hrecord
      have hlocated : ∀ {l₂ : Loading} {found : List Identity}, Grown l l₂ found →
          l₂.identities.get? ⟨step.type.record.name, key⟩ = some position →
          Located plan readers row (n + 1) l₂ (slots ++ [some ⟨key, position⟩]) := by
        intro l₂ found hgrown' hposition'
        apply hslots.append hgrown'
        · rw [hkeyAt, hkey]
          rfl
        · rintro _ ⟨rfl⟩
          exact ⟨_, hanchor, hposition'⟩
      dsimp only at hadd
      cases hslot : slots[step.parent]?.join with
      | none =>
          rw [hslot] at hadd
          cases hadd
          constructor
          · simpa using hassembled
          · apply hlocated hgrown hposition
      | some parent =>
          rw [hslot] at hadd
          obtain ⟨l₂, hlink, hadd⟩ := exists_of_bind_ok hadd
          cases hadd
          have hknown := hslots.known_parent hplan (List.mem_of_getElem? hstep) hslot
          have hgrown' := link_ok hlink
          constructor
          · apply hassembled.link hstep (hgrown.kept _ _ hknown) hposition hlink
          · apply hlocated (hgrown.trans hgrown') (hgrown'.kept _ _ hposition)

/-- Steps read the records that the row has of them, and link them. -/
theorem Assembled.foldlM_addStep (hplan : plan.WellTyped) (hordered : plan.Ordered)
    (entries : List (IncludeStep × RowMapper))
    (hentries : ∀ i entry, entries[i]? = some entry →
      plan.steps[n + i]? = some entry.1 ∧ readers.steps[n + i]? = some entry.2)
    (h : Assembled plan os ms l) (hslots : Located plan readers row n l slots)
    (hfold : (entries.zipIdx n).foldlM (Loading.addStep row) (l, slots) = .ok (l', slots')) :
  Assembled plan
    (os ++ entries.filterMap fun entry => Occurrence.ofRow? row (entry.1.type, entry.2))
    (ms ++ (entries.zipIdx n).filterMap fun entry => entry.1.1.mark? readers row entry.2) l'
  := by
  induction entries generalizing n os ms l slots with
  | nil =>
      cases hfold
      simpa using h
  | cons entry entries ih =>
      obtain ⟨step, reader⟩ := entry
      obtain ⟨hstep, hreader⟩ := hentries 0 (step, reader) rfl
      rw [List.zipIdx_cons, List.foldlM_cons] at hfold
      obtain ⟨⟨l₁, slots₁⟩, hadd, hfold⟩ := exists_of_bind_ok hfold
      obtain ⟨h₁, hslots₁⟩ := h.addStep hplan hstep hreader (hordered n step hstep) hslots hadd
      have hrest := ih (n := n + 1) (fun i next hnext => by
        rw [Nat.add_assoc, Nat.add_comm 1 i]
        apply hentries (i + 1) next hnext) h₁ hslots₁ hfold
      rw [List.append_assoc, List.append_assoc] at hrest
      rw [List.zipIdx_cons, List.filterMap_cons, List.filterMap_cons]
      cases hrecord : Occurrence.ofRow? row (step.type, reader) <;>
        cases hmark : step.mark? readers row n <;>
        simpa [hrecord, hmark] using hrest

/-- A row brings the records that occur in it and its links. -/
theorem Assembled.addRow (hplan : plan.WellTyped) (hordered : plan.Ordered)
    (hlength : readers.steps.length = plan.steps.length) (h : Assembled plan os ms l)
    (hreaders : l.readers.getD (.build plan row.columns format) = readers)
    (hadd : Loading.addRow plan format l row = .ok l') :
  Assembled plan (os ++ plan.occurrences readers row) (ms ++ plan.marks readers row) l' ∧
    l'.readers = some readers
  := by
  unfold Loading.addRow at hadd
  dsimp only at hadd
  rw [hreaders] at hadd
  cases hkey : readers.root.key? row with
  | none =>
      rw [hkey] at hadd
      cases hadd
  | some key =>
      rw [hkey] at hadd
      obtain ⟨⟨position, created, l₁⟩, hrecord, hadd⟩ := exists_of_bind_ok hadd
      obtain ⟨⟨l₂, slots⟩, hsteps, hadd⟩ := exists_of_bind_ok hadd
      cases hadd
      have hposition := (recordOf_ok hrecord).2.1
      have hroot : Assembled plan (os ++ [⟨plan.root, readers.root, row, key⟩]) ms { l₁ with
          roots := if created then l₁.roots ++ [position] else l₁.roots
          readers := some readers } := by
        obtain ⟨hknown, hlinks, hgraph⟩ := h.record hrecord
        exact ⟨hknown, hlinks, hgraph⟩
      have hslots : Located plan readers row 0 { l₁ with
          roots := if created then l₁.roots ++ [position] else l₁.roots
          readers := some readers } [some ⟨key, position⟩] := by
        constructor
        · rfl
        · intro i hi
          obtain rfl := Nat.le_zero.mp hi
          simp [RowReaders.keyAt?, hkey]
        · intro i found hfound
          cases i with
          | zero =>
              cases hfound
              exact ⟨_, rfl, hposition⟩
          | succ i => cases hfound
      have hentries : ∀ i entry, (plan.steps.zip readers.steps)[i]? = some entry →
          plan.steps[0 + i]? = some entry.1 ∧ readers.steps[0 + i]? = some entry.2 := by
        intro i entry hentry
        rw [Nat.zero_add]
        apply List.getElem?_zip_eq_some.mp hentry
      have hall := hroot.foldlM_addStep hplan hordered _ hentries hslots hsteps
      constructor
      · rw [IncludePlan.occurrences_eq hkey, IncludePlan.marks_eq hlength, List.append_cons]
        apply hall
      · apply (foldlM_addStep_ok _ 0 hsteps).readers

/-- Rows bring the records that occur in them and their links. -/
theorem Assembled.foldlM_addRow (hplan : plan.WellTyped) (hordered : plan.Ordered)
    (hlength : readers.steps.length = plan.steps.length) (rows : List Row)
    (hreaders : ∀ row ∈ rows.head?, l.readers.getD (.build plan row.columns format) = readers)
    (h : Assembled plan os ms l)
    (hrows : rows.foldlM (Loading.addRow plan format) l = .ok l') :
  Assembled plan (os ++ rows.flatMap (plan.occurrences readers))
    (ms ++ rows.flatMap (plan.marks readers)) l'
  := by
  induction rows generalizing l os ms with
  | nil =>
      cases hrows
      simpa using h
  | cons row rows ih =>
      rw [List.foldlM_cons] at hrows
      obtain ⟨l₁, hrow, hrows⟩ := exists_of_bind_ok hrows
      obtain ⟨h₁, hreaders₁⟩ := h.addRow hplan hordered hlength (hreaders row rfl) hrow
      have hrest := ih (by simp [hreaders₁]) h₁ hrows
      rw [List.append_assoc, List.append_assoc] at hrest
      rw [List.flatMap_cons, List.flatMap_cons]
      apply hrest

end Loading

/-! ### Links of one step -/

/-- A list without repetitions is the same whether it is thinned out before or after. -/
theorem filter_eraseDups {α : Type} [DecidableEq α] (p : α → Bool) (as : List α) :
  as.eraseDups.filter p = (as.filter p).eraseDups
  := by
  induction as using List.reverseRecOn with
  | nil => rfl
  | append_singleton as a ih =>
      cases hp : p a with
      | true =>
          have hfilter : (as ++ [a]).filter p = as.filter p ++ [a] := by simp [hp]
          rw [hfilter, eraseDups_append_singleton, eraseDups_append_singleton, ← ih]
          by_cases hmem : a ∈ as <;> simp [hmem, hp]
      | false =>
          have hfilter : (as ++ [a]).filter p = as.filter p := by simp [hp]
          rw [hfilter, eraseDups_append_singleton, ← ih]
          split <;> simp [hp]

/-- A link that a row has for a step is one of that step. -/
theorem IncludeStep.step_of_mark? {readers : RowReaders} {row : Row} {step : IncludeStep}
    {n : Nat} {mark : LinkMark} (h : step.mark? readers row n = some mark) :
  mark.step = n
  := by
  simp only [mark?, Option.bind_eq_bind, Option.bind_eq_some_iff] at h
  obtain ⟨parent, -, child, -, h⟩ := h
  cases h
  rfl

/-- Other steps have no links of a step. -/
theorem IncludeStep.filter_marks_eq_nil {readers : RowReaders} {row : Row} {n : Nat}
    {entries : List (IncludeStep × Nat)} (h : ∀ entry ∈ entries, entry.2 ≠ n) :
  (entries.filterMap fun entry => entry.1.mark? readers row entry.2).filter (·.step = n) = []
  := by
  rw [List.filter_eq_nil_iff]
  intro mark hmark
  obtain ⟨entry, hentry, hmark⟩ := List.mem_filterMap.mp hmark
  rw [step_of_mark? hmark]
  simpa using h entry hentry

/-- A row has at most one link for each step. -/
theorem IncludePlan.filter_marks {plan : IncludePlan} {readers : RowReaders} {row : Row}
    {n : Nat} {step : IncludeStep} (hstep : plan.steps[n]? = some step) :
  (plan.marks readers row).filter (·.step = n) = (step.mark? readers row n).toList
  := by
  obtain ⟨hn, rfl⟩ := List.getElem?_eq_some_iff.mp hstep
  have hsplit : plan.steps.zipIdx = (plan.steps.take n).zipIdx ++
      (plan.steps[n], n) :: (plan.steps.drop (n + 1)).zipIdx (n + 1) := by
    conv_lhs => rw [← List.take_append_drop n plan.steps, List.drop_eq_getElem_cons hn]
    rw [List.zipIdx_append, List.zipIdx_cons, List.length_take_of_le (Nat.le_of_lt hn),
      Nat.zero_add]
  have hbefore : ∀ entry ∈ (plan.steps.take n).zipIdx, entry.2 ≠ n := by
    intro entry hentry
    have hlt := (List.mem_zipIdx hentry).2.1
    rw [List.length_take_of_le (Nat.le_of_lt hn)] at hlt
    omega
  have hafter : ∀ entry ∈ (plan.steps.drop (n + 1)).zipIdx (n + 1), entry.2 ≠ n := by
    intro entry hentry
    have hle := (List.mem_zipIdx hentry).1
    omega
  rw [marks, hsplit, List.filterMap_append, List.filter_append]
  rw [IncludeStep.filter_marks_eq_nil hbefore, List.nil_append, List.filterMap_cons]
  dsimp only
  cases hmark : plan.steps[n].mark? readers row n with
  | none => apply IncludeStep.filter_marks_eq_nil hafter
  | some mark =>
      dsimp only
      rw [List.filter_cons_of_pos (by simp [IncludeStep.step_of_mark? hmark]),
        IncludeStep.filter_marks_eq_nil hafter]
      rfl

/-- The links of a step are those that some row has for it, each once. -/
theorem Loading.Assembled.links_of_step {plan : IncludePlan} {readers : RowReaders}
    {os : List Occurrence} {rows : List Row} {l : Loading} {n : Nat} {step : IncludeStep}
    (h : Assembled plan os (rows.flatMap (plan.marks readers)) l)
    (hstep : plan.steps[n]? = some step) :
  l.links.filter (·.step = n) = (rows.filterMap fun row => step.mark? readers row n).eraseDups
  := by
  rw [h.links, filter_eraseDups, List.filter_flatMap, List.filterMap_eq_flatMap_toList]
  simp only [IncludePlan.filter_marks hstep]

/-- The readers of a plan are as many as its steps. -/
theorem RowReaders.length_build (plan : IncludePlan) (columns : Columns) (format : String) :
  (RowReaders.build plan columns format).steps.length = plan.steps.length
  := by rw [RowReaders.build, List.length_map]

/-- The readers for rows, which are built for the columns of the first. -/
def RowReaders.ofRows (plan : IncludePlan) (rows : List Row) (format : String) : RowReaders :=
  .build plan ((rows.head?.map (·.columns)).getD []) format

/-- The readers for rows are those for the columns of the first. -/
theorem RowReaders.ofRows_eq {plan : IncludePlan} {rows : List Row} {format : String} {row : Row}
    (h : row ∈ rows.head?) :
  ofRows plan rows format = .build plan row.columns format
  := by rw [ofRows, Option.mem_def.mp h, Option.map_some, Option.getD_some]

/-- What is put together from rows by a plan that is built step by step. -/
theorem Loading.assembled_of_rows {registry : Registry} {root : EntityType}
    {inclusions : List IncludePlan.Inclusion} {plan : IncludePlan} {format : String}
    {rows : List Row} {l : Loading}
    (hplan : IncludePlan.build registry root inclusions = .ok plan)
    (hrows : rows.foldlM (addRow plan format) {} = .ok l) :
  let readers := RowReaders.ofRows plan rows format
  Assembled plan (rows.flatMap (plan.occurrences readers)) (rows.flatMap (plan.marks readers)) l
  := by
  apply (assembled_empty plan).foldlM_addRow (IncludePlan.wellTyped_of_build hplan)
    (IncludePlan.ordered_of_build hplan) _ rows _ hrows
  · apply RowReaders.length_build
  · intro row hhead
    apply (RowReaders.ofRows_eq hhead).symm

/-- A graph that is read from rows comes from reading every record where it occurs first in
the rows, and then linking every pair of records that some row has for a step, each once and
in the order in which they come first.  Every record has one position, that of its first
occurrence among those of all records.  A pair counts only in a row that has both of its
ends.  A graph can be read from any rows whose records can. -/
theorem graph_of_rows {registry : Registry} {root : EntityType}
    {inclusions : List IncludePlan.Inclusion} {plan : IncludePlan}
    (hplan : IncludePlan.build registry root inclusions = .ok plan) (format : String)
    (rows : List Row) :
  let readers := RowReaders.ofRows plan rows format
  let firsts := Occurrence.firsts (rows.flatMap (plan.occurrences readers))
  (∀ l, rows.foldlM (Loading.addRow plan format) {} = .ok l →
    (∃ nodes, List.Forall₂ (fun o n => o.node = .ok n) firsts nodes ∧
      l.links.foldlM (plan.attach? l.identities) ⟨nodes⟩ = some l.graph) ∧
    (∀ a p, l.identities.get? a = some p ↔ (firsts.map (·.identity))[p]? = some a) ∧
    l.links = (rows.flatMap (plan.marks readers)).eraseDups ∧
    ∀ n step, plan.steps[n]? = some step →
      l.links.filter (·.step = n) =
        (rows.filterMap fun row => step.mark? readers row n).eraseDups) ∧
  ((∀ row ∈ rows, readers.Reads row) → ∃ l, rows.foldlM (Loading.addRow plan format) {} = .ok l)
  := by
  intro readers firsts
  constructor
  · intro l hrows
    have hassembled := Loading.assembled_of_rows hplan hrows
    exact ⟨hassembled.graph, hassembled.known, hassembled.links,
      fun n step => hassembled.links_of_step⟩
  · apply Loading.exists_foldlM_addRow (IncludePlan.wellTyped_of_build hplan)
    intro row hhead
    apply RowReaders.ofRows_eq hhead

/-- Reports of a person, and reports of those. -/
def reports : List IncludePlan.Inclusion :=
  [⟨.many, person, "Reports", 0, none⟩, ⟨.many, person, "Reports", 1, none⟩]

/-- Of three persons the second is the boss of the first, who is that of the third. -/
def reportRows : List Row :=
  [⟨["t0__Id", "t1__Id", "t2__Id"], [.int 1, .int 3, .null]⟩,
   ⟨["t0__Id", "t1__Id", "t2__Id"], [.int 2, .int 1, .int 3]⟩,
   ⟨["t0__Id", "t1__Id", "t2__Id"], [.int 2, .int 1, .int 3]⟩]

/-- The persons are read once, and the links that two rows have are made once for each step. -/
theorem reports_assembled :
  ∃ registry plan l, Registry.build ⟨[person], []⟩ = .ok registry ∧
    IncludePlan.build registry person reports = .ok plan ∧
    reportRows.foldlM (Loading.addRow plan "%Y") {} = .ok l ∧
    l.identities.get? ⟨"Person", 2⟩ = some 2 ∧
    l.links.filter (·.step = 0) = [⟨0, 1, 3⟩, ⟨0, 2, 1⟩] ∧
    l.links.filter (·.step = 1) = [⟨1, 1, 3⟩]
  := by
  have hpersons : Registry.build ⟨[person], []⟩ = .ok ⟨[person.draft.descriptor]⟩ := rfl
  have hgraph := (@graph_of_rows ⟨[person.draft.descriptor]⟩ person reports _ rfl "%Y"
    reportRows).1 _ rfl
  refine ⟨_, _, _, hpersons, rfl, rfl, ?_, ?_, ?_⟩
  · exact (hgraph.2.1 _ _).mpr rfl
  · exact (hgraph.2.2.2 0 _ rfl).trans rfl
  · exact (hgraph.2.2.2 1 _ rfl).trans rfl

end EntityStore
