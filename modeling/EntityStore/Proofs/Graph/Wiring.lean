import EntityStore.Proofs.Graph.Assembly
import Mathlib.Data.Option.Basic

/-!
# Wiring of graphs

A link is made once for each step.  Steps that lead from records of one type to records of
another under one name wire the same navigation, so that a record is wired as often as there
are steps that find it under its parent in some row.
-/

namespace EntityStore

/-! ### Navigations of a node -/

namespace Node

/-- The links of a changed navigation are changed, and the others are as before. -/
theorem lookup_changeLinks (navigation other : String) (change : List Nat → List Nat)
    (links : List (String × List Nat)) :
  ((changeLinks navigation change links).lookup other).getD [] =
    if other = navigation then change ((links.lookup other).getD [])
    else (links.lookup other).getD []
  := by
  induction links with
  | nil =>
      by_cases h : other = navigation
      · simp [changeLinks, h]
      · simp [changeLinks, List.lookup_cons, beq_false_of_ne h, h]
  | cons entry links ih =>
      obtain ⟨name, positions⟩ := entry
      unfold changeLinks
      by_cases hname : name = navigation
      · rw [if_pos hname]
        by_cases hother : other = navigation
        · simp [hname, hother]
        · have hne : other ≠ name := hname ▸ hother
          simp [List.lookup_cons, beq_false_of_ne hne, hother]
      · rw [if_neg hname]
        by_cases hother : other = name
        · simp [hother, hname]
        · simp only [List.lookup_cons, beq_false_of_ne hother]
          apply ih

/-- A record that is linked under a navigation to many comes after those that are. -/
theorem linked_link_many (n : Node) (navigation other : String) (position : Nat) :
  (n.link navigation .many position).linked other =
    n.linked other ++ if other = navigation then [position] else []
  := by
  unfold link linked
  rw [lookup_changeLinks]
  split <;> simp

/-- Other navigations are as before. -/
theorem linked_link_of_ne {navigation other : String} (n : Node) (cardinality : Cardinality)
    (position : Nat) (h : other ≠ navigation) :
  (n.link navigation cardinality position).linked other = n.linked other
  := by
  unfold link linked
  rw [lookup_changeLinks, if_neg h]

end Node

/-! ### Wirings -/

/-- A record that is linked from another under the name of a navigation. -/
structure Wiring where
  parent : Identity
  navigation : String
  child : Identity
  deriving DecidableEq, Repr

namespace IncludePlan

/-- What a link wires. -/
def wiring? (plan : IncludePlan) (mark : LinkMark) : Option Wiring :=
  plan.steps[mark.step]?.map fun s =>
    ⟨⟨s.parentType.record.name, mark.parent⟩, s.navigation, ⟨s.type.record.name, mark.child⟩⟩

/-- The numbers of the steps that wire two records in some row. -/
def wiringSteps (plan : IncludePlan) (readers : RowReaders) (rows : List Row) (w : Wiring) :
    List Nat :=
  (List.range plan.steps.length).filter fun n =>
    rows.any fun row => (plan.marks readers row).any fun mark =>
      mark.step = n ∧ plan.wiring? mark = some w

/-- Whether all steps of a name from the records of a type lead to many. -/
def IsCollection (plan : IncludePlan) (typeName navigation : String) : Prop :=
  ∀ s ∈ plan.steps, s.parentType.record.name = typeName → s.navigation = navigation →
    s.cardinality = .many

variable {plan : IncludePlan} {readers : RowReaders} {rows : List Row} {known : IdentityMap}
  {g g' : Graph} {mark mark' : LinkMark} {marks : List LinkMark} {w : Wiring} {a : Identity}
  {p : Nat} {navigation : String}

/-- A link that is made wires known records. -/
theorem exists_wiring_of_attach? (h : plan.attach? known g mark = some g') :
  ∃ w, plan.wiring? mark = some w ∧ (known.get? w.child).isSome
  := by
  obtain ⟨step, parent, child, hstep, -, hchild, -⟩ := attach?_eq_some.mp h
  refine ⟨_, by rw [wiring?, hstep]; rfl, ?_⟩
  rw [hchild]
  rfl

/-- Links that are made wire known records. -/
theorem exists_wiring_of_foldlM (h : marks.foldlM (plan.attach? known) g = some g') :
  ∀ mark ∈ marks, ∃ w, plan.wiring? mark = some w ∧ (known.get? w.child).isSome
  := by
  induction marks generalizing g with
  | nil => simp
  | cons mark marks ih =>
      rw [List.foldlM_cons] at h
      obtain ⟨g₁, hmark, hmarks⟩ := Option.bind_eq_some_iff.mp h
      intro other hother
      obtain rfl | hother := List.mem_cons.mp hother
      · apply exists_wiring_of_attach? hmark
      · apply ih hmarks other hother

/-- A link is known by its step and what it wires. -/
theorem eq_of_wiring? (h : plan.wiring? mark = some w) :
  mark = ⟨mark.step, w.parent.key, w.child.key⟩
  := by
  obtain ⟨step, -, rfl⟩ := Option.map_eq_some_iff.mp h
  rfl

/-- A link that wires something is one of a step. -/
theorem step_lt_of_wiring? (h : plan.wiring? mark = some w) :
  mark.step < plan.steps.length
  := by
  obtain ⟨step, hstep, -⟩ := Option.map_eq_some_iff.mp h
  apply (List.getElem?_eq_some_iff.mp hstep).1

/-- The steps that wire two records in some row are those of the links that do. -/
theorem mem_wiringSteps {n : Nat} :
  n ∈ plan.wiringSteps readers rows w ↔
    ∃ mark ∈ rows.flatMap (plan.marks readers), plan.wiring? mark = some w ∧ mark.step = n
  := by
  simp only [wiringSteps, List.mem_filter, List.mem_range, List.any_eq_true, List.mem_flatMap,
    decide_eq_true_eq]
  constructor
  · rintro ⟨-, row, hrow, mark, hmark, hstep, hw⟩
    exact ⟨mark, ⟨row, hrow, hmark⟩, hw, hstep⟩
  · rintro ⟨mark, ⟨row, hrow, hmark⟩, hw, rfl⟩
    exact ⟨step_lt_of_wiring? hw, row, hrow, mark, hmark, rfl, hw⟩

/-- Two records are wired as often as there are steps that do so in some row. -/
theorem count_filterMap_wiring? (plan : IncludePlan) (readers : RowReaders) (rows : List Row)
    (w : Wiring) :
  ((rows.flatMap (plan.marks readers)).eraseDups.filterMap plan.wiring?).count w =
    (plan.wiringSteps readers rows w).length
  := by
  set marks := rows.flatMap (plan.marks readers) with hmarks
  have hcount : (marks.eraseDups.filterMap plan.wiring?).count w =
      ((marks.eraseDups.filter fun mark => plan.wiring? mark = some w).map (·.step)).length := by
    rw [List.length_map, List.count_filterMap, List.countP_eq_length_filter]
    congr 1
    apply List.filter_congr
    intro mark hmark
    rw [Bool.eq_iff_iff, beq_iff_eq, decide_eq_true_iff]
  have hperm : ((marks.eraseDups.filter fun mark => plan.wiring? mark = some w).map (·.step)).Perm
      (plan.wiringSteps readers rows w) := by
    apply (List.perm_ext_iff_of_nodup _ _).mpr
    · intro n
      rw [mem_wiringSteps, List.mem_map, ← hmarks]
      simp only [List.mem_filter, List.mem_eraseDups, decide_eq_true_eq, and_assoc]
    · apply List.Nodup.map_on
      · intro mark hmark mark' hmark' hstep
        have hw := of_decide_eq_true (List.mem_filter.mp hmark).2
        have hw' := of_decide_eq_true (List.mem_filter.mp hmark').2
        rw [eq_of_wiring? hw, eq_of_wiring? hw', hstep]
      · apply (nodup_eraseDups marks).filter
    · apply List.nodup_range.filter
  rw [hcount, hperm.length_eq]

/-- A link of a collection adds the child to the records that are linked there. -/
theorem linked_of_attach?
    (hdistinct : ∀ b, known.get? b = some p → b = a) (ha : known.get? a = some p)
    (hmany : plan.IsCollection a.typeName navigation)
    (h : plan.attach? known g mark = some g') {n : Node} (hn : g.at? p = some n) :
  ∃ n', g'.at? p = some n' ∧ (n'.linked navigation).map some = (n.linked navigation).map some ++
    ((plan.wiring? mark).toList.filter fun w => w.parent = a ∧ w.navigation = navigation).map
      fun w => known.get? w.child
  := by
  obtain ⟨step, parent, child, hstep, hparent, hchild, hattach⟩ := attach?_eq_some.mp h
  have hw : plan.wiring? mark = some ⟨⟨step.parentType.record.name, mark.parent⟩,
      step.navigation, ⟨step.type.record.name, mark.child⟩⟩ := by
    rw [wiring?, hstep]
    rfl
  unfold IncludeStep.attach at hattach
  split at hattach
  · cases hattach
    unfold Graph.at? at hn ⊢
    simp only [Graph.link, List.getElem?_modify, hn]
    rw [hw]
    by_cases hp : parent = p
    · have heq := hdistinct _ (hp ▸ hparent)
      by_cases hname : step.navigation = navigation
      · have hcardinality : step.cardinality = .many := by
          apply hmany step (List.mem_of_getElem? hstep) _ hname
          rw [← heq]
        refine ⟨_, rfl, ?_⟩
        rw [hcardinality]
        simp [hp, hname, heq, hchild, Node.linked_link_many]
      · refine ⟨_, rfl, ?_⟩
        simp [hp, hname, Node.linked_link_of_ne _ _ _ (Ne.symm hname)]
    · have hne : (⟨step.parentType.record.name, mark.parent⟩ : Identity) ≠ a := by
        rintro rfl
        rw [hparent] at ha
        cases ha
        apply hp rfl
      refine ⟨_, rfl, ?_⟩
      simp [hp, hne]
  · cases hattach

/-- Links of a collection add their children to the records that are linked there. -/
theorem linked_of_foldlM
    (hdistinct : ∀ b, known.get? b = some p → b = a) (ha : known.get? a = some p)
    (hmany : plan.IsCollection a.typeName navigation)
    (h : marks.foldlM (plan.attach? known) g = some g') {n : Node} (hn : g.at? p = some n) :
  ∃ n', g'.at? p = some n' ∧ (n'.linked navigation).map some = (n.linked navigation).map some ++
    ((marks.filterMap plan.wiring?).filter fun w =>
      w.parent = a ∧ w.navigation = navigation).map fun w => known.get? w.child
  := by
  induction marks generalizing g n with
  | nil =>
      cases h
      use n, hn
      simp
  | cons mark marks ih =>
      rw [List.foldlM_cons] at h
      obtain ⟨g₁, hmark, hmarks⟩ := Option.bind_eq_some_iff.mp h
      obtain ⟨n₁, hn₁, hlinked₁⟩ := linked_of_attach? hdistinct ha hmany hmark hn
      obtain ⟨n', hn', hlinked⟩ := ih hmarks hn₁
      use n', hn'
      rw [hlinked, hlinked₁, List.append_assoc, ← List.map_append, ← List.filter_append]
      congr 3
      cases hw : plan.wiring? mark <;> simp [hw]

end IncludePlan

namespace Loading

variable {plan : IncludePlan} {readers : RowReaders} {rows : List Row} {os : List Occurrence}
  {l : Loading} {a : Identity} {p : Nat} {navigation : String}

/-- No two records have one position. -/
theorem Assembled.distinct {ms : List LinkMark} {b : Identity} (h : Assembled plan os ms l)
    (ha : l.identities.get? a = some p) (hb : l.identities.get? b = some p) :
  b = a
  := Option.some.inj (((h.known b p).mp hb).symm.trans ((h.known a p).mp ha))

/-- The records linked under a collection are those that are wired, in their order. -/
theorem Assembled.linked (h : Assembled plan os (rows.flatMap (plan.marks readers)) l)
    (ha : l.identities.get? a = some p) (hmany : plan.IsCollection a.typeName navigation) :
  ∃ n, l.graph.at? p = some n ∧
    (n.linked navigation).map some =
      ((l.links.filterMap plan.wiring?).filter fun w =>
        w.parent = a ∧ w.navigation = navigation).map fun w => l.identities.get? w.child
  := by
  obtain ⟨nodes, hnodes, hgraph⟩ := h.graph
  have hp : p < nodes.length := by
    rw [← hnodes.length_eq, ← List.length_map (·.identity)]
    apply (List.getElem?_eq_some_iff.mp ((h.known a p).mp ha)).1
  have hn : (⟨nodes⟩ : Graph).at? p = some nodes[p] := List.getElem?_eq_getElem hp
  have hempty : nodes[p].linked navigation = [] := by
    have hread := hnodes.get (by rwa [hnodes.length_eq]) hp
    obtain ⟨record, -, hrecord⟩ := exists_of_bind_ok hread
    have hnode : _ = nodes[p] := Except.ok.inj hrecord
    rw [← hnode]
    rfl
  obtain ⟨n, hn, hlinked⟩ := IncludePlan.linked_of_foldlM
    (fun b hb => h.distinct ha hb) ha hmany hgraph hn
  use n, hn
  rw [hlinked, hempty]
  rfl

/-- Children that are wired have different positions. -/
theorem Assembled.child_eq {ms : List LinkMark} {w w' : Wiring} (h : Assembled plan os ms l)
    (hw : w ∈ l.links.filterMap plan.wiring?)
    (heq : l.identities.get? w.child = l.identities.get? w'.child) :
  w.child = w'.child
  := by
  obtain ⟨mark, hmark, hwiring⟩ := List.mem_filterMap.mp hw
  obtain ⟨nodes, -, hgraph⟩ := h.graph
  obtain ⟨w₁, hw₁, hknown⟩ := IncludePlan.exists_wiring_of_foldlM hgraph mark hmark
  obtain rfl := Option.some.inj (hwiring.symm.trans hw₁)
  obtain ⟨q, hq⟩ := Option.isSome_iff_exists.mp hknown
  apply h.distinct (heq ▸ hq) hq

/-- No child is twice in a collection exactly if it is wired there by at most one step. -/
theorem Assembled.nodup_linked_iff (h : Assembled plan os (rows.flatMap (plan.marks readers)) l)
    (ha : l.identities.get? a = some p) (hmany : plan.IsCollection a.typeName navigation)
    {n : Node} (hn : l.graph.at? p = some n) :
  (n.linked navigation).Nodup ↔
    ∀ child, (plan.wiringSteps readers rows ⟨a, navigation, child⟩).length ≤ 1
  := by
  obtain ⟨n', hn', hlinked⟩ := h.linked ha hmany
  obtain rfl := Option.some.inj (hn.symm.trans hn')
  rw [← List.nodup_map_iff (Option.some_injective _), hlinked]
  have hcount : ∀ w, (l.links.filterMap plan.wiring?).count w =
      (plan.wiringSteps readers rows w).length := by
    intro w
    rw [h.links]
    apply IncludePlan.count_filterMap_wiring?
  constructor
  · intro hnodup child
    have hle := List.nodup_iff_count_le_one.mp hnodup.of_map ⟨a, navigation, child⟩
    rwa [List.count_filter (by simp), hcount] at hle
  · intro hle
    apply List.Nodup.map_on
    · intro w hw w' hw' heq
      obtain ⟨hmem, hw⟩ := List.mem_filter.mp hw
      obtain ⟨-, hw'⟩ := List.mem_filter.mp hw'
      obtain ⟨hparent, hname⟩ := of_decide_eq_true hw
      obtain ⟨hparent', hname'⟩ := of_decide_eq_true hw'
      have hchild := h.child_eq hmem heq
      cases w
      cases w'
      simp_all only
    · apply List.nodup_iff_count_le_one.mpr
      intro w
      by_cases hw : w.parent = a ∧ w.navigation = navigation
      · obtain ⟨rfl, rfl⟩ := hw
        rw [List.count_filter (by simp), hcount]
        apply hle w.child
      · rw [List.count_eq_zero_of_not_mem]
        · apply Nat.zero_le
        · simp [hw]

end Loading

/-- No two steps have the same name and lead from and to records of the same types. -/
def IncludePlan.NamesApart (plan : IncludePlan) : Prop :=
  ∀ (m n : Nat) (s t : IncludeStep), plan.steps[m]? = some s → plan.steps[n]? = some t →
    s.parentType.record.name = t.parentType.record.name → s.navigation = t.navigation →
    s.type.record.name = t.type.record.name → m = n

/-- Links that have different names, or records of different types, wire different things. -/
theorem IncludePlan.NamesApart.nodup {plan : IncludePlan} {marks : List LinkMark}
    (h : plan.NamesApart) (hmarks : marks.Nodup) :
  (marks.filterMap plan.wiring?).Nodup
  := by
  apply hmarks.filterMap
  intro mark mark' w hw hw'
  have hw := Option.mem_def.mp hw
  have hw' := Option.mem_def.mp hw'
  rw [eq_of_wiring? hw, eq_of_wiring? hw']
  obtain ⟨s, hs, rfl⟩ := Option.map_eq_some_iff.mp hw
  obtain ⟨t, ht, heq⟩ := Option.map_eq_some_iff.mp hw'
  injection heq with hparent hname hchild
  injection hparent with hparent
  injection hchild with hchild
  rw [h _ _ s t hs ht hparent.symm hname.symm hchild.symm]

/-- Two records are wired under a name as often as there are steps that do so in some row,
each step counting once.  So nothing is wired twice exactly if no two steps do so, which a
plan ensures if no two of its steps have the same name and the same types.  A collection
holds the records that are wired there, in their order, and none of them twice exactly if
no two steps wire it. -/
theorem wirings_of_rows {registry : Registry} {root : EntityType}
    {inclusions : List IncludePlan.Inclusion} {plan : IncludePlan} {format : String}
    {rows : List Row} {l : Loading}
    (hplan : IncludePlan.build registry root inclusions = .ok plan)
    (hrows : rows.foldlM (Loading.addRow plan format) {} = .ok l) :
  let wirings := l.links.filterMap plan.wiring?
  let steps := plan.wiringSteps (RowReaders.ofRows plan rows format) rows
  (∀ w, wirings.count w = (steps w).length) ∧
  (wirings.Nodup ↔ ∀ w, (steps w).length ≤ 1) ∧
  (plan.NamesApart → wirings.Nodup) ∧
  ∀ a p navigation, l.identities.get? a = some p → plan.IsCollection a.typeName navigation →
    ∃ n, l.graph.at? p = some n ∧
      (n.linked navigation).map some =
        (wirings.filter fun w => w.parent = a ∧ w.navigation = navigation).map
          (fun w => l.identities.get? w.child) ∧
      ((n.linked navigation).Nodup ↔ ∀ child, (steps ⟨a, navigation, child⟩).length ≤ 1)
  := by
  intro wirings steps
  have hassembled := Loading.assembled_of_rows hplan hrows
  have hcount : ∀ w, wirings.count w = (steps w).length := by
    intro w
    simp only [wirings, hassembled.links]
    apply IncludePlan.count_filterMap_wiring?
  refine ⟨hcount, ?_, ?_, ?_⟩
  · rw [List.nodup_iff_count_le_one]
    simp only [hcount]
  · intro hapart
    apply hapart.nodup
    rw [hassembled.links]
    apply nodup_eraseDups
  · intro a p navigation ha hmany
    obtain ⟨n, hn, hlinked⟩ := hassembled.linked ha hmany
    exact ⟨n, hn, hlinked, hassembled.nodup_linked_iff ha hmany hn⟩

/-- The third person is wired to the first by both steps. -/
theorem report_wired_by_two :
  ∃ registry plan l, Registry.build ⟨[person], []⟩ = .ok registry ∧
    IncludePlan.build registry person reports = .ok plan ∧
    reportRows.foldlM (Loading.addRow plan "%Y") {} = .ok l ∧
    (l.links.filterMap plan.wiring?).count ⟨⟨"Person", 1⟩, "Reports", ⟨"Person", 3⟩⟩ = 2
  := by
  have hpersons : Registry.build ⟨[person], []⟩ = .ok ⟨[person.draft.descriptor]⟩ := rfl
  have hwirings := @wirings_of_rows ⟨[person.draft.descriptor]⟩ person reports _ "%Y"
    reportRows _ rfl rfl
  refine ⟨_, _, _, hpersons, rfl, rfl, ?_⟩
  exact (hwirings.1 _).trans rfl

/-- The third person is twice among the reports of the first. -/
theorem report_linked_twice :
  ∃ registry plan l, Registry.build ⟨[person], []⟩ = .ok registry ∧
    IncludePlan.build registry person reports = .ok plan ∧
    reportRows.foldlM (Loading.addRow plan "%Y") {} = .ok l ∧
    l.identities.get? ⟨"Person", 1⟩ = some 0 ∧ l.identities.get? ⟨"Person", 3⟩ = some 1 ∧
    (l.graph.at? 0).map (·.linked "Reports") = some [1, 1]
  := ⟨⟨[person.draft.descriptor]⟩, _, _, rfl, rfl, rfl, rfl, rfl, rfl⟩

end EntityStore
