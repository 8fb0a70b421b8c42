import EntityStore.Connection.Command
import EntityStore.Join.View
import EntityStore.Proofs.Entity.Guards
import EntityStore.Proofs.Join.Placeholders

/-!
# Guards of joins

Whatever steps put a join together, each of its filters can be asked for among other
conditions.  So the statement of a join guards all its tables, whatever the filters are.
-/

namespace EntityStore

open Text Sql

namespace Join

variable {r : Registry} {j j' : Join}

/-! ### Chains -/

/-- The joins that are put together over a registry. -/
inductive Chained (r : Registry) : Join → Prop
  | start {rules : TranslationRules} {left right : EntityType} {leftAlias rightAlias : String}
      {kind : JoinKind} {j : Join}
      (h : Join.start r rules left right leftAlias rightAlias kind = .ok j) : Chained r j
  | step {j j' : Join} {s : JoinStep} (h : Chained r j) (hstep : j.step s = .ok j') :
      Chained r j'

/-- A join of a chain has registered tables. -/
theorem Chained.sound (h : j.Chained r) :
  j.Sound r
  := by
  induction h with
  | start h => apply sound_of_start h
  | step _ hstep ih => apply ih.step hstep

/-- The tables of a join of a chain have identifiers for names if their aliases are some. -/
theorem Chained.named (h : j.Chained r) (hr : r.Named)
    (haliases : ∀ a ∈ j.aliases, isIdentifier a = true) :
  ∀ b ∈ j.bindings, b.Named
  := by
  rw [aliases, List.forall_mem_map] at haliases
  intro b hb
  exact ⟨hr _ _ (h.sound.bindings b hb), haliases b hb⟩

/-! ### Filters -/

/-- Whether each filter of a join is what is made for a predicate. -/
def Conjoined (j : Join) : Prop :=
  ∀ f ∈ j.filters, ∃ g, Conjunct f.sql g

/-- What is made for one more predicate can be asked for as well. -/
theorem Conjoined.filter (h : j.Conjoined) {b : Binding} (hb : b.Named) (p : Predicate) :
  (j.filter b p).Conjoined
  := by
  unfold Join.filter
  dsimp only
  split
  · next f hresult =>
      show ∀ f' ∈ j.filters ++ [f], _
      rw [List.forall_mem_append, List.forall_mem_singleton]
      use h
      apply exists_conjunct_of_compile (hb.scope _) hresult
  · exact h

/-- Every step adds only what is made for a predicate. -/
theorem Conjoined.step (h : j.Conjoined) (haligned : j.Aligned) {s : JoinStep}
    (hstep : j.step s = .ok j') :
  j'.Conjoined
  := by
  cases s with
  | on key other | and key other | or key other =>
      cases hstep
      obtain ⟨pairing, reports, failure, heq⟩ := pairBy_eq j key other _
      simp only [Join.on, Join.and, Join.or]
      rw [heq]
      exact h
  | whereFirst p =>
      cases hstep
      apply unlessVoid_keeps Conjoined h
      apply h.filter (haligned.bindings _ haligned.left)
  | whereSecond p =>
      cases hstep
      apply unlessVoid_keeps Conjoined h
      apply h.filter (haligned.bindings _ j.right_mem_bindings)
  | pin type property =>
      cases hstep
      obtain ⟨pins, heq⟩ := pin_eq j type property
      rw [heq]
      exact h
  | next kind left right tableAlias =>
      obtain ⟨void, rfl⟩ | ⟨b, joined, -, -, rfl⟩ := next_cases hstep
      · exact h
      · exact h

/-- The filters of a join of a chain are made for predicates, if the aliases are
identifiers. -/
theorem Chained.conjoined (h : j.Chained r) (hr : r.Named)
    (haliases : ∀ a ∈ j.aliases, isIdentifier a = true) :
  j.Aligned ∧ j.Conjoined
  := by
  induction h with
  | start hstart =>
      constructor
      · apply aligned_of_start ((Chained.start hstart).named hr haliases) hstart
      · obtain ⟨base, -, hstart⟩ := exists_of_bind_ok hstart
        obtain ⟨joined, -, hstart⟩ := exists_of_bind_ok hstart
        cases hstart
        intro f hf
        cases hf
  | step h hstep ih =>
      -- The tables that were bound before have the same aliases as now.
      have hnamed := (h.step hstep).named hr haliases
      obtain ⟨haligned, hconjoined⟩ := ih fun a ha => by
        apply haliases
        obtain heq | ⟨kind, left, right, tableAlias, joined, -, -, heq⟩ := bindings_of_step hstep
        · rwa [aliases, heq]
        · rw [aliases, heq, List.map_append]
          apply List.mem_append_left _ ha
      exact ⟨haligned.step h.sound hnamed hstep, hconjoined.step haligned hstep⟩

/-! ### Statements -/

/-- What asks for the columns of a join, and the tables that they are of. -/
def selectHead (j : Join) (destination : RecordType) : String :=
  s!"SELECT {commaList ((j.projection destination).map projected)} FROM {bound j.base}" ++
    String.join (j.clauses.map clauseSql)

/-- The guards of the tables of a join. -/
def tableGuards (j : Join) : List (String × Formula (List Token)) :=
  guardsOf (j.bindings.map fun b => (b.descriptor, b.tableAlias ++ ".IsActive = 1"))

/-- The statement of a join asks for its filters and the guards of its tables. -/
theorem sql_of_statement {destination : RecordType} {f : Fragment}
    (h : j.statement destination = .ok (some f)) :
  f.sql = j.selectHead destination ++
      whereSql (j.filters.map (·.sql) ++ j.tableGuards.map (·.1)) ∧
    (j.projection destination).map projected ≠ []
  := by
  have hguards : j.tableGuards.map (·.1) = j.guards := by
    unfold tableGuards guardsOf guards
    rw [List.filter_map, List.map_map, List.map_map]
    apply List.map_congr_left
    intro b _
    apply (activeGuard_eq b.tableAlias).symm
  rw [hguards]
  unfold statement render at h
  split at h
  · cases h
  · split at h
    · cases h
    · dsimp only at h
      split at h
      · cases h
      · next hcolumns =>
          cases h
          use rfl
          simpa using hcolumns

/-- The statement of a join over aliases that are identifiers is read as its tables, and its
conditions as the conjunction of the filters and the guards. -/
theorem Chained.selects (h : j.Chained r) (hr : r.Named)
    (haliases : ∀ a ∈ j.aliases, isIdentifier a = true) {destination : RecordType} {f : Fragment}
    (hstatement : j.statement destination = .ok (some f)) :
  ∃ filters, filters.map (·.1) = j.filters.map (·.sql) ∧
    Selects f.sql (j.selectHead destination) (filters ++ j.tableGuards) ""
  := by
  obtain ⟨haligned, hconjoined⟩ := h.conjoined hr haliases
  obtain ⟨hsql, hcolumns⟩ := sql_of_statement hstatement
  obtain ⟨ts, hhead, -⟩ := mentions_head haligned hcolumns
  obtain ⟨filters, htexts, hfilters⟩ := exists_formulas hconjoined
  have hstands : ∀ x ∈ filters ++ j.tableGuards, Stands x.1 x.2 := by
    rw [List.forall_mem_append]
    use hfilters
    have hidentifiers : ∀ x ∈ j.bindings.map fun b => (b.descriptor, b.tableAlias),
        isIdentifier x.2 = true := by
      rw [List.forall_mem_map]
      intro b hb
      apply haliases
      apply List.mem_map_of_mem hb
    have hguards := stands_aliasGuards hidentifiers
    rw [List.map_map] at hguards
    exact hguards
  have hselects := selects_of_stands hhead hstands (.inl rfl : Trails "")
  rw [String.append_empty, List.map_append, htexts] at hselects
  rw [hsql]
  exact ⟨filters, htexts, hselects⟩

/-- Whether a command reads a join: it asks for the filters and the guards of the tables. -/
structure Guarded (j : Join) (destination : RecordType) (c : Command) : Prop where
  kind : c.kind = .query
  text : c.sql = j.selectHead destination ++
    whereSql (j.filters.map (·.sql) ++ j.tableGuards.map (·.1))
  params : c.params = j.params
  selects : (∀ a ∈ j.aliases, isIdentifier a = true) →
    ∃ filters, filters.map (·.1) = j.filters.map (·.sql) ∧
      Selects c.sql (j.selectHead destination) (filters ++ j.tableGuards) ""

/-- The query with the statement of a join of a chain reads it. -/
theorem Chained.guarded (h : j.Chained r) (hr : r.Named) {destination : RecordType} {f : Fragment}
    (hstatement : j.statement destination = .ok (some f)) :
  j.Guarded destination ⟨.query, f.sql, f.params⟩
  := by
  constructor
  · rfl
  · apply (sql_of_statement hstatement).1
  · apply params_of_statement hstatement
  · intro haliases
    apply h.selects hr haliases hstatement

end Join

namespace ViewStore

/-! ### Stored joins -/

/-- The stores of joins of which something is said. -/
inductive Keeps (kept : Join → Prop) : ViewStore → Prop
  | empty : Keeps kept {}
  | store {s s' : ViewStore} {source : String} {destination : RecordType} {j : Join} {v : View}
      (h : Keeps kept s) (hj : kept j) (hstore : s.store source destination j = .ok (v, s')) :
      Keeps kept s'
  | remove {s : ViewStore} (h : Keeps kept s) (destination source : String) :
      Keeps kept (s.remove destination source)

/-- A stored join has the statement that it had when it was stored. -/
theorem Keeps.statement {kept : Join → Prop} {s : ViewStore} (h : s.Keeps kept) :
  ∀ v ∈ s.views, kept v.join ∧ ∃ destination : RecordType, destination.name = v.destination ∧
    v.join.statement destination = .ok v.statement
  := by
  induction h with
  | empty => simp
  | store h hj hstore ih =>
      obtain ⟨v, hview, hstore⟩ := exists_of_bind_ok hstore
      obtain ⟨statement, hstatement, hview⟩ := exists_of_bind_ok hview
      cases hview
      cases hstore
      show ∀ w ∈ _ :: _, _
      rw [List.forall_mem_cons]
      constructor
      · exact ⟨hj, _, rfl, hstatement⟩
      · intro w hw
        apply ih w (List.mem_of_mem_filter hw)
  | remove h destination source ih =>
      intro w hw
      apply ih w (List.mem_of_mem_filter hw)

end ViewStore

end EntityStore
