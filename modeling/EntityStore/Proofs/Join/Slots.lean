import EntityStore.Proofs.Join.Parameters
import EntityStore.Proofs.Schema.Registered
import EntityStore.Proofs.Translation.Slots

/-!
# Parameters in joins

The text of a join is put together from the names of its tables, the pairings of their rows
and the filters.  Only the filters mention parameters.  So the placeholders of a statement
are those of the filters in their order, whatever steps put the join together.
-/

namespace EntityStore

open Text Sql

/-- Whether the columns of all tables of a registry have names that are identifiers. -/
def Registry.Named (r : Registry) : Prop :=
  ∀ typeName d, r.ofType? typeName = some d → ∀ c ∈ d.columns, isIdentifier c.name = true

/-- The tables of a registry that is built have columns with identifiers for names. -/
theorem Registry.named_of_build {m : Model} {r : Registry} (h : build m = .ok r) :
  r.Named
  := by
  intro typeName d hd
  apply Assembly.named_of_allNameProblems (problems_of_build h).1 d (List.mem_of_find?_eq_some hd)

/-- Whether a step gives an alias that is an identifier, if it gives one. -/
def JoinStep.Named : JoinStep → Prop
  | .next _ _ _ tableAlias => isIdentifier tableAlias = true
  | _ => True

/-- Whether the names in a bound table are identifiers. -/
structure Binding.Named (b : Binding) : Prop where
  columns : ∀ c ∈ b.descriptor.columns, isIdentifier c.name = true
  tableAlias : isIdentifier b.tableAlias = true

/-- The names in the scope of a bound table are identifiers. -/
theorem Binding.Named.scope {b : Binding} (h : b.Named) (o : Bool) :
  Scope.Named ⟨b.descriptor, some b.tableAlias, o⟩
  := by
  constructor
  · apply h.columns
  · rintro a ⟨⟩
    apply h.tableAlias

/-- An equality of columns is a comparison without parameters. -/
theorem Sql.Grammar.comparison_columns (G : Grammar) {left right leftColumn rightColumn : String}
    (hleft : isIdentifier left = true) (hleftColumn : isIdentifier leftColumn = true)
    (hright : isIdentifier right = true) (hrightColumn : isIdentifier rightColumn = true) :
  G.Comparison (Equality.columns left leftColumn right rightColumn).sql []
  := by
  have h := G.comparison_equal (G.qualified hleft hleftColumn) (G.qualified hright hrightColumn)
  show G.Comparison (left ++ "." ++ leftColumn ++ " = " ++ right ++ "." ++ rightColumn) []
  simp only [String.append_assoc] at h ⊢
  apply h

namespace Join

/-! ### Tables -/

/-- An alias stays an identifier when it is made free. -/
theorem isIdentifier_freeAlias {tableAlias : String} (h : isIdentifier tableAlias = true)
    (taken : List String) :
  isIdentifier (freeAlias taken tableAlias) = true
  := by
  unfold freeAlias
  split
  · cases hfree : ((List.range' 1 (taken.length + 1)).map (numbered tableAlias)).find? fun a =>
        !isTaken taken a with
    | none => apply h
    | some a =>
        obtain ⟨n, -, rfl⟩ := List.mem_map.mp (List.mem_of_find?_eq_some hfree)
        apply isIdentifier_append_decimalText h
  · apply h

/-- The names in a table that is bound are identifiers. -/
theorem named_of_bind {r : Registry} {taken : List String} {e : EntityType} {tableAlias : String}
    {b : Binding} (hr : r.Named) (halias : isIdentifier tableAlias = true)
    (h : bind r taken e tableAlias = .ok b) :
  b.Named
  := by
  have hregistered := registered_of_bind h
  obtain ⟨d, -, hbinding⟩ := exists_of_bind_ok h
  cases hbinding
  constructor
  · apply hr _ _ hregistered
  · apply isIdentifier_freeAlias halias

/-! ### Pairings -/

/-- An equality of columns mentions no parameter. -/
theorem mentions_columns {left right leftColumn rightColumn : String}
    (hleft : isIdentifier left = true) (hleftColumn : isIdentifier leftColumn = true)
    (hright : isIdentifier right = true) (hrightColumn : isIdentifier rightColumn = true) :
  Mentions (Equality.columns left leftColumn right rightColumn).sql []
  := Grammar.mentions.comparison_columns hleft hleftColumn hright hrightColumn

/-- Two equalities that are both asked for mention no parameter. -/
theorem mentions_and {before : Pairing} {e : Equality} (hbefore : Mentions before.sql [])
    (he : Mentions e.sql []) :
  Mentions (Pairing.and before e).sql []
  := hbefore.joinedBy "AND" (by decide) (by decide) he

/-- Two equalities of which one is asked for mention no parameter. -/
theorem mentions_or {before : Pairing} {e : Equality} (hbefore : Mentions before.sql [])
    (he : Mentions e.sql []) :
  Mentions (Pairing.or before e).sql []
  := by
  have heither : Mentions (before.sql ++ " OR " ++ e.sql) [] :=
    hbefore.joinedBy "OR" (by decide) (by decide) he
  have hgroup := heither.group
  show Mentions ("(" ++ before.sql ++ " OR " ++ e.sql ++ ")") []
  simp only [String.append_assoc] at hgroup ⊢
  apply hgroup

/-! ### Steps -/

/-- The tables of a join. -/
def tables (j : Join) : List Descriptor :=
  j.bindings.map (·.descriptor)

/-- What a parameter can be named after in a join: a base of a table that is bound. -/
def IsBase (j : Join) (base : String) : Prop :=
  ∃ d ∈ j.tables, d.IsBase base

/-- A join of tables with identifiers for names, whose filters mention their own parameters,
and whose pairings mention none. -/
structure Aligned (j : Join) : Prop where
  bindings : ∀ b ∈ j.bindings, b.Named
  left : j.left ∈ j.bindings
  pins : ∀ p ∈ j.pins, p.binding ∈ j.bindings
  pairings : ∀ c ∈ j.clauses, ∀ p ∈ c.pairing, Mentions p.sql []
  filters : ∀ f ∈ j.filters, Mentions f.sql (marked (f.params.map (·.name)))
  numbered : Numbered j.IsBase 0 j.params

variable {r : Registry} {j : Join}

/-- What is bound stays bound where tables are added. -/
theorem IsBase.mono {j' : Join} (h : ∀ b ∈ j.bindings, b ∈ j'.bindings) {base : String}
    (hbase : j.IsBase base) :
  j'.IsBase base
  := by
  obtain ⟨d, hd, hbase⟩ := hbase
  use d, List.map_subset _ h hd

/-- The names in the two tables that a join starts with are identifiers. -/
theorem named_of_start {rules : TranslationRules} {left right : EntityType}
    {leftAlias rightAlias : String} {kind : JoinKind} (hr : r.Named)
    (hleft : isIdentifier leftAlias = true) (hright : isIdentifier rightAlias = true)
    (h : start r rules left right leftAlias rightAlias kind = .ok j) :
  ∀ b ∈ j.bindings, b.Named
  := by
  obtain ⟨base, hbase, h⟩ := exists_of_bind_ok h
  obtain ⟨joined, hjoined, h⟩ := exists_of_bind_ok h
  cases h
  have hbase := named_of_bind hr hleft hbase
  have hjoined := named_of_bind hr hright hjoined
  simp [Join.bindings, clauses, hbase, hjoined]

/-- A join starts with two tables that are not paired. -/
theorem aligned_of_start {rules : TranslationRules} {left right : EntityType}
    {leftAlias rightAlias : String} {kind : JoinKind} (hbindings : ∀ b ∈ j.bindings, b.Named)
    (h : start r rules left right leftAlias rightAlias kind = .ok j) :
  j.Aligned
  := by
  obtain ⟨base, -, h⟩ := exists_of_bind_ok h
  obtain ⟨joined, -, h⟩ := exists_of_bind_ok h
  cases h
  constructor
  · apply hbindings
  · simp [Join.bindings]
  · simp
  · simp [clauses]
  · simp
  · apply Numbered.nil

/-- What does not touch the text keeps a join aligned. -/
theorem Aligned.congr {j' : Join} (h : j.Aligned) (hbase : j'.base = j.base)
    (hclauses : j'.clauses = j.clauses) (hleft : j'.left = j.left) (hpins : j'.pins = j.pins)
    (hfilters : j'.filters = j.filters) :
  j'.Aligned
  := by
  have hbindings : j'.bindings = j.bindings := by
    unfold Join.bindings
    rw [hbase, hclauses]
  have hparams : j'.params = j.params := by
    unfold params
    rw [hfilters]
  have hbases : ∀ base, j.IsBase base → j'.IsBase base := by
    intro base
    apply IsBase.mono
    simp [hbindings]
  constructor
  · rw [hbindings]
    apply h.bindings
  · rw [hleft, hbindings]
    apply h.left
  · rw [hpins, hbindings]
    apply h.pins
  · rw [hclauses]
    apply h.pairings
  · rw [hfilters]
    apply h.filters
  · rw [hparams]
    apply h.numbered.mono hbases

/-- An equality leaves the text as it is. -/
theorem Aligned.equality (h : j.Aligned) (key other : String) :
  (j.equality key other).1.Aligned ∧
    ∀ e ∈ (j.equality key other).2, Mentions e.sql []
  := by
  unfold Join.equality
  split
  · rename_i l _ r _ hl hr
    have hleft := h.bindings _ h.left
    have hright := h.bindings _ j.right_mem_bindings
    have hl := (hleft.scope false).resolve hl
    have hr := (hright.scope false).resolve hr
    use h
    rintro e ⟨⟩
    apply mentions_columns hleft.tableAlias hl hright.tableAlias hr
  · dsimp only
    split
    · use h.congr rfl rfl rfl rfl rfl
      rintro e ⟨⟩
      apply Grammar.mentions.comparison_constant false
    · use h.congr rfl rfl rfl rfl rfl
      simp

/-- A pairing that mentions no parameter keeps a join aligned. -/
theorem Aligned.pair (h : j.Aligned) {p : Pairing} (hp : Mentions p.sql []) :
  Aligned { j with current := { j.current with pairing := some p } }
  := by
  have hbindings : Join.bindings { j with current := { j.current with pairing := some p } } =
      j.bindings := by simp [Join.bindings, clauses]
  have hpairings := h.pairings
  rw [clauses, List.forall_mem_append] at hpairings
  constructor
  · rw [hbindings]
    apply h.bindings
  · rw [hbindings]
    apply h.left
  · rw [hbindings]
    apply h.pins
  · rw [clauses, List.forall_mem_append, List.forall_mem_singleton]
    use hpairings.1
    rintro q ⟨⟩
    apply hp
  · apply h.filters
  · apply h.numbered.mono
    intro base
    apply IsBase.mono
    simp [hbindings]

/-- A pairing by one equality more mentions no parameter. -/
theorem Aligned.pairBy (h : j.Aligned) (key other : String)
    {combine : Option Pairing → Equality → Pairing}
    (hcombine : ∀ (before : Option Pairing) e, (∀ p ∈ before, Mentions p.sql []) →
      Mentions e.sql [] → Mentions (combine before e).sql []) :
  (j.pairBy key other combine).Aligned
  := by
  apply unlessVoid_keeps Aligned h
  have hequality := h.equality key other
  split
  · rename_i j' e heq
    rw [heq] at hequality
    obtain ⟨haligned, he⟩ := hequality
    have hcurrent : ∀ p ∈ j'.current.pairing, Mentions p.sql [] := by
      apply haligned.pairings
      simp [clauses]
    apply haligned.pair
    apply hcombine _ _ hcurrent (he e rfl)
  · rename_i j' heq
    rw [heq] at hequality
    apply hequality.1

/-- A filter mentions the parameters that it adds. -/
theorem Aligned.filter (h : j.Aligned) (hcounter : j.counter = j.params.length) {b : Binding}
    (hb : b ∈ j.bindings) (p : Predicate) :
  (j.filter b p).Aligned
  := by
  have hbases : ∀ base, b.descriptor.IsBase base → j.IsBase base := by
    intro base hbase
    use b.descriptor, List.mem_map_of_mem hb
  have hfilters : ∀ f ∈ (j.filter b p).filters,
      Mentions f.sql (marked (f.params.map (·.name))) := by
    unfold Join.filter
    dsimp only
    split
    · rename_i f hresult
      rw [List.forall_mem_append, List.forall_mem_singleton]
      use h.filters
      apply Predicate.mentions_compile ((h.bindings b hb).scope _) hresult
    · apply h.filters
  obtain ⟨hnumbered, -⟩ := numbered_filter h.numbered hcounter hbases p
  obtain ⟨filters, counter, reports, failure, hfilter⟩ := filter_eq j b p
  rw [hfilter] at hnumbered hfilters ⊢
  exact ⟨h.bindings, h.left, h.pins, h.pairings, hfilters, hnumbered⟩

/-- A table that is not paired yet keeps a join aligned. -/
theorem Aligned.extend (h : j.Aligned) {joined left : Binding} (hjoined : joined.Named)
    (hleft : left ∈ j.bindings) (kind : JoinKind) :
  Aligned { j with earlier := j.clauses, current := ⟨kind, joined, none⟩, left := left }
  := by
  have hbindings : Join.bindings
      { j with earlier := j.clauses, current := ⟨kind, joined, none⟩, left := left } =
      j.bindings ++ [joined] := by simp [Join.bindings, clauses]
  have hbound : ∀ b ∈ j.bindings, b ∈ Join.bindings
      { j with earlier := j.clauses, current := ⟨kind, joined, none⟩, left := left } := by
    rw [hbindings]
    apply List.subset_append_left
  constructor
  · rw [hbindings, List.forall_mem_append, List.forall_mem_singleton]
    exact ⟨h.bindings, hjoined⟩
  · apply hbound left hleft
  · intro p hp
    apply hbound p.binding (h.pins p hp)
  · rw [clauses, List.forall_mem_append, List.forall_mem_singleton]
    use h.pairings
    simp
  · apply h.filters
  · apply h.numbered.mono
    intro base
    apply IsBase.mono hbound

/-- One more table is not paired at first. -/
theorem Aligned.next {j' : Join} (h : j.Aligned) (hbindings : ∀ b ∈ j'.bindings, b.Named)
    {left right : EntityType} {tableAlias : String} {kind : JoinKind}
    (hnext : j.next left right tableAlias kind = .ok j') :
  j'.Aligned
  := by
  obtain ⟨void, rfl⟩ | ⟨b, joined, hlatest, -, rfl⟩ := next_cases hnext
  · exact h.congr rfl rfl rfl rfl rfl
  · have hjoined : joined.Named := by
      apply hbindings
      simp [Join.bindings, clauses]
    apply h.extend hjoined (mem_bindings_of_latest? hlatest)

/-- A pin leads to a table that is bound. -/
theorem Aligned.pin (h : j.Aligned) (e : EntityType) (property : String) :
  (j.pin e property).Aligned
  := by
  apply unlessVoid_keeps Aligned h
  split
  · rename_i b hlatest
    have hb := mem_bindings_of_latest? hlatest
    constructor
    · apply h.bindings
    · apply h.left
    · rw [List.forall_mem_append, List.forall_mem_singleton]
      use h.pins
      apply hb
    · apply h.pairings
    · apply h.filters
    · apply h.numbered
  · apply h

/-- A step that gives an identifier for an alias keeps the names in all tables identifiers. -/
theorem named_of_step {j' : Join} (h : ∀ b ∈ j.bindings, b.Named) (hr : j.registry.Named)
    {s : JoinStep} (hs : s.Named) (hstep : j.step s = .ok j') :
  ∀ b ∈ j'.bindings, b.Named
  := by
  obtain heq | ⟨kind, left, right, tableAlias, joined, rfl, hbind, heq⟩ := bindings_of_step hstep
  · rw [heq]
    apply h
  · rw [heq, List.forall_mem_append, List.forall_mem_singleton]
    use h
    apply named_of_bind hr hs hbind

/-- Every step keeps a join aligned if the names in its tables are identifiers. -/
theorem Aligned.step {j' : Join} (h : j.Aligned) (hsound : j.Sound r)
    (hbindings : ∀ b ∈ j'.bindings, b.Named) {s : JoinStep} (hstep : j.step s = .ok j') :
  j'.Aligned
  := by
  cases s with
  | on key other =>
      cases hstep
      apply h.pairBy
      intro _ _ _ he
      apply he
  | and key other =>
      cases hstep
      apply h.pairBy
      rintro (_ | before) e hbefore he
      · apply he
      · apply mentions_and (hbefore before rfl) he
  | or key other =>
      cases hstep
      apply h.pairBy
      rintro (_ | before) e hbefore he
      · apply he
      · apply mentions_or (hbefore before rfl) he
  | whereFirst p =>
      cases hstep
      apply unlessVoid_keeps Aligned h
      apply h.filter hsound.counter h.left
  | whereSecond p =>
      cases hstep
      apply unlessVoid_keeps Aligned h
      apply h.filter hsound.counter j.right_mem_bindings
  | pin type property =>
      cases hstep
      apply h.pin
  | next kind left right tableAlias => apply h.next hbindings hstep

/-- A join stays aligned as far as steps lead. -/
theorem Aligned.follow (h : j.Aligned) (hsound : j.Sound r) (hr : r.Named)
    {steps : List JoinStep} (hsteps : ∀ s ∈ steps, s.Named) :
  (j.follow steps).1.Aligned
  := by
  have hboth : (j.follow steps).1.Aligned ∧ (j.follow steps).1.Sound r := by
    apply follow_keeps (fun j => j.Aligned ∧ j.Sound r) _ ⟨h, hsound⟩
    rintro s hs j j' ⟨h, hsound⟩ hstep
    rw [← hsound.registry] at hr
    have hbindings := named_of_step h.bindings hr (hsteps s hs) hstep
    exact ⟨h.step hsound hbindings hstep, hsound.step hstep⟩
  apply hboth.1

end Join

end EntityStore
