import EntityStore.Join.Statement
import EntityStore.Proofs.Except
import EntityStore.Proofs.Translation.Naming

/-!
# Parameters of joins

The filters of a join share one counter.  Whatever steps put the join together, its
parameters are numbered from zero without a gap, each behind a base of a table of the
registry, and the counter is their number.
-/

namespace EntityStore

open Text Sql

/-- What a parameter can be named after in a join: a base of any registered table. -/
def Registry.IsBase (r : Registry) (base : String) : Prop :=
  ∃ typeName d, r.ofType? typeName = some d ∧ d.IsBase base

/-- A binding of a registered table. -/
def Binding.Registered (r : Registry) (b : Binding) : Prop :=
  r.ofType? b.type.record.name = some b.descriptor

namespace Join

/-- A join of registered tables whose parameters are numbered up to its counter. -/
structure Sound (r : Registry) (j : Join) : Prop where
  registry : j.registry = r
  bindings : ∀ b ∈ j.bindings, b.Registered r
  left : j.left.Registered r
  numbered : Numbered r.IsBase 0 j.params
  counter : j.counter = j.params.length

variable {r : Registry} {j : Join}

/-- The right table of a join is bound. -/
theorem right_mem_bindings (j : Join) :
  j.right ∈ j.bindings
  := by simp [right, bindings, clauses]

/-- A table that is bound is that of its type. -/
theorem registered_of_bind {taken : List String} {e : EntityType} {tableAlias : String}
    {b : Binding} (h : bind r taken e tableAlias = .ok b) :
  b.Registered r
  := by
  obtain ⟨d, hd, hbinding⟩ := exists_of_bind_ok h
  cases hbinding
  unfold Registry.descriptor at hd
  split at hd
  · rename_i d' hd'
    cases hd
    apply hd'
  · cases hd

/-- A join starts without parameters. -/
theorem sound_of_start {rules : TranslationRules} {left right : EntityType}
    {leftAlias rightAlias : String} {kind : JoinKind}
    (h : start r rules left right leftAlias rightAlias kind = .ok j) :
  j.Sound r
  := by
  obtain ⟨base, hbase, h⟩ := exists_of_bind_ok h
  obtain ⟨joined, hjoined, h⟩ := exists_of_bind_ok h
  cases h
  have hbase := registered_of_bind hbase
  have hjoined := registered_of_bind hjoined
  constructor
  · rfl
  · simp [bindings, clauses, hbase, hjoined]
  · apply hbase
  · apply Numbered.nil
  · rfl

/-- What does not touch the tables, the filters and the counter keeps a join sound. -/
theorem Sound.congr {j' : Join} (h : j.Sound r) (hregistry : j'.registry = j.registry)
    (hbindings : j'.bindings = j.bindings) (hleft : j'.left = j.left)
    (hfilters : j'.filters = j.filters) (hcounter : j'.counter = j.counter) :
  j'.Sound r
  := by
  have hparams : j'.params = j.params := by
    unfold params
    rw [hfilters]
  constructor
  · rw [hregistry, h.registry]
  · rw [hbindings]
    apply h.bindings
  · rw [hleft]
    apply h.left
  · rw [hparams]
    apply h.numbered
  · rw [hcounter, hparams, h.counter]

/-- A change keeps what it keeps where the join is not void. -/
theorem unlessVoid_keeps (P : Join → Prop) {change : Join → Join} (h : P j)
    (hchange : P (change j)) :
  P (j.unlessVoid change)
  := by
  unfold Join.unlessVoid
  split
  · apply h
  · apply hchange

/-- An equality leaves at most a report or a failure. -/
theorem Sound.equality (h : j.Sound r) (key other : String) :
  (j.equality key other).1.Sound r
  := by
  unfold Join.equality
  split
  · apply h
  · dsimp only
    split
    · exact h.congr rfl rfl rfl rfl rfl
    · exact h.congr rfl rfl rfl rfl rfl

/-- A pairing has no parameters. -/
theorem Sound.pairBy (h : j.Sound r) (key other : String)
    (combine : Option Pairing → Equality → Pairing) :
  (j.pairBy key other combine).Sound r
  := by
  apply unlessVoid_keeps (Sound r) h
  have hequality := h.equality key other
  split
  · rename_i j' e heq
    rw [heq] at hequality
    refine hequality.congr rfl ?_ rfl rfl rfl
    simp [Join.bindings, clauses]
  · rename_i j' heq
    rw [heq] at hequality
    apply hequality

/-- A filter leaves everything but the filters, the counter and what is said about it. -/
theorem filter_eq (j : Join) (b : Binding) (p : Predicate) :
  ∃ filters counter reports failure, j.filter b p =
    { j with filters := filters, counter := counter, reports := reports, failure := failure }
  := by
  unfold Join.filter
  dsimp only
  split
  · exact ⟨_, _, _, _, rfl⟩
  · exact ⟨_, _, _, _, rfl⟩

/-- An equality leaves everything but what is said about it. -/
theorem equality_eq (j : Join) (key other : String) :
  ∃ reports failure, (j.equality key other).1 = { j with reports := reports, failure := failure }
  := by
  unfold Join.equality
  split
  · exact ⟨_, _, rfl⟩
  · dsimp only
    split
    · exact ⟨_, _, rfl⟩
    · exact ⟨_, _, rfl⟩

/-- A pairing leaves everything but itself and what is said about it. -/
theorem pairBy_eq (j : Join) (key other : String)
    (combine : Option Pairing → Equality → Pairing) :
  ∃ pairing reports failure, j.pairBy key other combine =
    { j with
      current := { j.current with pairing := pairing }
      reports := reports
      failure := failure }
  := by
  apply unlessVoid_keeps (fun k => ∃ pairing reports failure, k =
    { j with
      current := { j.current with pairing := pairing }
      reports := reports
      failure := failure })
  · exact ⟨_, _, _, rfl⟩
  · obtain ⟨reports, failure, hequality⟩ := equality_eq j key other
    split
    · next j' e heq =>
        rw [heq] at hequality
        subst hequality
        exact ⟨_, _, _, rfl⟩
    · next j' heq =>
        rw [heq] at hequality
        subst hequality
        exact ⟨_, _, _, rfl⟩

/-- A pin leaves everything but the pins. -/
theorem pin_eq (j : Join) (e : EntityType) (property : String) :
  ∃ pins, j.pin e property = { j with pins := pins }
  := by
  apply unlessVoid_keeps (fun k => ∃ pins, k = { j with pins := pins })
  · exact ⟨_, rfl⟩
  · split
    · exact ⟨_, rfl⟩
    · exact ⟨_, rfl⟩

/-- One more table is bound, unless the join is void or becomes so. -/
theorem next_cases {j' : Join} {left right : EntityType} {tableAlias : String} {kind : JoinKind}
    (h : j.next left right tableAlias kind = .ok j') :
  (∃ void, j' = { j with void := void }) ∨
    ∃ b joined, j.latest? left = some b ∧
      bind j.registry j.aliases right tableAlias = .ok joined ∧
      j' = { j with earlier := j.clauses, current := ⟨kind, joined, none⟩, left := b }
  := by
  unfold Join.next at h
  split at h
  · cases h
    left
    exact ⟨_, rfl⟩
  · split at h
    · cases h
      left
      exact ⟨_, rfl⟩
    · next b hlatest =>
        obtain ⟨joined, hbind, h⟩ := exists_of_bind_ok h
        cases h
        right
        exact ⟨b, joined, hlatest, hbind, rfl⟩

/-- A step leaves the bound tables as they are, or adds one. -/
theorem bindings_of_step {j' : Join} {s : JoinStep} (h : j.step s = .ok j') :
  j'.bindings = j.bindings ∨
    ∃ kind left right tableAlias joined, s = .next kind left right tableAlias ∧
      bind j.registry j.aliases right tableAlias = .ok joined ∧
      j'.bindings = j.bindings ++ [joined]
  := by
  cases s with
  | on key other | and key other | or key other =>
      cases h
      left
      obtain ⟨pairing, reports, failure, heq⟩ := pairBy_eq j key other _
      simp only [Join.on, Join.and, Join.or]
      rw [heq]
      simp [bindings, clauses]
  | whereFirst p | whereSecond p =>
      cases h
      left
      apply unlessVoid_keeps (fun k => k.bindings = j.bindings) rfl
      obtain ⟨filters, counter, reports, failure, heq⟩ := filter_eq j _ p
      rw [heq]
      rfl
  | pin type property =>
      cases h
      left
      obtain ⟨pins, heq⟩ := pin_eq j type property
      rw [heq]
      rfl
  | next kind left right tableAlias =>
      obtain ⟨void, rfl⟩ | ⟨b, joined, -, hbind, rfl⟩ := next_cases h
      · left
        rfl
      · right
        refine ⟨kind, left, right, tableAlias, joined, rfl, hbind, ?_⟩
        simp [bindings, clauses]

/-- A filter numbers its parameters on from those before it. -/
theorem numbered_filter {allowed : String → Prop} (hnumbered : Numbered allowed 0 j.params)
    (hcounter : j.counter = j.params.length) {b : Binding}
    (hb : ∀ base, b.descriptor.IsBase base → allowed base) (p : Predicate) :
  Numbered allowed 0 (j.filter b p).params ∧
    (j.filter b p).counter = (j.filter b p).params.length
  := by
  unfold Join.filter
  dsimp only
  split
  · rename_i f hresult
    obtain ⟨hcounter', hnumbered'⟩ := Predicate.compile_ok hresult
    constructor
    · show Numbered allowed 0 ((j.filters ++ [f]).flatMap (·.params))
      rw [List.flatMap_append, List.flatMap_singleton]
      apply hnumbered.append
      rw [Nat.zero_add]
      show Numbered allowed j.params.length f.params
      rw [← hcounter]
      apply hnumbered'.mono hb
    · show (p.compile ..).counter = ((j.filters ++ [f]).flatMap (·.params)).length
      rw [hcounter', List.flatMap_append, List.flatMap_singleton, List.length_append, hcounter]
      rfl
  · rename_i e hresult
    use hnumbered
    show (p.compile ..).counter = j.params.length
    rw [Predicate.compile_error hresult, hcounter]

/-- A filter on a registered table keeps a join sound. -/
theorem Sound.filter (h : j.Sound r) {b : Binding} (hb : b.Registered r) (p : Predicate) :
  (j.filter b p).Sound r
  := by
  have hbases : ∀ base, b.descriptor.IsBase base → r.IsBase base := by
    intro base hbase
    exact ⟨_, _, hb, hbase⟩
  obtain ⟨hnumbered, hcounter⟩ := numbered_filter h.numbered h.counter hbases p
  obtain ⟨filters, counter, reports, failure, hfilter⟩ := filter_eq j b p
  rw [hfilter] at hnumbered hcounter ⊢
  exact ⟨h.registry, h.bindings, h.left, hnumbered, hcounter⟩

/-- The latest binding of a type is one of the join. -/
theorem mem_bindings_of_latest? {e : EntityType} {b : Binding} (h : j.latest? e = some b) :
  b ∈ j.bindings
  := by
  apply List.mem_reverse.mp
  apply List.mem_of_find?_eq_some h

/-- One more table comes without parameters. -/
theorem Sound.next {j' : Join} (h : j.Sound r) {left right : EntityType} {tableAlias : String}
    {kind : JoinKind} (hnext : j.next left right tableAlias kind = .ok j') :
  j'.Sound r
  := by
  unfold Join.next at hnext
  split at hnext
  · cases hnext
    apply h
  · split at hnext
    · cases hnext
      exact h.congr rfl rfl rfl rfl rfl
    · rename_i b hlatest
      obtain ⟨joined, hbind, hnext⟩ := exists_of_bind_ok hnext
      cases hnext
      rw [h.registry] at hbind
      have hjoined := registered_of_bind hbind
      constructor
      · apply h.registry
      · intro c hc
        have hc : c ∈ j.base :: (j.earlier ++ [j.current]).map (·.binding) ++ [joined] := by
          simpa [Join.bindings, clauses] using hc
        obtain hc | hc := List.mem_append.mp hc
        · apply h.bindings c hc
        · obtain rfl := List.mem_singleton.mp hc
          apply hjoined
      · apply h.bindings b (mem_bindings_of_latest? hlatest)
      · apply h.numbered
      · apply h.counter

/-- Every step keeps a join sound. -/
theorem Sound.step {j' : Join} (h : j.Sound r) {s : JoinStep} (hstep : j.step s = .ok j') :
  j'.Sound r
  := by
  cases s with
  | on key other | and key other | or key other =>
      cases hstep
      apply h.pairBy
  | whereFirst p =>
      cases hstep
      apply unlessVoid_keeps (Sound r) h
      apply h.filter h.left
  | whereSecond p =>
      cases hstep
      apply unlessVoid_keeps (Sound r) h
      apply h.filter (h.bindings _ j.right_mem_bindings)
  | pin type property =>
      cases hstep
      apply unlessVoid_keeps (Sound r) h
      split
      · exact h.congr rfl rfl rfl rfl rfl
      · apply h
  | next kind left right tableAlias => apply h.next hstep

/-- What every step keeps is kept as far as steps lead. -/
theorem follow_keeps (P : Join → Prop) {steps : List JoinStep}
    (hstep : ∀ s ∈ steps, ∀ j j', P j → j.step s = .ok j' → P j') (h : P j) :
  P (j.follow steps).1
  := by
  induction steps generalizing j with
  | nil => apply h
  | cons s rest ih =>
      rw [List.forall_mem_cons] at hstep
      rw [Join.follow]
      split
      · rename_i next hnext
        apply ih hstep.2 (hstep.1 _ _ h hnext)
      · apply h

/-- A join stays sound as far as steps lead. -/
theorem Sound.follow (h : j.Sound r) (steps : List JoinStep) :
  (j.follow steps).1.Sound r
  := by
  apply follow_keeps (Sound r) _ h
  intro s _ j j' h hstep
  apply h.step hstep

/-- A statement has the parameters of the filters. -/
theorem params_of_statement {destination : RecordType} {f : Fragment}
    (h : j.statement destination = .ok (some f)) :
  f.params = j.params
  := by
  unfold statement render at h
  split at h
  · cases h
  · split at h
    · cases h
    · dsimp only at h
      split at h
      · cases h
      · cases h
        rfl

/-! ### Joins with two parameters of one name -/

/-- A record with its key alone. -/
def keyRecord : RecordType := ⟨"Key", [.ofColumn primaryKey .integer false]⟩

/-- The key can be read from any join. -/
theorem exists_statement (hvoid : j.void = none) (hfailure : j.failure = none) :
  ∃ f, j.statement keyRecord = .ok (some f)
  := by
  have hkey : ∃ found, j.source? (.ofColumn primaryKey .integer false) = some found := by
    unfold source?
    cases j.pinned? _ with
    | some found => use found; rfl
    | none => use (j.base, primaryKey); rfl
  obtain ⟨found, hfound⟩ := hkey
  simp [statement, render, isVoid, hvoid, hfailure, projection, keyRecord, hfound, Except.map]

/-- A predicate with SQL becomes a filter and changes nothing besides the reports. -/
theorem filter_of_ok (j : Join) (b : Binding) {p : Predicate} {f : Fragment}
    (h : (p.compile j.rules b.descriptor (some b.tableAlias) j.counter).result = .ok f) :
  ∃ reports, j.filter b p =
    { j with
      counter := (p.compile j.rules b.descriptor (some b.tableAlias) j.counter).counter
      reports := reports
      filters := j.filters ++ [f] }
  := by
  unfold filter
  dsimp only
  rw [h]
  exact ⟨_, rfl⟩

/-- If a base is another with a number behind it, two filters of a join have parameters of
one name. -/
theorem exists_join_not_nodup (h : ¬ Separate r.IsBase) :
  ∃ left right j steps f, start r {} left right "a" "b" .inner = .ok j ∧
    (j.follow steps).1.statement keyRecord = .ok (some f) ∧ ¬ (f.params.map (·.name)).Nodup
  := by
  simp only [Separate, not_forall, not_not] at h
  obtain ⟨a, b, k, ⟨leftName, d, hd, ha⟩, ⟨rightName, e, he, hb⟩, hk, hab⟩ := h
  let left : EntityType := ⟨⟨leftName, []⟩, d.table, []⟩
  let right : EntityType := ⟨⟨rightName, []⟩, e.table, []⟩
  let base : Binding := ⟨left, d, freeAlias [] "a"⟩
  let joined : Binding := ⟨right, e, freeAlias [base.tableAlias] "b"⟩
  obtain ⟨p, hp⟩ := Predicate.exists_names ⟨d, some base.tableAlias, false⟩ ha
  obtain ⟨q, hq⟩ := Predicate.exists_names ⟨e, some joined.tableAlias, false⟩ hb
  let j : Join :=
    { registry := r, rules := {}, base, left := base, current := ⟨.inner, joined, none⟩ }
  have hstart : start r {} left right "a" "b" .inner = .ok j := by
    simp [start, bind, Registry.descriptor, left, right, hd, he]
    rfl
  obtain ⟨f, v, between, hf, hcounter, hfparams⟩ := Predicate.compile_padded {} hp (10 * k - 1) 0
  obtain ⟨g, w, after, hg, -, hgparams⟩ := Predicate.compile_padded {} hq 0 (0 + (10 * k - 1) + 1)
  obtain ⟨reports, hfirst⟩ := filter_of_ok j base hf
  rw [hcounter] at hfirst
  let j' : Join :=
    { j with counter := 0 + (10 * k - 1) + 1, reports := reports, filters := j.filters ++ [f] }
  obtain ⟨reports', hsecond⟩ := filter_of_ok j' joined hg
  let steps : List JoinStep := [.whereFirst (p.padded (10 * k - 1)), .whereSecond q]
  have hfollow : (j.follow steps).1 = j'.filter joined (q.padded 0) := by
    calc
      (j.follow steps).1
          = ((j.filter base (p.padded (10 * k - 1))).follow [.whereSecond q]).1 := rfl
      _ = (j'.follow [.whereSecond q]).1 := by rw [hfirst]
      _ = j'.filter joined (q.padded 0) := rfl
  rw [hsecond] at hfollow
  have hparams : (j.follow steps).1.params = f.params ++ g.params := by
    simp [hfollow, params, j', j]
  obtain ⟨fragment, hfragment⟩ :=
    exists_statement (j := (j.follow steps).1) (by rw [hfollow]) (by rw [hfollow])
  use left, right, j, steps, fragment
  use hstart, hfragment
  rw [params_of_statement hfragment, hparams, hfparams, hgparams]
  apply not_nodup_of_name_eq
  rw [hab]
  apply name_collision b hk
  omega

/-- The parameters of every statement of a join have different names exactly if the bases
of all registered tables are separate. -/
theorem statement_nodup_iff (r : Registry) :
  (∀ left right leftAlias rightAlias rules kind j steps destination f,
      start r rules left right leftAlias rightAlias kind = .ok j →
      (j.follow steps).1.statement destination = .ok (some f) →
      (f.params.map (·.name)).Nodup) ↔ Separate r.IsBase
  := by
  constructor
  · intro h
    by_contra hseparate
    obtain ⟨left, right, j, steps, f, hstart, hstatement, hnames⟩ :=
      exists_join_not_nodup hseparate
    apply hnames
    apply h left right "a" "b" {} .inner j steps keyRecord f hstart hstatement
  · intro h left right leftAlias rightAlias rules kind j steps destination f hstart hstatement
    rw [params_of_statement hstatement]
    apply ((sound_of_start hstart).follow steps).numbered.nodup h

end Join

/-- The parameters of every fragment on a table have different names exactly if no base of
the table is another with a positive number behind it.  The same goes for the statements
of joins and the bases of all registered tables. -/
theorem names_nodup_iff_separate (d : Descriptor) (r : Registry) :
  ((∀ p rules tableAlias n f, (Predicate.compile p rules d tableAlias n).result = .ok f →
      (f.params.map (·.name)).Nodup) ↔ Separate d.IsBase) ∧
  ((∀ left right leftAlias rightAlias rules kind j steps destination f,
      Join.start r rules left right leftAlias rightAlias kind = .ok j →
      (j.follow steps).1.statement destination = .ok (some f) →
      (f.params.map (·.name)).Nodup) ↔ Separate r.IsBase)
  := ⟨compile_nodup_iff d, Join.statement_nodup_iff r⟩

/-- A table with a column named as another with a digit behind it is accepted. -/
def ageModel : Model where
  entities :=
    [⟨⟨"Person", [.ofColumn "Id" .integer false, .ofColumn "Age" .integer false,
        .ofColumn "Age1" .integer false]⟩, "Person", []⟩]

/-- Its parameters `Age1` and `Age` with the numbers 0 and 10 have one name. -/
theorem names_collide :
  ∃ r d, Registry.build ageModel = .ok r ∧ r.ofType? "Person" = some d ∧
    ∃ (p : Predicate) (f : Fragment),
      (p.compile { policy := .strict } d none 0).result = .ok f ∧
        ¬ (f.params.map (·.name)).Nodup
  := by
  let d : Descriptor :=
    { table := "Person", typeName := "Person"
      columns := [{ name := "Age", type := .integer }, { name := "Age1", type := .integer }] }
  use ⟨[d]⟩, d, rfl, rfl
  apply exists_not_nodup
  intro hseparate
  have hlonger : d.IsBase "Age1" := .inr ⟨"Age1", .integer, rfl⟩
  have hshorter : d.IsBase "Age" := .inr ⟨"Age", .integer, rfl⟩
  apply hseparate "Age1" "Age" 1 hlonger hshorter (by decide)
  decide

end EntityStore
