import EntityStore.Proofs.Join.Cursor
import EntityStore.Proofs.Translation.Policy

/-!
# Joins under the two policies

A condition or a filter that has no SQL is refused.  Where that is an error, the join goes on
without it, but keeps the first refusal to tell it when a statement is asked for.  So a chain
of calls comes to the same statements under both policies, or to none under the strict one,
whatever calls come after the refusal.
-/

namespace EntityStore

open Text Sql

namespace Join

/-! ### Refusals -/

/-- The table and the reason that are told of an equality of which a column is unknown. -/
def refusedPair? (j : Join) (key other : String) : Option (String × String) :=
  let table := j.right.descriptor.table
  match j.known? key other with
  | some _ => none
  | none => some (table, s!"cannot join {j.left.descriptor.table}.{key} to {table}.{other}")

/-- The table and the reason that are told of a predicate without SQL. -/
def refusedFilter? (j : Join) (b : Binding) (p : Predicate) : Option (String × String) :=
  let table := b.descriptor.table
  match (p.translate ⟨b.descriptor, some b.tableAlias, j.rules.opaqueTimestamps⟩ 0).outcome with
  | .ok _ => none
  | .error u => some (table, s!"Translation error: {u.reason} (predicate on {table})")

/-- The table and the reason that are told of a step that has no SQL. -/
def refusal? (j : Join) : JoinStep → Option (String × String)
  | .on key other | .and key other | .or key other => j.refusedPair? key other
  | .whereFirst p => j.refusedFilter? j.left p
  | .whereSecond p => j.refusedFilter? j.right p
  | .pin .. | .next .. => none

/-- The table and the reason that are told of the first of some steps that has no SQL. -/
def firstRefusal? (j : Join) : List JoinStep → Option (String × String)
  | [] => none
  | s :: rest =>
    (j.refusal? s).or (match j.step s with
      | .ok next => next.firstRefusal? rest
      | .error _ => none)

variable {j j' k : Join} {told : String × String}

/-! ### Tables -/

/-- A step changes neither the registry nor the rules. -/
theorem fixed_of_step {s : JoinStep} (hstep : j.step s = .ok k) :
  k.registry = j.registry ∧ k.rules = j.rules
  := by
  cases s with
  | on key other | and key other | or key other =>
      cases hstep
      obtain ⟨pairing, reports, failure, heq⟩ := pairBy_eq j key other _
      simp only [Join.on, Join.and, Join.or]
      rw [heq]
      exact ⟨rfl, rfl⟩
  | whereFirst p | whereSecond p =>
      cases hstep
      apply unlessVoid_keeps (fun k => k.registry = j.registry ∧ k.rules = j.rules) ⟨rfl, rfl⟩
      obtain ⟨filters, counter, reports, failure, heq⟩ := filter_eq j _ p
      rw [heq]
      exact ⟨rfl, rfl⟩
  | pin type property =>
      cases hstep
      obtain ⟨pins, heq⟩ := pin_eq j type property
      rw [heq]
      exact ⟨rfl, rfl⟩
  | next kind left right tableAlias =>
      obtain ⟨void, rfl⟩ | ⟨b, joined, -, -, rfl⟩ := next_cases hstep
      · exact ⟨rfl, rfl⟩
      · exact ⟨rfl, rfl⟩

/-- Two joins of the same tables, both void or neither. -/
structure Parallel (j j' : Join) : Prop where
  registry : j.registry = j'.registry
  timestamps : j.rules.opaqueTimestamps = j'.rules.opaqueTimestamps
  void : j.void = j'.void
  bindings : j.bindings = j'.bindings
  left : j.left = j'.left
  right : j.right = j'.right

/-- The same step is refused of joins of the same tables. -/
theorem Parallel.refusal?_eq (h : Parallel j j') (s : JoinStep) :
  j.refusal? s = j'.refusal? s
  := by
  cases s with
  | on key other | and key other | or key other =>
      simp only [refusal?, refusedPair?, known?, h.left, h.right]
  | whereFirst p => simp only [refusal?, refusedFilter?, h.left, h.timestamps]
  | whereSecond p => simp only [refusal?, refusedFilter?, h.right, h.timestamps]
  | pin type property => rfl
  | next kind left right tableAlias => rfl

/-- Joins of the same tables are joined with one more alike. -/
theorem Parallel.next (h : Parallel j j') (left right : EntityType) (tableAlias : String)
    (kind : JoinKind) :
  Agreement Parallel (j.next left right tableAlias kind) (j'.next left right tableAlias kind)
  := by
  have hvoid : j.isVoid = j'.isVoid := by rw [isVoid, isVoid, h.void]
  have hlatest : j.latest? left = j'.latest? left := by rw [latest?, latest?, h.bindings]
  have hbind : bind j.registry j.aliases right tableAlias =
      bind j'.registry j'.aliases right tableAlias := by
    rw [aliases, aliases, h.bindings, h.registry]
  unfold Join.next
  rw [hvoid, hlatest]
  split
  · apply Agreement.ok h
  · cases j'.latest? left with
    | none => exact .ok ⟨h.registry, h.timestamps, rfl, h.bindings, h.left, h.right⟩
    | some b =>
        dsimp only
        rw [hbind]
        cases bind j'.registry j'.aliases right tableAlias with
        | error e => apply Agreement.error
        | ok joined =>
            apply Agreement.ok
            refine ⟨h.registry, h.timestamps, h.void, ?_, rfl, rfl⟩
            have hjoined : ∀ i : Join, Join.bindings
                { i with earlier := i.clauses, current := ⟨kind, joined, none⟩, left := b } =
                  i.bindings ++ [joined] := by
              intro i
              simp [Join.bindings, clauses]
            apply (hjoined j).trans
            rw [h.bindings]
            apply (hjoined j').symm

/-- A step that joins nothing leads from joins of the same tables to such joins. -/
theorem Parallel.step_of_joined (h : Parallel j j') {s : JoinStep} (hs : s.joined? = none) :
  Agreement Parallel (j.step s) (j'.step s)
  := by
  have hsome : ∀ i : Join, ∃ k, i.step s = .ok k := by
    intro i
    cases s with
    | next => cases hs
    | on | and | or | whereFirst | whereSecond | pin => exact ⟨_, rfl⟩
  obtain ⟨k, hstep⟩ := hsome j
  obtain ⟨k', hstep'⟩ := hsome j'
  have htables := sameTables_of_step hstep hs
  have htables' := sameTables_of_step hstep' hs
  obtain ⟨hregistry, hrules⟩ := fixed_of_step hstep
  obtain ⟨hregistry', hrules'⟩ := fixed_of_step hstep'
  rw [hstep, hstep']
  apply Agreement.ok
  -- Either join has the tables that it had before.
  constructor
  · rw [hregistry, hregistry', h.registry]
  · rw [hrules, hrules', h.timestamps]
  · rw [htables.void, htables'.void, h.void]
  · rw [htables.bindings, htables'.bindings, h.bindings]
  · rw [htables.left, htables'.left, h.left]
  · rw [htables.right, htables'.right, h.right]

/-- A step leads from joins of the same tables to such joins. -/
theorem Parallel.step (h : Parallel j j') (s : JoinStep) :
  Agreement Parallel (j.step s) (j'.step s)
  := by
  cases s with
  | next kind left right tableAlias => apply h.next
  | on | and | or | whereFirst | whereSecond | pin =>
      apply h.step_of_joined
      rfl

/-- Steps lead equally far from joins of the same tables. -/
theorem Parallel.follow (h : Parallel j j') (steps : List JoinStep) :
  Parallel (j.follow steps).1 (j'.follow steps).1 ∧
    (j.follow steps).2 = (j'.follow steps).2
  := by
  induction steps generalizing j j' with
  | nil => exact ⟨h, rfl⟩
  | cons s rest ih =>
      have hstep := h.step s
      rw [Join.follow, Join.follow]
      generalize j.step s = result at hstep ⊢
      generalize j'.step s = result' at hstep ⊢
      cases hstep with
      | ok h => apply ih h
      | error e => exact ⟨h, rfl⟩

/-- The same step is the first that is refused of joins of the same tables. -/
theorem Parallel.firstRefusal?_eq (h : Parallel j j') (steps : List JoinStep) :
  j.firstRefusal? steps = j'.firstRefusal? steps
  := by
  induction steps generalizing j j' with
  | nil => rfl
  | cons s rest ih =>
      have hstep := h.step s
      rw [firstRefusal?, firstRefusal?, h.refusal?_eq]
      generalize j.step s = result at hstep ⊢
      generalize j'.step s = result' at hstep ⊢
      cases hstep with
      | ok h =>
          dsimp only
          rw [ih h]
      | error e => rfl

/-! ### Steps that are not refused -/

/-- The join under the policy that closes what it cannot translate. -/
def lenient (j : Join) : Join :=
  { j with rules := { j.rules with policy := .failClosed } }

/-- The policy does not change the tables. -/
theorem parallel_lenient (j : Join) :
  Parallel j j.lenient
  := ⟨rfl, rfl, rfl, rfl, rfl, rfl⟩

/-- Steps that lead to the same join but for the policy, with no more failure than before. -/
def Commutes (j : Join) (change : Join → Join) : Prop :=
  change j.lenient = (change j).lenient ∧ (change j).failure = j.failure

/-- A change of joins that are not void commutes if it does there. -/
theorem Commutes.unlessVoid {change : Join → Join} (h : j.Commutes change) :
  j.Commutes (·.unlessVoid change)
  := by
  have hvoid : j.lenient.isVoid = j.isVoid := rfl
  unfold Commutes Join.unlessVoid
  dsimp only
  rw [hvoid]
  split
  · exact ⟨rfl, rfl⟩
  · apply h

/-- A pairing of known columns does not depend on the policy. -/
theorem commutes_pairBy {key other : String} (h : j.refusedPair? key other = none)
    (combine : Option Pairing → Equality → Pairing) :
  j.Commutes (·.pairBy key other combine)
  := by
  apply Commutes.unlessVoid
  unfold refusedPair? at h
  dsimp only at h
  split at h
  · next e he =>
      have hlenient : j.lenient.known? key other = some e := he
      unfold Commutes
      dsimp only
      rw [equality_of_known he, equality_of_known hlenient]
      exact ⟨rfl, rfl⟩
  · cases h

/-- A filter that is a predicate with SQL does not depend on the policy. -/
theorem commutes_filter {b : Binding} {p : Predicate} (h : j.refusedFilter? b p = none) :
  j.Commutes (·.filter b p)
  := by
  have hsql : ¬ p.LacksSql ⟨b.descriptor, some b.tableAlias, j.rules.opaqueTimestamps⟩ := by
    rw [Predicate.lacksSql_iff 0]
    rintro ⟨u, hu⟩
    unfold refusedFilter? at h
    dsimp only at h
    rw [hu] at h
    cases h
  obtain ⟨f, computed, hcompile⟩ := Predicate.exists_compile_of_not_lacksSql hsql j.counter
  have hstrict : p.compile j.rules b.descriptor (some b.tableAlias) j.counter = _ :=
    hcompile j.rules.policy
  have hlenient :
      p.compile j.lenient.rules b.descriptor (some b.tableAlias) j.lenient.counter = _ :=
    hcompile .failClosed
  unfold Commutes Join.filter
  dsimp only
  rw [hstrict, hlenient]
  exact ⟨rfl, rfl⟩

/-- A pin does not depend on the policy. -/
theorem commutes_pin (j : Join) (e : EntityType) (property : String) :
  j.Commutes (·.pin e property)
  := by
  apply Commutes.unlessVoid
  have hlatest : j.lenient.latest? e = j.latest? e := rfl
  unfold Commutes
  dsimp only
  rw [hlatest]
  split
  · exact ⟨rfl, rfl⟩
  · exact ⟨rfl, rfl⟩

/-- One more table is joined whatever the policy is. -/
theorem next_lenient (j : Join) (left right : EntityType) (tableAlias : String)
    (kind : JoinKind) :
  j.lenient.next left right tableAlias kind =
    (j.next left right tableAlias kind).map lenient
  := by
  have hvoid : j.lenient.isVoid = j.isVoid := rfl
  have hlatest : j.lenient.latest? left = j.latest? left := rfl
  have hbind : bind j.lenient.registry j.lenient.aliases right tableAlias =
      bind j.registry j.aliases right tableAlias := rfl
  unfold Join.next
  rw [hvoid, hlatest, hbind]
  split
  · rfl
  · cases j.latest? left with
    | none => rfl
    | some b => cases bind j.registry j.aliases right tableAlias <;> rfl

/-- Joining one more table is no failure that is kept. -/
theorem failure_of_next {left right : EntityType} {tableAlias : String} {kind : JoinKind}
    (h : j.next left right tableAlias kind = .ok k) :
  k.failure = j.failure
  := by
  obtain ⟨void, rfl⟩ | ⟨b, joined, -, -, rfl⟩ := next_cases h
  · rfl
  · rfl

/-- A step that is not refused does not depend on the policy and is no failure. -/
theorem step_of_accepted {s : JoinStep} (h : j.refusal? s = none) :
  j.lenient.step s = (j.step s).map lenient ∧ ∀ k, j.step s = .ok k → k.failure = j.failure
  := by
  have hcommutes : ∀ change : Join → Join, j.Commutes change →
      (.ok (change j.lenient) : Except Error Join) = (Except.ok (change j)).map lenient ∧
        ∀ k, (.ok (change j) : Except Error Join) = .ok k → k.failure = j.failure := by
    rintro change ⟨hlenient, hfailure⟩
    use congrArg Except.ok hlenient
    rintro k ⟨⟩
    apply hfailure
  cases s with
  | on key other | and key other | or key other =>
      apply hcommutes _ (commutes_pairBy h _)
  | whereFirst p =>
      apply hcommutes (·.whereFirst p)
      apply (commutes_filter h).unlessVoid
  | whereSecond p =>
      apply hcommutes (·.whereSecond p)
      apply (commutes_filter h).unlessVoid
  | pin type property => apply hcommutes _ (commutes_pin j type property)
  | next kind left right tableAlias =>
      use next_lenient j left right tableAlias kind
      intro k hnext
      apply failure_of_next hnext

/-- Steps of which none is refused do not depend on the policy and are no failure. -/
theorem follow_of_accepted {steps : List JoinStep} (h : j.firstRefusal? steps = none) :
  (j.lenient.follow steps).1 = (j.follow steps).1.lenient ∧
    (j.follow steps).1.failure = j.failure
  := by
  induction steps generalizing j with
  | nil => exact ⟨rfl, rfl⟩
  | cons s rest ih =>
      rw [firstRefusal?, Option.or_eq_none_iff] at h
      obtain ⟨hs, hrest⟩ := h
      obtain ⟨hlenient, hfailure⟩ := step_of_accepted hs
      rw [Join.follow, Join.follow, hlenient]
      cases hstep : j.step s with
      | error e => exact ⟨rfl, rfl⟩
      | ok next =>
          rw [hstep] at hrest
          obtain ⟨hsame, hkept⟩ := ih hrest
          use hsame
          rw [hkept, hfailure next hstep]

/-! ### Steps that are refused -/

/-- A refused equality fails where that is an error. -/
theorem failure_of_refusedPair {key other : String} (h : j.refusedPair? key other = some told)
    (hstrict : j.rules.policy = .strict) (hvoid : j.isVoid = false)
    (combine : Option Pairing → Equality → Pairing) :
  (j.pairBy key other combine).failure = j.failure.or (some told)
  := by
  have hequality : j.equality key other = (j.fail told.1 told.2, none) := by
    unfold refusedPair? known? at h
    unfold Join.equality
    dsimp only at h ⊢
    split
    · next l _ r _ hl hr =>
        rw [hl, hr] at h
        cases h
    · split at h
      · cases h
      · cases h
        simp only [TranslationRules.degrade, hstrict]
  unfold Join.pairBy Join.unlessVoid
  rw [hvoid, if_neg Bool.false_ne_true]
  dsimp only
  rw [hequality]
  rfl

/-- A refused predicate fails where that is an error. -/
theorem failure_of_refusedFilter {b : Binding} {p : Predicate}
    (h : j.refusedFilter? b p = some told) (hstrict : j.rules.policy = .strict) :
  (j.filter b p).failure = j.failure.or (some told)
  := by
  unfold refusedFilter? at h
  dsimp only at h
  split at h
  · cases h
  · next u hu =>
      cases h
      rw [Predicate.outcome_eq_error_iff _ j.counter] at hu
      have hcompile := Predicate.compile_of_error hu
      unfold Join.filter
      dsimp only
      rw [hcompile]
      simp only [TranslationRules.degrade, hstrict]
      rfl

/-- A step that is refused fails where that is an error. -/
theorem failure_of_refused {s : JoinStep} (h : j.refusal? s = some told)
    (hstrict : j.rules.policy = .strict) (hvoid : j.isVoid = false) (hstep : j.step s = .ok k) :
  k.failure = j.failure.or (some told)
  := by
  cases s with
  | on key other | and key other | or key other =>
      cases hstep
      apply failure_of_refusedPair h hstrict hvoid
  | whereFirst p | whereSecond p =>
      cases hstep
      simp only [Join.whereFirst, Join.whereSecond, Join.unlessVoid]
      rw [hvoid, if_neg Bool.false_ne_true]
      apply failure_of_refusedFilter h hstrict
  | pin type property => cases h
  | next kind left right tableAlias => cases h

/-- The first failure is kept by an equality. -/
theorem failure_equality (h : j.failure = some told) (key other : String) :
  (j.equality key other).1.failure = some told
  := by
  unfold Join.equality
  split
  · apply h
  · dsimp only
    split
    · apply h
    · show j.failure.or _ = _
      rw [h]
      rfl

/-- The first failure is kept by a pairing. -/
theorem failure_pairBy (h : j.failure = some told) (key other : String)
    (combine : Option Pairing → Equality → Pairing) :
  (j.pairBy key other combine).failure = some told
  := by
  apply unlessVoid_keeps (·.failure = some told) h
  have hequality := failure_equality h key other
  split
  · next heq =>
      rw [heq] at hequality
      apply hequality
  · next heq =>
      rw [heq] at hequality
      apply hequality

/-- The first failure is kept by a filter. -/
theorem failure_filter (h : j.failure = some told) (b : Binding) (p : Predicate) :
  (j.filter b p).failure = some told
  := by
  unfold Join.filter
  dsimp only
  split
  · apply h
  · show j.failure.or _ = _
    rw [h]
    rfl

/-- The first failure is kept by every step. -/
theorem failure_step (h : j.failure = some told) {s : JoinStep} (hstep : j.step s = .ok k) :
  k.failure = some told
  := by
  cases s with
  | on key other | and key other | or key other =>
      cases hstep
      apply failure_pairBy h
  | whereFirst p | whereSecond p =>
      cases hstep
      apply unlessVoid_keeps (·.failure = some told) h
      apply failure_filter h
  | pin type property =>
      cases hstep
      obtain ⟨pins, heq⟩ := pin_eq j type property
      rw [heq]
      apply h
  | next kind left right tableAlias =>
      rw [failure_of_next hstep]
      apply h

/-- The first failure is kept as far as steps lead. -/
theorem failure_follow (h : j.failure = some told) (steps : List JoinStep) :
  (j.follow steps).1.failure = some told
  := by
  apply follow_keeps (·.failure = some told) _ h
  intro s _ j k h hstep
  apply failure_step h hstep

/-- The first step that is refused is the failure of the join, whatever steps follow. -/
theorem failure_of_firstRefusal? {steps : List JoinStep} (h : j.firstRefusal? steps = some told)
    (hstrict : j.rules.policy = .strict) (hnone : j.failure = none)
    (hfollow : j.follow steps = (k, none)) (hk : k.isVoid = false) :
  k.failure = some told
  := by
  -- Steps before the refusal leave no failure, and steps behind it keep the one that it leaves.
  induction steps generalizing j with
  | nil => cases h
  | cons s rest ih =>
      have hj := isVoid_of_follow hfollow hk
      rw [firstRefusal?] at h
      rw [Join.follow] at hfollow
      cases hstep : j.step s with
      | error e =>
          rw [hstep] at hfollow
          cases hfollow
      | ok next =>
          rw [hstep] at h hfollow
          dsimp only at h hfollow
          cases hs : j.refusal? s with
          | none =>
              rw [hs, Option.none_or] at h
              apply ih h _ _ hfollow
              · rw [(fixed_of_step hstep).2, hstrict]
              · rw [(step_of_accepted hs).2 next hstep, hnone]
          | some refused =>
              rw [hs, Option.some_or] at h
              cases h
              have hfailure := failure_of_refused hs hstrict hj hstep
              rw [hnone, Option.none_or] at hfailure
              have hkept := failure_follow hfailure rest
              rw [hfollow] at hkept
              apply hkept

/-- A join with a failure has no statement unless it is void. -/
theorem error_of_failure (h : j.failure = some told) (hvoid : j.isVoid = false)
    (destination : RecordType) :
  j.select destination = .error (.translation told.1 told.2) ∧
    j.statement destination = .error (.translation told.1 told.2)
  := by
  have hrender : ∀ conditions,
      j.render destination conditions = .error (.translation told.1 told.2) := by
    intro conditions
    unfold render
    rw [h]
  constructor
  · apply hrender
  · rw [statement, hvoid, if_neg Bool.false_ne_true, hrender]
    rfl

/-! ### Statements -/

variable {steps : List JoinStep} {stopped : Option Error}

/-- Steps of which none is refused lead to the same statements under either policy. -/
theorem statement_of_accepted (h : j.firstRefusal? steps = none)
    (hfollow : j.follow steps = (k, stopped)) (hfollow' : j.lenient.follow steps = (j', stopped))
    (destination : RecordType) :
  k.select destination = j'.select destination ∧ k.statement destination = j'.statement destination
  := by
  obtain ⟨hsame, -⟩ := follow_of_accepted h
  rw [hfollow, hfollow'] at hsame
  dsimp only at hsame
  subst hsame
  exact ⟨rfl, rfl⟩

/-- Steps of which one is refused lead to no statement where that is an error. -/
theorem error_of_firstRefusal? (h : j.firstRefusal? steps = some told)
    (hstrict : j.rules.policy = .strict) (hnone : j.failure = none)
    (hfollow : j.follow steps = (k, none)) (hk : k.isVoid = false) (destination : RecordType) :
  k.select destination = .error (.translation told.1 told.2) ∧
    k.statement destination = .error (.translation told.1 told.2)
  := error_of_failure (failure_of_firstRefusal? h hstrict hnone hfollow hk) hk destination

end Join

/-! ### Chains -/

/-- What a join is put together from. -/
structure JoinChain where
  registry : Registry
  left : EntityType
  right : EntityType
  leftAlias : String
  rightAlias : String
  kind : JoinKind
  steps : List JoinStep

namespace JoinChain

/-- The join before the steps. -/
def start (c : JoinChain) (rules : TranslationRules) : Except Error Join :=
  Join.start c.registry rules c.left c.right c.leftAlias c.rightAlias c.kind

/-- The join that a chain leads to. -/
def join (c : JoinChain) (rules : TranslationRules) : Except Error Join := do
  let j ← c.start rules
  match j.follow c.steps with
  | (k, none) => return k
  | (_, some e) => throw e

/-- The table and the reason that are told of the first step that has no SQL. -/
def firstRefusal? (c : JoinChain) (rules : TranslationRules) : Option (String × String) :=
  match c.start rules with
  | .ok j => j.firstRefusal? c.steps
  | .error _ => none

/-- A join starts in the same way under either policy. -/
theorem start_lenient (c : JoinChain) (o : Bool) :
  (∃ e, c.start ⟨.strict, o⟩ = .error e ∧ c.start ⟨.failClosed, o⟩ = .error e) ∨
    ∃ j, c.start ⟨.strict, o⟩ = .ok j ∧ c.start ⟨.failClosed, o⟩ = .ok j.lenient ∧
      j.rules.policy = .strict ∧ j.failure = none
  := by
  unfold start Join.start
  cases hbase : Join.bind c.registry [] c.left c.leftAlias with
  | error e =>
      left
      exact ⟨e, rfl, rfl⟩
  | ok base =>
      cases hjoined : Join.bind c.registry [base.tableAlias] c.right c.rightAlias with
      | error e =>
          left
          simp only [Except.bind, Bind.bind, hjoined]
          exact ⟨e, rfl, rfl⟩
      | ok joined =>
          right
          simp only [Except.bind, Bind.bind, hjoined]
          exact ⟨_, rfl, rfl, rfl, rfl⟩

/-- What a chain leads to under the two policies.  Either fails to join a table and so does the
other, or both are void, or neither is.  If no step is refused all statements are the same.  If
one is, there is none under the strict policy: what is told is the first refusal.  So where there
is a statement, no step has been left out of it. -/
theorem alike_unless_refused (c : JoinChain) (o : Bool) :
  let refused := c.firstRefusal? ⟨.strict, o⟩
  refused = c.firstRefusal? ⟨.failClosed, o⟩ ∧
  Agreement
    (fun k k' => k.void = k'.void ∧ (k.isVoid = false →
      (refused = none → ∀ destination, k.select destination = k'.select destination ∧
        k.statement destination = k'.statement destination) ∧
      (∀ table reason, refused = some (table, reason) → ∀ destination,
        k.select destination = .error (.translation table reason) ∧
          k.statement destination = .error (.translation table reason)) ∧
      ∀ destination f, k.select destination = .ok f ∨ k.statement destination = .ok (some f) →
        refused = none))
    (c.join ⟨.strict, o⟩) (c.join ⟨.failClosed, o⟩)
  := by
  obtain ⟨e, hstrict, hclosed⟩ | ⟨j, hstrict, hclosed, hpolicy, hfailure⟩ := c.start_lenient o
  · unfold firstRefusal? join
    rw [hstrict, hclosed]
    exact ⟨rfl, .error e⟩
  · unfold firstRefusal? join
    rw [hstrict, hclosed]
    dsimp only [Bind.bind, Except.bind]
    have hparallel := Join.parallel_lenient j
    use hparallel.firstRefusal?_eq c.steps
    obtain ⟨htables, herror⟩ := hparallel.follow c.steps
    cases hk : j.follow c.steps with
    | mk k result =>
        cases hk' : j.lenient.follow c.steps with
        | mk k' result' =>
            rw [hk, hk'] at htables herror
            dsimp only at htables herror
            subst herror
            cases result with
            | some e => apply Agreement.error
            | none =>
                apply Agreement.ok
                use htables.void
                intro hvoid
                have htold : ∀ told, j.firstRefusal? c.steps = some told → ∀ destination, _ :=
                  fun _ hrefused => Join.error_of_firstRefusal? hrefused hpolicy hfailure hk hvoid
                refine ⟨fun hnone => Join.statement_of_accepted hnone hk hk',
                  fun table reason => htold (table, reason), ?_⟩
                intro destination f hf
                rw [Option.eq_none_iff_forall_ne_some]
                intro told hrefused
                obtain ⟨hselect, hstatement⟩ := htold told hrefused destination
                rw [hselect, hstatement] at hf
                obtain hf | hf := hf
                · cases hf
                · cases hf

/-- Persons joined with their mentors by the steps that are given. -/
def ofMentors (steps : List JoinStep) : JoinChain :=
  ⟨Join.mentors.registry, Join.mentored, Join.mentored, "p", "m", .inner, steps⟩

/-- Between an equality and a filter with SQL there is an equality of an unknown column and a
filter on one: without them the statements are the same, and with them the equality is told. -/
theorem alike_mentors :
  let accepted := ofMentors [.on "MentorId" "Id", .whereSecond (.against "Id" .gt (.int 3))]
  let refused := ofMentors [.on "MentorId" "Id", .or "Nickname" "Id", .whereFirst (.member "Gone"),
    .whereSecond (.against "Id" .gt (.int 3))]
  (∃ k k' f, accepted.join ⟨.strict, false⟩ = .ok k ∧ accepted.join ⟨.failClosed, false⟩ = .ok k' ∧
    k.statement Join.mentored.record = .ok (some f) ∧
    k'.statement Join.mentored.record = .ok (some f)) ∧
  ∃ k, refused.join ⟨.strict, false⟩ = .ok k ∧ ∀ destination,
    k.statement destination =
      .error (.translation "Person" "cannot join Person.Nickname to Person.Id")
  := by
  intro accepted refused
  constructor
  · obtain ⟨-, hagree⟩ := alike_unless_refused accepted false
    have hnone : accepted.firstRefusal? ⟨.strict, false⟩ = none := by decide +kernel
    have hstatement : ∃ k f, accepted.join ⟨.strict, false⟩ = .ok k ∧ k.isVoid = false ∧
        k.statement Join.mentored.record = .ok (some f) := ⟨_, _, rfl, rfl, rfl⟩
    obtain ⟨k, f, hk, hvoid, hf⟩ := hstatement
    rw [hk] at hagree
    generalize accepted.join ⟨.failClosed, false⟩ = closed at hagree
    cases hagree with
    | ok h =>
        refine ⟨k, _, f, hk, rfl, hf, ?_⟩
        rw [← ((h.2 hvoid).1 hnone Join.mentored.record).2, hf]
  · obtain ⟨-, hagree⟩ := alike_unless_refused refused false
    have hsome : refused.firstRefusal? ⟨.strict, false⟩ =
        some ("Person", "cannot join Person.Nickname to Person.Id") := by decide +kernel
    have hjoin : ∃ k, refused.join ⟨.strict, false⟩ = .ok k ∧ k.isVoid = false := ⟨_, rfl, rfl⟩
    obtain ⟨k, hk, hvoid⟩ := hjoin
    rw [hk] at hagree
    generalize refused.join ⟨.failClosed, false⟩ = closed at hagree
    cases hagree with
    | ok h => exact ⟨k, hk, fun destination => ((h.2 hvoid).2.1 _ _ hsome destination).2⟩

end JoinChain

end EntityStore
