import EntityStore.Proofs.Translation.Failure

/-!
# Translation under the two policies

The policies differ in what becomes of a predicate without SQL and in nothing else.
Whether a predicate has SQL does not depend on the counter, and it has none if a part of
it has none, under a negation and in a disjunction as well.
-/

namespace EntityStore

open Sql

/-- Outcomes that agree are the same error or none. -/
theorem Agreement.eq_error_iff {ε α : Type} {r : α → α → Prop} {x y : Except ε α} {e : ε}
    (h : Agreement r x y) :
  x = .error e ↔ y = .error e
  := by cases h <;> simp

namespace Predicate

/-- A predicate has no SQL in a scope: its translation fails, whatever the trail. -/
def LacksSql (p : Predicate) (scope : Scope) : Prop :=
  ∃ u, ∀ t, (Translate.predicate scope p t).1 = .error u

variable {p q : Predicate} {scope : Scope}

/-- A translation that fails from one trail fails from every trail. -/
theorem lacksSql_iff_run (t : Trail) :
  p.LacksSql scope ↔ ∃ u, (Translate.predicate scope p t).1 = .error u
  := by
  constructor
  · rintro ⟨u, h⟩
    use u, h t
  · rintro ⟨u, h⟩
    use u
    intro t'
    apply (Translate.decided_predicate p t t').eq_error_iff.mp h

/-- A translation fails for the reason for which it fails from the trail that it starts with. -/
theorem outcome_eq_error_iff_run {u : Untranslatable} (n : Nat) :
  (p.translate scope n).outcome = .error u ↔
    (Translate.predicate scope p { counter := n }).1 = .error u
  := by
  have hrun : (Translate.predicate scope p).run { counter := n } =
      Translate.predicate scope p { counter := n } := rfl
  unfold translate
  rw [hrun]
  cases Translate.predicate scope p { counter := n } with
  | mk result t => cases result <;> simp

/-- A translation fails for the same reason wherever the counter is. -/
theorem outcome_eq_error_iff {u : Untranslatable} (m n : Nat) :
  (p.translate scope m).outcome = .error u ↔ (p.translate scope n).outcome = .error u
  := by
  rw [outcome_eq_error_iff_run, outcome_eq_error_iff_run]
  apply (Translate.decided_predicate p _ _).eq_error_iff

/-- A predicate has no SQL if its translation fails with the counter at some number. -/
theorem lacksSql_iff (n : Nat) :
  p.LacksSql scope ↔ ∃ u, (p.translate scope n).outcome = .error u
  := by
  rw [lacksSql_iff_run { counter := n }]
  apply exists_congr
  intro u
  rw [outcome_eq_error_iff_run]

/-- A predicate with SQL is translated. -/
theorem exists_of_not_lacksSql (h : ¬ p.LacksSql scope) (n : Nat) :
  ∃ c params, (p.translate scope n).outcome = .ok (c, params)
  := by
  rw [lacksSql_iff n] at h
  cases hout : (p.translate scope n).outcome with
  | error u =>
      exfalso
      apply h
      use u
  | ok made => use made.1, made.2

/-- What comes after the second of two predicates cannot fail. -/
theorem combine_fails_iff (logic : Logic) (c : Condition) (t : Trail) :
  (∃ u, ((do
    let d ← Translate.predicate scope q
    return .combine logic c d : Translate Condition) t).1 = .error u) ↔ q.LacksSql scope
  := by
  rw [lacksSql_iff_run t, Translate.bind_apply]
  cases hrun : Translate.predicate scope q t with
  | mk result t' =>
      cases result with
      | error u => rfl
      | ok d =>
          constructor
          · rintro ⟨u, hfails⟩
            cases hfails
          · rintro ⟨u, hfails⟩
            cases hfails

/-- Two predicates together have no SQL exactly if one of them has none. -/
theorem lacksSql_combine (logic : Logic) :
  (combine logic p q).LacksSql scope ↔ p.LacksSql scope ∨ q.LacksSql scope
  := by
  rw [lacksSql_iff_run { counter := 0 }, lacksSql_iff_run (p := p) { counter := 0 },
    Translate.predicate, Translate.bind_apply]
  cases hrun : Translate.predicate scope p { counter := 0 } with
  | mk result t =>
      cases result with
      | error u => simp
      | ok c =>
          rw [or_iff_right]
          · apply combine_fails_iff
          · rintro ⟨u, hfails⟩
            cases hfails

/-- The negation of a predicate has no SQL exactly if the predicate has none. -/
theorem lacksSql_not :
  p.not.LacksSql scope ↔ p.LacksSql scope
  := by
  rw [lacksSql_iff_run { counter := 0 }, lacksSql_iff_run (p := p) { counter := 0 }]
  apply exists_congr
  intro u
  apply (Translate.alike_not p _ _).eq_error_iff

variable {d : Descriptor} {tableAlias : Option String} {o : Bool}

/-- A predicate with SQL comes to one fragment under both policies. -/
theorem exists_compile_of_not_lacksSql (h : ¬ p.LacksSql ⟨d, tableAlias, o⟩) (n : Nat) :
  ∃ f computed, ∀ policy, p.compile ⟨policy, o⟩ d tableAlias n =
    ⟨.ok f, [], n + f.params.length, computed⟩
  := by
  obtain ⟨c, params, hout⟩ := exists_of_not_lacksSql h n
  use ⟨c.text, params⟩, (p.translate ⟨d, tableAlias, o⟩ n).computed
  intro policy
  apply compile_of_ok hout

/-- A predicate without SQL is an error under one policy and reported under the other. -/
theorem exists_compile_of_lacksSql (h : p.LacksSql ⟨d, tableAlias, o⟩) (n : Nat) :
  ∃ reason computed,
    p.compile ⟨.strict, o⟩ d tableAlias n =
      ⟨.error (.translation d.table reason), [], n, computed⟩ ∧
    p.compile ⟨.failClosed, o⟩ d tableAlias n =
      ⟨.ok ⟨alwaysFalse, []⟩,
        [{ operation := "translate", message := reason, context := some d.table }], n, computed⟩
  := by
  obtain ⟨u, hout⟩ := (lacksSql_iff n).mp h
  use u.reason, (p.translate ⟨d, tableAlias, o⟩ n).computed
  constructor
  · apply compile_of_error hout
  · apply compile_of_error hout

/-- A predicate is an error where everything must have SQL. -/
def Fails (p : Predicate) (d : Descriptor) (tableAlias : Option String) (o : Bool) (n : Nat) :
    Prop :=
  ∃ e, (p.compile ⟨.strict, o⟩ d tableAlias n).result = .error e

/-- A predicate is an error if it has no SQL. -/
theorem fails_iff (n : Nat) :
  p.Fails d tableAlias o n ↔ p.LacksSql ⟨d, tableAlias, o⟩
  := by
  by_cases h : p.LacksSql ⟨d, tableAlias, o⟩
  · obtain ⟨reason, computed, hstrict, -⟩ := exists_compile_of_lacksSql h n
    simp [Fails, hstrict, h]
  · obtain ⟨f, computed, hcompile⟩ := exists_compile_of_not_lacksSql h n
    simp [Fails, hcompile, h]

/-- Under the strict policy a predicate comes to a fragment exactly if it comes to the same
one under the other policy without a report, and the counter moves past its parameters.  It
is an error exactly if it comes to the condition that holds for no row and one report, and
the counter stays.  Two predicates together fail exactly if one of them fails, and a negation
exactly if the predicate fails, wherever the counter is. -/
theorem policies_agree (p : Predicate) (d : Descriptor) (tableAlias : Option String) (o : Bool)
    (n : Nat) :
  let strict := p.compile ⟨.strict, o⟩ d tableAlias n
  let closed := p.compile ⟨.failClosed, o⟩ d tableAlias n
  (∀ f, strict.result = .ok f ↔ closed.result = .ok f ∧ closed.events = []) ∧
  (∀ f, strict.result = .ok f →
    strict.counter = n + f.params.length ∧ closed.counter = n + f.params.length) ∧
  ((∃ table reason, strict.result = .error (.translation table reason)) ↔
    closed.result = .ok ⟨alwaysFalse, []⟩ ∧
      ∃ e : Event, e.operation = "translate" ∧ closed.events = [e]) ∧
  (∀ e, strict.result = .error e →
    (∃ table reason, e = .translation table reason) ∧ strict.counter = n ∧ closed.counter = n) ∧
  strict.events = [] ∧
  (∀ logic q m k, (combine logic p q).Fails d tableAlias o n ↔
    p.Fails d tableAlias o m ∨ q.Fails d tableAlias o k) ∧
  (∀ m, p.not.Fails d tableAlias o n ↔ p.Fails d tableAlias o m)
  := by
  intro strict closed
  have hcontagion : (∀ logic q m k, (combine logic p q).Fails d tableAlias o n ↔
      p.Fails d tableAlias o m ∨ q.Fails d tableAlias o k) ∧
      ∀ m, p.not.Fails d tableAlias o n ↔ p.Fails d tableAlias o m := by
    simp only [fails_iff]
    use fun logic q _ _ => lacksSql_combine logic, fun _ => lacksSql_not
  by_cases h : p.LacksSql ⟨d, tableAlias, o⟩
  · obtain ⟨reason, computed, hstrict, hclosed⟩ := exists_compile_of_lacksSql h n
    simp only [strict, closed, hstrict, hclosed]
    refine ⟨by simp, by simp, by simp, by simp, trivial, hcontagion⟩
  · obtain ⟨f, computed, hcompile⟩ := exists_compile_of_not_lacksSql h n
    simp only [strict, closed, hcompile]
    refine ⟨by simp, by simp, by simp, by simp, trivial, hcontagion⟩

end Predicate

end EntityStore
