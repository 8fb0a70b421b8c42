import EntityStore.Predicate.Translation
import Mathlib.Tactic.Common

/-!
# What a translation adds to its trail

A step of a translation that succeeds adds parameters to the trail and changes none that
are there.  They are numbered on from the counter, each behind a base that is allowed.
`Issues allowed m post` says so of the step `m`, and says by `post` how the result goes
with the parameters added; it has one rule for each way to build a step.
-/

namespace EntityStore

/-- Parameters numbered from a number on, each behind a base that is allowed. -/
inductive Numbered (allowed : String → Prop) : Nat → List Param → Prop
  | nil {n : Nat} : Numbered allowed n []
  | cons {n : Nat} {base : String} {v : Value} {params : List Param} (hbase : allowed base)
      (rest : Numbered allowed (n + 1) params) :
      Numbered allowed n (⟨base ++ decimalText n, v⟩ :: params)

namespace Numbered

variable {allowed allowed' : String → Prop} {n : Nat} {params params' : List Param}

/-- More bases may be allowed. -/
theorem mono (h : ∀ base, allowed base → allowed' base) (hparams : Numbered allowed n params) :
  Numbered allowed' n params
  := by
  induction hparams with
  | nil => apply nil
  | cons hbase _ ih => apply cons (h _ hbase) ih

/-- Numbering goes on where it stopped. -/
theorem append (hparams : Numbered allowed n params)
    (hparams' : Numbered allowed (n + params.length) params') :
  Numbered allowed n (params ++ params')
  := by
  induction hparams with
  | nil => apply hparams'
  | cons hbase _ ih =>
      apply cons hbase
      apply ih
      rw [List.length_cons] at hparams'
      rw [Nat.add_right_comm]
      apply hparams'

/-- The parameter at a place has the number of the place. -/
theorem name_getElem (hparams : Numbered allowed n params) (i : Nat) (hi : i < params.length) :
  ∃ base, allowed base ∧ params[i].name = base ++ decimalText (n + i : Nat)
  := by
  induction hparams generalizing i with
  | nil => simp at hi
  | @cons n base _ _ hbase _ ih =>
      cases i with
      | zero => use base, hbase; rfl
      | succ i =>
          obtain ⟨base', hbase', hname⟩ := ih i (by simpa using hi)
          use base', hbase'
          rw [List.getElem_cons_succ, hname, Nat.add_right_comm, Nat.add_assoc]

end Numbered

namespace Translate

variable {α β : Type} {allowed : String → Prop}

/-- A step goes on with the result of the one before, unless that fails. -/
theorem bind_apply (m : Translate α) (f : α → Translate β) (t : Trail) :
  (m >>= f) t = match m t with
    | (.ok a, t') => f a t'
    | (.error u, t') => (.error u, t')
  := by
  show (match m t with | (r, t') => ExceptT.bindCont f r t') = _
  obtain ⟨_ | _, _⟩ := m t <;> rfl

/-- If two steps succeed, the first does and the second does with its result. -/
theorem exists_of_bind_eq_ok {m : Translate α} {f : α → Translate β} {t t' : Trail} {b : β}
    (h : (m >>= f) t = (.ok b, t')) :
  ∃ a t₁, m t = (.ok a, t₁) ∧ f a t₁ = (.ok b, t')
  := by
  rw [bind_apply] at h
  cases hfirst : m t with
  | mk result t₁ =>
      rw [hfirst] at h
      cases result with
      | error u => cases h
      | ok a => use a, t₁, rfl, h

/-- If a step succeeds, the parameters it adds are numbered from the counter on, which
moves past them, and go with the result as `post` says. -/
def Issues (allowed : String → Prop) (m : Translate α) (post : α → List Param → Prop) : Prop :=
  ∀ t a t', m t = (.ok a, t') → ∃ added, t'.params = t.params ++ added ∧
    t'.counter = t.counter + added.length ∧ Numbered allowed t.counter added ∧ post a added

/-- A step that adds no parameters and whose result is as said. -/
abbrev Silent (allowed : String → Prop) (m : Translate α) (post : α → Prop) : Prop :=
  Issues allowed m fun a added => added = [] ∧ post a

/-- Less may be said of the result. -/
theorem Issues.mono {m : Translate α} {post post' : α → List Param → Prop}
    (h : ∀ a added, post a added → post' a added) (hm : Issues allowed m post) :
  Issues allowed m post'
  := by
  intro t a t' hrun
  obtain ⟨added, hparams, hcounter, hnumbered, hpost⟩ := hm t a t' hrun
  use added, hparams, hcounter, hnumbered
  apply h _ _ hpost

/-- What is said of the result alone is true of it. -/
theorem Issues.result (allowed : String → Prop) {m : Translate α} {about : α → Prop}
    {more : α → List Param → Prop}
    (hm : Issues allowed m fun a added => about a ∧ more a added) {t t' : Trail} {a : α}
    (h : m t = (.ok a, t')) :
  about a
  := by
  obtain ⟨added, -, -, -, habout, -⟩ := hm t a t' h
  apply habout

/-- A step without effect. -/
theorem issues_pure {post : α → List Param → Prop} {a : α} (h : post a []) :
  Issues allowed (pure a : Translate α) post
  := by
  intro t a' t' hrun
  cases hrun
  use [], by simp, by simp, .nil, h

/-- A failed step has no result. -/
theorem issues_fail {post : α → List Param → Prop} {u : Untranslatable} :
  Issues allowed (fail u : Translate α) post
  := by
  intro t a t' hrun
  cases hrun

/-- Two steps add what the first adds and then what the second adds. -/
theorem issues_bind {m : Translate α} {f : α → Translate β} {post : α → List Param → Prop}
    {post' : β → List Param → Prop} (hm : Issues allowed m post)
    (hf : ∀ a before, post a before →
      Issues allowed (f a) fun b added => post' b (before ++ added)) :
  Issues allowed (m >>= f) post'
  := by
  intro t b t' hrun
  obtain ⟨a, t₁, hfirst, hsecond⟩ := exists_of_bind_eq_ok hrun
  obtain ⟨before, hparams, hcounter, hnumbered, hpost⟩ := hm t a t₁ hfirst
  obtain ⟨added, hparams', hcounter', hnumbered', hpost'⟩ := hf a before hpost t₁ b t' hsecond
  use before ++ added
  constructor
  · rw [hparams', hparams, List.append_assoc]
  · constructor
    · rw [hcounter', hcounter, List.length_append, Nat.add_assoc]
    · constructor
      · apply hnumbered.append
        rw [← hcounter]
        apply hnumbered'
      · apply hpost'

/-- A silent step does not show in what the steps after it add. -/
theorem issues_bind_silent {m : Translate α} {f : α → Translate β} {post : α → Prop}
    {post' : β → List Param → Prop} (hm : Silent allowed m post)
    (hf : ∀ a, post a → Issues allowed (f a) post') :
  Issues allowed (m >>= f) post'
  := by
  apply issues_bind hm
  rintro a _ ⟨rfl, hpost⟩
  apply hf a hpost

/-- The next parameter is named after its base and the counter. -/
theorem issues_issue {base : String} (hbase : allowed base) (v : Value) :
  Issues allowed (issue base v) fun e added => ∃ n : Nat,
    e = .param (base ++ decimalText n) ∧ added = [⟨base ++ decimalText n, v⟩]
  := by
  intro t e t' hrun
  cases hrun
  use [⟨base ++ decimalText t.counter, v⟩], rfl, rfl, .cons hbase .nil, t.counter, rfl

/-- Working out a value adds no parameter. -/
theorem silent_compute (v : Value) :
  Silent allowed (compute v) (· = v)
  := by
  intro t w t' hrun
  cases hrun
  use [], by simp, by simp, .nil, rfl

end Translate

end EntityStore
