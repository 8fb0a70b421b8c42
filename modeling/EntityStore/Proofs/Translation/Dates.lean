import EntityStore.Proofs.Translation.Computed
import EntityStore.Proofs.Translation.Secrecy
import Mathlib.Data.List.Basic

/-!
# Date helpers and timestamps that cannot be read

The functions that stand in the SQL for date helpers read timestamps in the international
form only.  Where timestamps are stored in another form, a predicate has no SQL if a date
helper is called on arguments with a column, wherever the call stands.  Any other predicate is
translated as it would be where timestamps can be read.
-/

namespace EntityStore

open Text Sql

/-! ### Calls on something stored -/

/-- Whether a date helper is called on arguments that mention a column, at any depth of an
operand. -/
inductive Operand.ReadsDates : Operand → Prop
  | call {name : String} {helper : Helper} {args : List Operand}
      (hhelper : Helper.ofName? name = some helper) (hreads : helper.readsTimestamps = true)
      (hcolumn : Operand.mentionColumn args = true) : ReadsDates (.call name args)
  | argument {name : String} {arg : Operand} {args : List Operand} (harg : arg ∈ args)
      (h : ReadsDates arg) : ReadsDates (.call name args)

/-- Whether a date helper is called on arguments that mention a column, anywhere in a
predicate. -/
inductive Predicate.ReadsDates : Predicate → Prop
  | left {l r : Operand} {op : CompareOp} (h : l.ReadsDates) : ReadsDates (.compare l op r)
  | right {l r : Operand} {op : CompareOp} (h : r.ReadsDates) : ReadsDates (.compare l op r)
  | call {name : String} {args : List Operand} (h : (Operand.call name args).ReadsDates) :
      ReadsDates (.call name args)
  | not {p : Predicate} (h : ReadsDates p) : ReadsDates p.not
  | first {logic : Logic} {p q : Predicate} (h : ReadsDates p) : ReadsDates (.combine logic p q)
  | second {logic : Logic} {p q : Predicate} (h : ReadsDates q) :
      ReadsDates (.combine logic p q)

namespace Operand

variable {name : String} {arg : Operand} {args : List Operand}

/-- Arguments mention a column if one of them does. -/
theorem mentionColumn_of_mem (harg : arg ∈ args) (h : arg.firstColumn?.isSome = true) :
  mentionColumn args = true
  := by
  induction args with
  | nil => cases harg
  | cons first args ih =>
      rw [mentionColumn, firstColumnOf?, Option.isSome_or, Bool.or_eq_true]
      obtain rfl | harg := List.mem_cons.mp harg
      · left
        apply h
      · right
        apply ih harg

/-- An operand in which a date helper is called on a column mentions one. -/
theorem ReadsDates.mentions (h : arg.ReadsDates) :
  arg.firstColumn?.isSome = true
  := by
  induction h with
  | call _ _ hcolumn => rw [firstColumn?]; apply hcolumn
  | argument harg _ ih => rw [firstColumn?]; apply mentionColumn_of_mem harg ih

end Operand

/-- The scope in which timestamps can be read. -/
def Scope.legible (scope : Scope) : Scope :=
  { scope with opaqueTimestamps := false }

namespace Translate

variable {α : Type} {allowed : String → Prop} {scope : Scope} {name : String}
  {args : List Operand}

/-! ### What cannot be read is refused -/

/-- Steps fail if those behind every result of the first do. -/
theorem refused_bind_silent {β : Type} {m : Translate α} {f : α → Translate β} {post : α → Prop}
    (hm : Silent (fun _ => True) m post) (hf : ∀ a, post a → Refused (f a)) :
  Refused (m >>= f)
  := by
  intro t
  rw [bind_apply]
  cases hrun : m t with
  | mk result t' =>
      cases result with
      | error u => use u, t'
      | ok a =>
          obtain ⟨added, -, -, -, -, hpost⟩ := hm t a t' hrun
          apply hf a hpost t'

/-- A call on a column is not folded, so it is refused if it is where it stands in the
SQL. -/
theorem refused_unlessFolded (hcolumn : Operand.mentionColumn args = true)
    {standing : Translate α} (h : Refused standing) (folded : Value → Translate α) :
  Refused
    (do
      let v? ← if Operand.mentionColumn args then pure none else fold? name args
      match v? with
      | some v => folded v
      | none => standing)
  := by
  rw [hcolumn]
  apply h

/-- Where timestamps cannot be read, the helper of a call that stands in the SQL reads
none. -/
theorem silent_callee_unreadable (hunreadable : scope.opaqueTimestamps = true) (given : Nat) :
  Silent allowed (callee scope name given) fun h =>
    Helper.ofName? name = some h ∧ h.readsTimestamps = false ∧ given = h.args.length
  := by
  apply issues_bind_silent (silent_helper name)
  intro h hh
  rw [hunreadable, Bool.and_true]
  split
  · apply issues_fail
  · rename_i hgiven
    split
    · apply issues_fail
    · rename_i hreads
      apply issues_pure ⟨rfl, hh, by simpa using hreads, not_not.mp hgiven⟩

/-- A call that reads dates is refused with what stands behind its helper, if its arguments
are refused where one of them reads dates. -/
theorem refused_standing {rest : Helper → Translate α} (hunreadable : scope.opaqueTimestamps = true)
    (h : (Operand.call name args).ReadsDates)
    (hrest : ∀ helper : Helper, helper.args.length = args.length →
      (∃ arg ∈ args, arg.ReadsDates) → Refused (rest helper)) :
  Refused (callee scope name args.length >>= rest)
  := by
  apply refused_bind_silent (silent_callee_unreadable hunreadable args.length)
  rintro helper ⟨hhelper, hreads, hlength⟩
  cases h with
  | call hhelper' hreads' _ =>
      rw [hhelper] at hhelper'
      cases hhelper'
      rw [hreads] at hreads'
      cases hreads'
  | argument harg h => apply hrest helper hlength.symm ⟨_, harg, h⟩

/-- Arguments are refused if the first or the others are. -/
theorem refused_cons {first : Translate Expr} {rest : Translate (List Expr)}
    (h : Refused first ∨ Refused rest) :
  Refused
    (do
      let e ← first
      let es ← rest
      return e :: es)
  := by
  obtain hfirst | hrest := h
  · apply hfirst.bind
  · apply refused_bind
    intro e
    apply hrest.bind

mutual

/-- An operand that reads dates is refused. -/
theorem refused_expression (hunreadable : scope.opaqueTimestamps = true) (base : String) :
    ∀ arg : Operand, arg.ReadsDates → Refused (expression scope base arg)
  | .column _, h => by cases h
  | .value _, h => by cases h
  | .computed _, h => by cases h
  | .call name args, h => by
      rw [expression]
      apply refused_unlessFolded h.mentions
      apply refused_standing hunreadable h
      intro helper hlength harg
      apply Refused.bind
      apply refused_arguments hunreadable base helper helper.args args hlength harg

/-- Arguments of which one reads dates are refused. -/
theorem refused_arguments (hunreadable : scope.opaqueTimestamps = true) (base : String)
    (helper : Helper) :
    ∀ (kinds : List ArgumentKind) (args : List Operand), kinds.length = args.length →
      (∃ arg ∈ args, arg.ReadsDates) → Refused (arguments scope base helper kinds args)
  | [], [], _, h => by simp at h
  | .expr :: kinds, arg :: args, hlength, h => by
      rw [arguments]
      apply refused_cons
      apply ((List.exists_mem_cons_iff _ _ _).mp h).imp
      · apply refused_expression hunreadable base arg
      · apply refused_arguments hunreadable base helper kinds args (by simpa using hlength)
  | .int :: kinds, arg :: args, hlength, h => by
      rw [arguments]
      apply refused_cons
      apply ((List.exists_mem_cons_iff _ _ _).mp h).imp
      · intro harg
        apply (refused_literal arg harg.mentions).bind
      · apply refused_arguments hunreadable base helper kinds args (by simpa using hlength)
  | .ident :: kinds, arg :: args, hlength, h => by
      rw [arguments]
      apply refused_cons
      apply ((List.exists_mem_cons_iff _ _ _).mp h).imp
      · intro harg
        apply (refused_literal arg harg.mentions).bind
      · apply refused_arguments hunreadable base helper kinds args (by simpa using hlength)

end

/-- The parts of a call that reads dates are refused. -/
theorem refused_callParts (hunreadable : scope.opaqueTimestamps = true)
    (h : (Operand.call name args).ReadsDates) :
  Refused (callParts scope name args)
  := by
  apply refused_bind
  intro base
  apply refused_standing hunreadable h
  intro helper hlength harg
  apply Refused.bind
  apply refused_arguments hunreadable base helper helper.args args hlength harg

/-- A side of a comparison that reads dates is refused. -/
theorem refused_side (hunreadable : scope.opaqueTimestamps = true) {arg : Operand}
    (h : arg.ReadsDates) :
  Refused (side scope arg)
  := by
  cases arg with
  | call name args =>
      rw [side]
      apply refused_unlessFolded h.mentions
      apply (refused_callParts hunreadable h).bind
  | _ => cases h

/-- A call that is a condition and reads dates is refused. -/
theorem refused_conditionCall (hunreadable : scope.opaqueTimestamps = true)
    (h : (Operand.call name args).ReadsDates) :
  Refused (conditionCall scope name args)
  := by
  unfold conditionCall
  apply refused_bind
  intro helper
  split
  · apply refused_unlessFolded h.mentions
    apply (refused_callParts hunreadable h).bind
  · apply refused_fail

/-- A predicate that reads dates is refused. -/
theorem refused_predicate (hunreadable : scope.opaqueTimestamps = true) {p : Predicate}
    (h : p.ReadsDates) :
  Refused (predicate scope p)
  := by
  induction h with
  | left h =>
      rw [predicate]
      apply (refused_side hunreadable h).bind
  | right h =>
      rw [predicate]
      apply refused_bind
      intro l
      apply (refused_side hunreadable h).bind
  | call h =>
      rw [predicate]
      apply refused_conditionCall hunreadable h
  | @not p h ih =>
      cases p with
      | constant b => cases h
      | member column => cases h
      | _ =>
          rw [predicate.eq_7 scope _ (by simp) (by simp)]
          apply ih.bind
  | first _ ih =>
      rw [predicate]
      apply ih.bind
  | second _ ih =>
      rw [predicate]
      apply refused_bind
      intro c
      apply ih.bind

/-! ### What is left does not depend on the stored form -/

/-- A helper that reads timestamps can be evaluated. -/
theorem readsTimestamps_of_not_canEvaluate {h : Helper} (hcan : ¬ h.canEvaluate = true) :
  h.readsTimestamps = false
  := by cases h <;> first | rfl | cases hcan rfl

/-- The helper of a call that reads no timestamps stands in the SQL wherever it may. -/
theorem callee_legible (hreads : ∀ h ∈ Helper.ofName? name, h.readsTimestamps = false)
    (given : Nat) :
  callee scope name given = callee scope.legible name given
  := by
  unfold callee helper
  cases hh : Helper.ofName? name with
  | none => rfl
  | some h =>
      have := hreads h hh
      simp only [pure_bind, this, Bool.false_and]

/-- A call that reads no dates is the same if it is where it stands in the SQL, which it
does if its helper reads no timestamps. -/
theorem unlessFolded_congr (h : ¬ (Operand.call name args).ReadsDates)
    {standing standing' : Translate α}
    (hstanding : (∀ helper ∈ Helper.ofName? name, helper.readsTimestamps = false) →
      standing = standing')
    (folded : Value → Translate α) :
  (do
    let v? ← if Operand.mentionColumn args then pure none else fold? name args
    match v? with
    | some v => folded v
    | none => standing) =
  (do
    let v? ← if Operand.mentionColumn args then pure none else fold? name args
    match v? with
    | some v => folded v
    | none => standing')
  := by
  split
  · rename_i hcolumn
    rw [hstanding]
    intro helper hhelper
    by_contra hreads
    apply h
    apply Operand.ReadsDates.call hhelper _ hcolumn
    simpa using hreads
  · -- without a column the call stands in the SQL only if its helper cannot be evaluated
    rw [fold?_bind, fold?_bind]
    unfold helper
    cases hhelper : Helper.ofName? name with
    | none => rfl
    | some helper =>
        simp only [pure_bind]
        split
        · rfl
        · rename_i hcan
          apply hstanding
          intro helper' hhelper'
          obtain rfl := Option.some.inj (hhelper.symm.trans hhelper')
          apply readsTimestamps_of_not_canEvaluate hcan

mutual

/-- An operand that reads no dates is translated as it is where timestamps can be read. -/
theorem expression_legible (base : String) :
    ∀ arg : Operand, ¬ arg.ReadsDates →
      expression scope base arg = expression scope.legible base arg
  | .column name, _ => by
      rw [expression, expression]
      rfl
  | .value v, _ => by rw [expression, expression]
  | .computed v, _ => by rw [expression, expression]
  | .call name args, h => by
      rw [expression, expression]
      apply unlessFolded_congr h
      intro hreads
      rw [callee_legible hreads]
      apply bind_congr
      intro helper
      rw [arguments_legible base helper helper.args args fun arg harg h' => h (.argument harg h')]

/-- Arguments that read no dates are translated as they are where timestamps can be read. -/
theorem arguments_legible (base : String) (helper : Helper) :
    ∀ (kinds : List ArgumentKind) (args : List Operand), (∀ arg ∈ args, ¬ arg.ReadsDates) →
      arguments scope base helper kinds args = arguments scope.legible base helper kinds args
  | [], args, _ => by cases args <;> simp [arguments]
  | kind :: kinds, [], _ => by simp [arguments]
  | kind :: kinds, arg :: args, h => by
      obtain ⟨harg, hargs⟩ := List.forall_mem_cons.mp h
      have hrest := arguments_legible base helper kinds args hargs
      cases kind with
      | expr => rw [arguments, arguments, expression_legible base arg harg, hrest]
      | int => rw [arguments, arguments, hrest]
      | ident => rw [arguments, arguments, hrest]

end

/-- The parts of a call that reads no dates and stands in the SQL. -/
theorem callParts_legible (h : ¬ (Operand.call name args).ReadsDates)
    (hreads : ∀ helper ∈ Helper.ofName? name, helper.readsTimestamps = false) :
  callParts scope name args = callParts scope.legible name args
  := by
  unfold callParts
  rw [callee_legible hreads]
  apply bind_congr
  intro base
  apply bind_congr
  intro helper
  rw [arguments_legible base helper helper.args args fun arg harg h' => h (.argument harg h')]

/-- A side of a comparison that reads no dates. -/
theorem side_legible {arg : Operand} (h : ¬ arg.ReadsDates) :
  side scope arg = side scope.legible arg
  := by
  cases arg with
  | call name args =>
      rw [side, side]
      apply unlessFolded_congr h
      intro hreads
      rw [callParts_legible h hreads]
  | column name =>
      rw [side, side]
      rfl
  | _ => rw [side, side]

/-- A call that is a condition and reads no dates. -/
theorem conditionCall_legible (h : ¬ (Operand.call name args).ReadsDates) :
  conditionCall scope name args = conditionCall scope.legible name args
  := by
  unfold conditionCall
  apply bind_congr
  intro helper
  split
  · apply unlessFolded_congr h
    intro hreads
    rw [callParts_legible h hreads]
  · rfl

/-- A predicate that reads no dates is translated as it is where timestamps can be read. -/
theorem predicate_legible {p : Predicate} (h : ¬ p.ReadsDates) :
  predicate scope p = predicate scope.legible p
  := by
  induction p using predicate.induct with
  | case1 b => rw [predicate, predicate]
  | case2 column =>
      rw [predicate, predicate]
      rfl
  | case3 l op r =>
      rw [predicate, predicate]
      unfold comparison
      rw [side_legible fun hl => h (.left hl), side_legible fun hr => h (.right hr)]
  | case4 name args =>
      rw [predicate, predicate]
      apply conditionCall_legible fun hcall => h (.call hcall)
  | case5 column =>
      rw [predicate, predicate]
      rfl
  | case6 b => rw [predicate, predicate]
  | case7 p hmember hconstant ih =>
      rw [predicate.eq_7 scope p hmember hconstant,
        predicate.eq_7 scope.legible p hmember hconstant, ih fun hp => h (.not hp)]
  | case8 logic p q ihp ihq =>
      rw [predicate, predicate, ihp fun hp => h (.first hp), ihq fun hq => h (.second hq)]

end Translate

end EntityStore
