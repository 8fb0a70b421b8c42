import EntityStore.Proofs.Translation.Emission

/-!
# When a translation fails

Whether a step of a translation fails, and why, depends on what is translated and not on
the trail: from two trails both runs fail for the same reason, or both succeed and their
results differ in the numbers of parameters at most.
-/

namespace EntityStore

open Sql

/-- Both fail for the same reason or both succeed with related results. -/
inductive Agreement {ε α : Type} (r : α → α → Prop) : Except ε α → Except ε α → Prop
  | ok {a a' : α} (h : r a a') : Agreement r (.ok a) (.ok a')
  | error (e : ε) : Agreement r (.error e) (.error e)

namespace Translate

variable {α β : Type} {r : α → α → Prop} {r' : β → β → Prop} {scope : Scope}

/-- The outcomes of two steps agree from any trails. -/
def Alike (r : α → α → Prop) (m m' : Translate α) : Prop :=
  ∀ t t', Agreement r (m t).1 (m' t').1

/-- The outcome of a step does not depend on the trail. -/
abbrev Steady (m : Translate α) : Prop :=
  Alike Eq m m

/-- Whether a step fails, and why, does not depend on the trail. -/
abbrev Decided (m : Translate α) : Prop :=
  Alike (fun _ _ => True) m m

/-- Steps without effect. -/
theorem alike_pure {a a' : α} (h : r a a') :
  Alike r (pure a : Translate α) (pure a')
  := by
  intro t t'
  apply Agreement.ok h

/-- Steps that fail for the same reason. -/
theorem alike_fail (u : Untranslatable) :
  Alike r (fail u : Translate α) (fail u)
  := by
  intro t t'
  apply Agreement.error

/-- Steps are alike that begin alike and go on alike from related results. -/
theorem alike_bind {m m' : Translate α} {f f' : α → Translate β} (hm : Alike r m m')
    (hf : ∀ a a', r a a' → Alike r' (f a) (f' a')) :
  Alike r' (m >>= f) (m' >>= f')
  := by
  intro t t'
  rw [bind_apply, bind_apply]
  have h := hm t t'
  cases hrun : m t with
  | mk result t₁ =>
      cases hrun' : m' t' with
      | mk result' t₁' =>
          rw [hrun, hrun'] at h
          cases h with
          | ok hr => apply hf _ _ hr
          | error u => apply Agreement.error

/-- A steady step may come before steps that are alike. -/
theorem alike_bind_steady {m : Translate α} {f f' : α → Translate β} (hm : Steady m)
    (hf : ∀ a, Alike r' (f a) (f' a)) :
  Alike r' (m >>= f) (m >>= f')
  := by
  apply alike_bind hm
  rintro a _ rfl
  apply hf a

/-- A step whose outcome does not depend on the trail is decided. -/
theorem Steady.decided {m : Translate α} (hm : Steady m) :
  Decided m
  := by
  intro t t'
  have h := hm t t'
  generalize (m t).1 = result at h ⊢
  generalize (m t').1 = result' at h ⊢
  cases h with
  | ok _ => apply Agreement.ok trivial
  | error u => apply Agreement.error

/-- The name of a parameter depends on the trail, but issuing it cannot fail. -/
theorem decided_issue (base : String) (v : Value) :
  Decided (issue base v)
  := by
  intro t t'
  apply Agreement.ok trivial

/-- Working out a value does not depend on the trail. -/
theorem steady_compute (v : Value) :
  Steady (compute v)
  := by
  intro t t'
  apply Agreement.ok rfl

/-! ### Values and names -/

/-- What a name means does not depend on the trail. -/
theorem steady_resolve (name : String) :
  Steady (resolve scope name)
  := by
  unfold resolve
  split
  · apply alike_pure rfl
  · apply alike_fail

/-- What helper has a name does not depend on the trail. -/
theorem steady_helper (name : String) :
  Steady (helper name)
  := by
  unfold helper
  split
  · apply alike_pure rfl
  · apply alike_fail

/-- The value of a call on values does not depend on the trail. -/
theorem steady_evaluate (h : Helper) (name : String) (values : List Value) :
  Steady (evaluate h name values)
  := by
  unfold evaluate
  split
  · apply alike_pure rfl
  · apply alike_fail

mutual

/-- The value of an operand does not depend on the trail. -/
theorem steady_literal :
    ∀ arg : Operand, Steady (literal arg)
  | .value v => by
      rw [literal]
      apply alike_pure rfl
  | .computed v => by
      rw [literal]
      apply steady_compute
  | .column name => by
      rw [literal]
      apply alike_fail
  | .call name args => by
      rw [literal]
      apply alike_bind_steady (steady_helper name)
      intro h
      split
      · apply alike_bind_steady (steady_literals args)
        intro values
        apply steady_evaluate
      · apply alike_fail

/-- The values of operands do not depend on the trail. -/
theorem steady_literals :
    ∀ args : List Operand, Steady (literals args)
  | [] => by
      rw [literals]
      apply alike_pure rfl
  | arg :: args => by
      rw [literals]
      apply alike_bind_steady (steady_literal arg)
      intro v
      apply alike_bind_steady (steady_literals args)
      intro vs
      apply alike_pure rfl

end

/-- The value of a call without columns does not depend on the trail. -/
theorem steady_fold? (name : String) (args : List Operand) :
  Steady (fold? name args)
  := by
  apply alike_bind_steady (steady_helper name)
  intro h
  split
  · apply alike_bind_steady (steady_literals args)
    intro values
    apply alike_bind_steady (steady_evaluate h name values)
    intro v
    apply alike_pure rfl
  · apply alike_pure rfl

/-! ### Expressions -/

/-- Whether a call can stand in the SQL does not depend on the trail. -/
theorem steady_callee (name : String) (given : Nat) :
  Steady (callee scope name given)
  := by
  apply alike_bind_steady (steady_helper name)
  intro h
  split
  · apply alike_fail
  · split
    · apply alike_fail
    · apply alike_pure rfl

/-- An integer argument does not depend on the trail. -/
theorem steady_integerArgument (h : Helper) (arg : Operand) :
  Steady (integerArgument h arg)
  := by
  apply alike_bind_steady (steady_literal arg)
  intro v
  split
  · apply alike_pure rfl
  · apply alike_fail

/-- An argument that is a name does not depend on the trail. -/
theorem steady_nameArgument (h : Helper) (arg : Operand) :
  Steady (nameArgument h arg)
  := by
  apply alike_bind_steady (steady_literal arg)
  intro v
  split
  · split
    · apply alike_pure rfl
    · apply alike_fail
  · apply alike_fail

/-- A call has SQL if its arguments have. -/
theorem decided_call (name : String) (args : List Operand)
    {rest : Helper → Translate (List Expr)} (h : ∀ helper, Decided (rest helper)) :
  Decided
    ((do
      let helper ← callee scope name args.length
      let es ← rest helper
      return .call helper es) : Translate Expr)
  := by
  apply alike_bind_steady (steady_callee name args.length)
  intro helper
  apply alike_bind (h helper)
  intro es es' _
  apply alike_pure trivial

/-- An argument before others. -/
theorem decided_cons {first : Translate Expr} {rest : Translate (List Expr)}
    (hfirst : Decided first) (hrest : Decided rest) :
  Decided
    (do
      let e ← first
      let es ← rest
      return e :: es)
  := by
  apply alike_bind hfirst
  intro e e' _
  apply alike_bind hrest
  intro es es' _
  apply alike_pure trivial

mutual

/-- Whether an expression has SQL does not depend on the trail. -/
theorem decided_expression (base : String) :
    ∀ arg : Operand, Decided (expression scope base arg)
  | .column name => by
      rw [expression]
      apply alike_bind_steady (steady_resolve name)
      rintro ⟨column, type⟩
      apply alike_pure trivial
  | .value v => by
      rw [expression]
      apply decided_issue
  | .computed v => by
      rw [expression]
      apply alike_bind_steady (steady_compute v)
      intro v
      apply decided_issue
  | .call name args => by
      rw [expression]
      have h : Decided (do
          let helper ← callee scope name args.length
          let es ← arguments scope base helper helper.args args
          return Expr.call helper es) :=
        decided_call name args fun helper => decided_arguments base helper helper.args args
      split
      · apply h
      · apply alike_bind_steady (steady_fold? name args)
        rintro (_ | v)
        · apply h
        · apply decided_issue

/-- Whether arguments have SQL does not depend on the trail. -/
theorem decided_arguments (base : String) (h : Helper) :
    ∀ (kinds : List ArgumentKind) (args : List Operand),
      Decided (arguments scope base h kinds args)
  | .expr :: kinds, arg :: args => by
      rw [arguments]
      apply decided_cons (decided_expression base arg) (decided_arguments base h kinds args)
  | .int :: kinds, arg :: args => by
      rw [arguments]
      apply decided_cons (steady_integerArgument h arg).decided
        (decided_arguments base h kinds args)
  | .ident :: kinds, arg :: args => by
      rw [arguments]
      apply decided_cons (steady_nameArgument h arg).decided
        (decided_arguments base h kinds args)
  | [], _ => by
      rw [arguments]
      · apply alike_pure trivial
      · simp
  | _ :: _, [] => by
      rw [arguments]
      · apply alike_pure trivial
      · simp

end

/-- What parameters of a call are named after does not depend on the trail. -/
theorem steady_baseOf (args : List Operand) :
  Steady (baseOf scope args)
  := by
  unfold baseOf
  split
  · apply alike_bind_steady (steady_resolve _)
    rintro ⟨column, type⟩
    apply alike_pure rfl
  · apply alike_pure rfl

/-- Whether a call can stand in the SQL does not depend on the trail. -/
theorem decided_callParts (name : String) (args : List Operand) :
  Decided (callParts scope name args)
  := by
  apply alike_bind_steady (steady_baseOf args)
  intro base
  apply alike_bind_steady (steady_callee name args.length)
  intro h
  apply alike_bind (decided_arguments base h h.args args)
  intro es es' _
  apply alike_pure trivial

/-! ### Conditions -/

/-- Sides of comparisons are alike if both are expressions or both are the same value. -/
inductive Side.Like : Side → Side → Prop
  | expr (e e' : Expr) (base base' : String) : Side.Like (.expr e base) (.expr e' base')
  | value (v : Value) : Side.Like (.value v) (.value v)

/-- A call as a side of a comparison. -/
theorem alike_sideCall (name : String) (args : List Operand) :
  let m : Translate Side := do
    let (base, h, args) ← callParts scope name args
    return .expr (.call h args) base
  Alike Side.Like m m
  := by
  apply alike_bind (decided_callParts name args)
  rintro ⟨base, h, es⟩ ⟨base', h', es'⟩ _
  apply alike_pure (.expr ..)

/-- Whether a side of a comparison is a value, and which, does not depend on the trail. -/
theorem alike_side (arg : Operand) :
  Alike Side.Like (side scope arg) (side scope arg)
  := by
  cases arg with
  | column name =>
      rw [side]
      apply alike_bind_steady (steady_resolve name)
      rintro ⟨column, type⟩
      apply alike_pure (.expr ..)
  | value v =>
      rw [side]
      apply alike_pure (.value v)
  | computed v =>
      rw [side]
      apply alike_bind_steady (steady_compute v)
      intro v
      apply alike_pure (.value v)
  | call name args =>
      rw [side]
      split
      · apply alike_sideCall
      · apply alike_bind_steady (steady_fold? name args)
        rintro (_ | v)
        · apply alike_sideCall
        · apply alike_pure (.value v)

/-- A comparison with a value cannot fail. -/
theorem alike_against (e e' : Expr) (base base' : String) (op : CompareOp) (v : Value) :
  Alike (fun _ _ => True) (against e base op v) (against e' base' op v)
  := by
  intro t t'
  apply Agreement.ok trivial

/-- Whether a comparison has SQL does not depend on the trail. -/
theorem decided_comparison (left : Operand) (op : CompareOp) (right : Operand) :
  Decided (comparison scope left op right)
  := by
  apply alike_bind (alike_side left)
  intro l l' hl
  apply alike_bind (alike_side right)
  intro r r' hr
  cases hl with
  | expr e e' base base' =>
      cases hr with
      | expr f f' _ _ => apply alike_pure trivial
      | value v => apply alike_against
  | value v =>
      cases hr with
      | expr e e' base base' => apply alike_against
      | value w =>
          dsimp only
          split
          · apply alike_pure trivial
          · apply alike_fail

/-- Whether a column holds truth values depends neither on the trail nor on the truth
value that is expected. -/
theorem alike_member (column : String) (expected expected' : Bool) :
  Alike (fun _ _ => True) (member scope column expected) (member scope column expected')
  := by
  apply alike_bind_steady (steady_resolve column)
  rintro ⟨declared, type⟩
  dsimp only
  split
  · apply alike_pure trivial
  · apply alike_fail

/-- A call as a condition. -/
theorem decided_standingCall (name : String) (args : List Operand) :
  Decided
    ((do
      let (_, h, args) ← callParts scope name args
      return .call h args) : Translate Condition)
  := by
  apply alike_bind (decided_callParts name args)
  rintro ⟨base, h, es⟩ ⟨base', h', es'⟩ _
  apply alike_pure trivial

/-- Whether a call is a condition that has SQL does not depend on the trail. -/
theorem decided_conditionCall (name : String) (args : List Operand) :
  Decided (conditionCall scope name args)
  := by
  apply alike_bind_steady (steady_helper name)
  intro h
  split
  · split
    · apply decided_standingCall
    · apply alike_bind_steady (steady_fold? name args)
      rintro (_ | v)
      · apply decided_standingCall
      · dsimp only
        split
        · apply alike_pure trivial
        · apply alike_fail
  · apply alike_fail

/-- Whether a predicate has SQL does not depend on the trail. -/
theorem decided_predicate (p : Predicate) :
  Decided (predicate scope p)
  := by
  induction p using predicate.induct with
  | case1 b =>
      rw [predicate]
      apply alike_pure trivial
  | case2 column =>
      rw [predicate]
      apply alike_member
  | case3 l op r =>
      rw [predicate]
      apply decided_comparison
  | case4 name args =>
      rw [predicate]
      apply decided_conditionCall
  | case5 column =>
      rw [predicate]
      apply alike_member
  | case6 b =>
      rw [predicate]
      apply alike_pure trivial
  | case7 p hmember hconstant ih =>
      rw [predicate.eq_7 scope p hmember hconstant]
      apply alike_bind ih
      intro c c' _
      apply alike_pure trivial
  | case8 logic p q ihp ihq =>
      rw [predicate]
      apply alike_bind ihp
      intro c c' _
      apply alike_bind ihq
      intro d d' _
      apply alike_pure trivial

/-- A predicate whose SQL stands behind a negation. -/
theorem alike_bind_not (p : Predicate) :
  Alike (fun _ _ => True)
    (do
      let c ← predicate scope p
      return .not c) (predicate scope p)
  := by
  have hpure : predicate scope p = predicate scope p >>= pure := (bind_pure _).symm
  nth_rewrite 2 [hpure]
  apply alike_bind (decided_predicate p)
  intro c c' _
  apply alike_pure trivial

/-- Whether a negation has SQL is whether the predicate has. -/
theorem alike_not (p : Predicate) :
  Alike (fun _ _ => True) (predicate scope p.not) (predicate scope p)
  := by
  cases p with
  | constant b =>
      rw [predicate, predicate]
      apply alike_pure trivial
  | member column =>
      rw [predicate, predicate]
      apply alike_member
  | compare l op r =>
      rw [predicate]
      apply alike_bind_not
  | call name args =>
      rw [predicate]
      apply alike_bind_not
  | not p =>
      rw [predicate]
      · apply alike_bind_not
      · simp
      · simp
  | combine logic p q =>
      rw [predicate]
      · apply alike_bind_not
      · simp
      · simp

end Translate

end EntityStore
