import EntityStore.Proofs.Translation.Emission

/-!
# Values that are worked out

A translation works out the computed operands of a predicate from left to right, none of them
twice.  When it succeeds it has worked out all of them.  One that it has not worked out has no
influence on it.  `Works m m' values values'` says so of a step `m` for operands that compute
`values`, and of the step `m'` for the same operands computing `values'`.
-/

namespace EntityStore

open Sql

/-! ### Computed operands -/

namespace Operand

mutual

/-- The values that an operand computes, from left to right. -/
def computedValues : Operand → List Value
  | column _ | value _ => []
  | computed v => [v]
  | call _ args => computedValuesOf args

/-- The values that a list of operands computes, from left to right. -/
def computedValuesOf : List Operand → List Value
  | [] => []
  | arg :: args => arg.computedValues ++ computedValuesOf args

end

mutual

/-- Two operands that are the same but for the values that they compute. -/
inductive Recomputed : Operand → Operand → Prop
  | column (name : String) : Recomputed (.column name) (.column name)
  | value (v : Value) : Recomputed (.value v) (.value v)
  | computed (v w : Value) : Recomputed (.computed v) (.computed w)
  | call (name : String) {args args' : List Operand} (h : RecomputedArgs args args') :
      Recomputed (.call name args) (.call name args')

/-- Two lists of operands that are the same but for the values that they compute. -/
inductive RecomputedArgs : List Operand → List Operand → Prop
  | nil : RecomputedArgs [] []
  | cons {arg arg' : Operand} {args args' : List Operand} (h : Recomputed arg arg')
      (rest : RecomputedArgs args args') : RecomputedArgs (arg :: args) (arg' :: args')

end

mutual

theorem Recomputed.refl :
    ∀ arg : Operand, arg.Recomputed arg
  | .column name => .column name
  | .value v => .value v
  | .computed v => .computed v v
  | .call name args => .call name (RecomputedArgs.refl args)

theorem RecomputedArgs.refl :
    ∀ args : List Operand, RecomputedArgs args args
  | [] => .nil
  | arg :: args => .cons (Recomputed.refl arg) (RecomputedArgs.refl args)

end

mutual

/-- As many values are computed in either operand. -/
theorem Recomputed.length_eq :
    ∀ {arg arg' : Operand}, arg.Recomputed arg' →
      arg.computedValues.length = arg'.computedValues.length
  | _, _, .column _ => rfl
  | _, _, .value _ => rfl
  | _, _, .computed _ _ => rfl
  | _, _, .call name h => by
      rw [computedValues, computedValues]
      apply RecomputedArgs.length_computedValuesOf h

/-- As many values are computed in either list. -/
theorem RecomputedArgs.length_computedValuesOf :
    ∀ {args args' : List Operand}, RecomputedArgs args args' →
      (computedValuesOf args).length = (computedValuesOf args').length
  | _, _, .nil => rfl
  | _, _, .cons h rest => by
      rw [computedValuesOf, computedValuesOf, List.length_append, List.length_append, h.length_eq,
        RecomputedArgs.length_computedValuesOf rest]

end

mutual

/-- The first column that is mentioned is the same. -/
theorem Recomputed.firstColumn?_eq :
    ∀ {arg arg' : Operand}, arg.Recomputed arg' → arg.firstColumn? = arg'.firstColumn?
  | _, _, .column _ => rfl
  | _, _, .value _ => rfl
  | _, _, .computed _ _ => rfl
  | _, _, .call name h => by
      rw [firstColumn?, firstColumn?]
      apply RecomputedArgs.firstColumnOf?_eq h

/-- The first column that is mentioned in a list is the same. -/
theorem RecomputedArgs.firstColumnOf?_eq :
    ∀ {args args' : List Operand}, RecomputedArgs args args' →
      firstColumnOf? args = firstColumnOf? args'
  | _, _, .nil => rfl
  | _, _, .cons h rest => by
      rw [firstColumnOf?, firstColumnOf?, h.firstColumn?_eq,
        RecomputedArgs.firstColumnOf?_eq rest]

end

/-- Either list has as many operands. -/
theorem RecomputedArgs.length_eq {args args' : List Operand} (h : RecomputedArgs args args') :
  args.length = args'.length
  := by
  induction args generalizing args' with
  | nil => cases h; rfl
  | cons arg args ih =>
      cases h with
      | cons _ rest => rw [List.length_cons, List.length_cons, ih rest]

end Operand

namespace Predicate

/-- The values that a predicate computes, from left to right. -/
def computedValues : Predicate → List Value
  | constant _ | member _ => []
  | compare left _ right => left.computedValues ++ right.computedValues
  | call _ args => Operand.computedValuesOf args
  | not p => p.computedValues
  | combine _ left right => left.computedValues ++ right.computedValues

/-- Two predicates that are the same but for the values that they compute. -/
inductive Recomputed : Predicate → Predicate → Prop
  | constant (b : Bool) : Recomputed (.constant b) (.constant b)
  | member (column : String) : Recomputed (.member column) (.member column)
  | compare {l l' r r' : Operand} (hl : l.Recomputed l') (op : CompareOp)
      (hr : r.Recomputed r') : Recomputed (.compare l op r) (.compare l' op r')
  | call (name : String) {args args' : List Operand} (h : Operand.RecomputedArgs args args') :
      Recomputed (.call name args) (.call name args')
  | not {p q : Predicate} (h : Recomputed p q) : Recomputed p.not q.not
  | combine (logic : Logic) {p q p' q' : Predicate} (h : Recomputed p p')
      (h' : Recomputed q q') : Recomputed (.combine logic p q) (.combine logic p' q')

theorem Recomputed.refl (p : Predicate) :
  p.Recomputed p
  := by
  induction p with
  | constant b => apply constant b
  | member column => apply member column
  | compare l op r => apply compare (Operand.Recomputed.refl l) op (Operand.Recomputed.refl r)
  | call name args => apply call name (Operand.RecomputedArgs.refl args)
  | not p ih => apply not ih
  | combine logic p q ihp ihq => apply combine logic ihp ihq

/-- As many values are computed in either predicate. -/
theorem Recomputed.length_eq {p q : Predicate} (h : p.Recomputed q) :
  p.computedValues.length = q.computedValues.length
  := by
  induction h with
  | constant b => rfl
  | member column => rfl
  | compare hl op hr =>
      rw [computedValues, computedValues, List.length_append, List.length_append, hl.length_eq,
        hr.length_eq]
  | call name h => apply h.length_computedValuesOf
  | not _ ih => apply ih
  | combine logic _ _ ihp ihq =>
      rw [computedValues, computedValues, List.length_append, List.length_append, ihp, ihq]

end Predicate

namespace Translate

variable {α β : Type} {scope : Scope} {m m' : Translate α} {f f' : α → Translate β}
  {values values' more more' : List Value}

/-! ### Steps -/

/-- A step works out values in order, and all of them if it succeeds.  The other step does the
same if it has the same values for those that are worked out. -/
def Works (m m' : Translate α) (values values' : List Value) : Prop :=
  ∀ t, ∃ done, (m t).2.computed = t.computed ++ done ∧ done <+: values ∧
    (∀ a, (m t).1 = .ok a → done = values) ∧ (done <+: values' → m' t = m t)

/-- A step that works out nothing. -/
abbrev Idle (m : Translate α) : Prop :=
  Works m m [] []

/-- A step without effect. -/
theorem idle_pure (a : α) :
  Idle (pure a : Translate α)
  := by
  intro t
  exact ⟨[], (List.append_nil _).symm, List.prefix_refl _, fun _ _ => rfl, fun _ => rfl⟩

/-- A step that fails works out nothing of what is due. -/
theorem works_fail (u : Untranslatable) :
  Works (fail u : Translate α) (fail u) values values'
  := by
  intro t
  refine ⟨[], (List.append_nil _).symm, List.nil_prefix, ?_, fun _ => rfl⟩
  rintro a ⟨⟩

/-- Issuing a parameter works out nothing. -/
theorem idle_issue (base : String) (v : Value) :
  Idle (issue base v)
  := by
  intro t
  exact ⟨[], (List.append_nil _).symm, List.prefix_refl _, fun _ _ => rfl, fun _ => rfl⟩

/-- A computed value is worked out. -/
theorem works_compute (v w : Value) :
  Works (compute v) (compute w) [v] [w]
  := by
  intro t
  refine ⟨[v], rfl, List.prefix_refl _, fun _ _ => rfl, ?_⟩
  intro hbegins
  obtain ⟨rfl, -⟩ := List.cons_prefix_cons.mp hbegins
  rfl

/-- Two steps work out what the first works out and then what the second works out. -/
theorem works_bind (hlength : values.length = values'.length) (hm : Works m m' values values')
    (hf : ∀ a, (∃ t t', m t = (.ok a, t')) → Works (f a) (f' a) more more') :
  Works (m >>= f) (m' >>= f') (values ++ more) (values' ++ more')
  := by
  intro t
  obtain ⟨done, hdone, hbegins, hall, hsame⟩ := hm t
  rw [bind_apply, bind_apply]
  cases hrun : m t with
  | mk result t₁ =>
      rw [hrun] at hdone hall hsame
      cases result with
      | error u =>
          refine ⟨done, hdone, hbegins.trans (List.prefix_append _ _), ?_, ?_⟩
          · rintro a ⟨⟩
          · intro hdue
            -- What has been worked out ends before the values of the second step begin.
            have hfirst : done <+: values' := by
              apply List.prefix_of_prefix_length_le hdue (List.prefix_append _ _)
              rw [← hlength]
              apply hbegins.length_le
            rw [hsame hfirst]
      | ok a =>
          obtain rfl := hall a rfl
          obtain ⟨later, hlater, hbegins', hall', hsame'⟩ := hf a ⟨t, t₁, hrun⟩ t₁
          refine ⟨done ++ later, ?_, ?_, ?_, ?_⟩
          · show (f a t₁).2.computed = _
            rw [hlater, hdone, List.append_assoc]
          · apply (List.prefix_append_right_inj _).mpr hbegins'
          · intro b hb
            rw [hall' b hb]
          · rintro ⟨after, hafter⟩
            rw [List.append_assoc] at hafter
            obtain ⟨rfl, hmore⟩ := List.append_inj hafter hlength
            rw [hsame (List.prefix_refl _)]
            apply hsame' ⟨after, hmore⟩

/-- Behind a step that works out nothing the next one works out its values. -/
theorem works_bind_idle (hm : Idle m)
    (hf : ∀ a, (∃ t t', m t = (.ok a, t')) → Works (f a) (f' a) values values') :
  Works (m >>= f) (m >>= f') values values'
  := works_bind rfl hm hf

/-- A step whose result is changed works out its values. -/
theorem works_map (hlength : values.length = values'.length) (hm : Works m m' values values')
    (change : α → β) :
  Works (do return change (← m)) (do return change (← m')) values values'
  := by
  have h := works_bind hlength hm fun a _ => idle_pure (change a)
  rw [List.append_nil, List.append_nil] at h
  apply h

/-! ### Values and names -/

/-- Resolving a name works out nothing. -/
theorem idle_resolve (name : String) :
  Idle (resolve scope name)
  := by
  unfold resolve
  split
  · apply idle_pure
  · apply works_fail

/-- Finding a helper works out nothing. -/
theorem idle_helper (name : String) :
  Idle (helper name)
  := by
  unfold helper
  split
  · apply idle_pure
  · apply works_fail

/-- Evaluating a call on values works out nothing. -/
theorem idle_evaluate (h : Helper) (name : String) (given : List Value) :
  Idle (evaluate h name given)
  := by
  unfold evaluate
  split
  · apply idle_pure
  · apply works_fail

mutual

/-- The value of an operand takes all that it computes. -/
theorem works_literal :
    ∀ {arg arg' : Operand}, arg.Recomputed arg' →
      Works (literal arg) (literal arg') arg.computedValues arg'.computedValues
  | _, _, .column name => by
      rw [literal]
      apply works_fail
  | _, _, .value v => by
      rw [literal]
      apply idle_pure
  | _, _, .computed v w => by
      rw [literal, literal]
      apply works_compute
  | _, _, @Operand.Recomputed.call name args args' h => by
      rw [literal, literal, Operand.computedValues, Operand.computedValues]
      apply works_bind_idle (idle_helper name)
      intro helper _
      split
      · rw [← List.append_nil (Operand.computedValuesOf args),
          ← List.append_nil (Operand.computedValuesOf args')]
        apply works_bind h.length_computedValuesOf (works_literals h)
        intro given _
        apply idle_evaluate
      · apply works_fail

/-- The values of operands take all that they compute. -/
theorem works_literals :
    ∀ {args args' : List Operand}, Operand.RecomputedArgs args args' →
      Works (literals args) (literals args') (Operand.computedValuesOf args)
        (Operand.computedValuesOf args')
  | _, _, .nil => by
      rw [literals]
      apply idle_pure
  | _, _, .cons h rest => by
      rw [literals, literals]
      apply works_bind h.length_eq (works_literal h)
      intro v _
      apply works_map rest.length_computedValuesOf (works_literals rest)

end

/-- What stands behind a call without columns is reached with its value if its helper can be
evaluated, and before any operand is looked at if not. -/
theorem fold?_bind (name : String) (args : List Operand) (k : Option Value → Translate α) :
  fold? name args >>= k = (do
    let h ← helper name
    if h.canEvaluate then
      let given ← literals args
      let v ← evaluate h name given
      k (some v)
    else k none)
  := by
  rw [fold?, bind_assoc]
  apply bind_congr
  intro h
  split
  · simp only [bind_assoc, pure_bind]
  · rw [pure_bind]

/-- A call takes what it computes once, whether it is evaluated or stands in the SQL. -/
theorem works_unlessFolded {name : String} {args args' : List Operand}
    (h : Operand.RecomputedArgs args args') {standing standing' : Translate α}
    (hstanding : Works standing standing' (Operand.computedValuesOf args)
      (Operand.computedValuesOf args'))
    {folded : Value → Translate α} (hfolded : ∀ v, Idle (folded v)) :
  Works
    (do
      let v? ← if Operand.mentionColumn args then pure none else fold? name args
      match v? with
      | some v => folded v
      | none => standing)
    (do
      let v? ← if Operand.mentionColumn args' then pure none else fold? name args'
      match v? with
      | some v => folded v
      | none => standing')
    (Operand.computedValuesOf args) (Operand.computedValuesOf args')
  := by
  have hmention : Operand.mentionColumn args' = Operand.mentionColumn args := by
    rw [Operand.mentionColumn, Operand.mentionColumn, h.firstColumnOf?_eq]
  rw [hmention]
  split
  · apply hstanding
  · rw [fold?_bind, fold?_bind]
    apply works_bind_idle (idle_helper name)
    intro helper _
    split
    · rw [← List.append_nil (Operand.computedValuesOf args),
        ← List.append_nil (Operand.computedValuesOf args')]
      apply works_bind h.length_computedValuesOf (works_literals h)
      intro given _
      apply works_bind_idle (idle_evaluate helper name given)
      intro v _
      apply hfolded v
    · apply hstanding

/-! ### Expressions -/

/-- Looking up the helper of a call works out nothing. -/
theorem idle_callee (name : String) (given : Nat) :
  Idle (callee scope name given)
  := by
  apply works_bind_idle (idle_helper name)
  intro h _
  split
  · apply works_fail
  · split
    · apply works_fail
    · apply idle_pure

/-- The helper that a call is made with takes as many arguments as are given. -/
theorem length_of_callee {name : String} {given : Nat} {h : Helper} {t t' : Trail}
    (hrun : callee scope name given t = (.ok h, t')) :
  h.args.length = given
  := by
  have hsilent : Silent (fun _ => True) (callee scope name given) _ := silent_callee name given
  obtain ⟨-, -, -, -, -, -, hlength⟩ := hsilent t h t' hrun
  apply hlength.symm

/-- An integer argument takes what it computes. -/
theorem works_integerArgument (h : Helper) {arg arg' : Operand} (harg : arg.Recomputed arg') :
  Works (integerArgument h arg) (integerArgument h arg') arg.computedValues arg'.computedValues
  := by
  rw [← List.append_nil arg.computedValues, ← List.append_nil arg'.computedValues]
  apply works_bind harg.length_eq (works_literal harg)
  intro v _
  split
  · apply idle_pure
  · apply works_fail

/-- An argument that is a name takes what it computes. -/
theorem works_nameArgument (h : Helper) {arg arg' : Operand} (harg : arg.Recomputed arg') :
  Works (nameArgument h arg) (nameArgument h arg') arg.computedValues arg'.computedValues
  := by
  rw [← List.append_nil arg.computedValues, ← List.append_nil arg'.computedValues]
  apply works_bind harg.length_eq (works_literal harg)
  intro v _
  split
  · split
    · apply idle_pure
    · apply works_fail
  · apply works_fail

/-- An argument before others takes what it computes before what they compute. -/
theorem works_cons {first first' : Translate Expr} {rest rest' : Translate (List Expr)}
    (hlength : values.length = values'.length) (hmore : more.length = more'.length)
    (hfirst : Works first first' values values') (hrest : Works rest rest' more more') :
  Works
    (do
      let e ← first
      let es ← rest
      return e :: es)
    (do
      let e ← first'
      let es ← rest'
      return e :: es)
    (values ++ more) (values' ++ more')
  := by
  apply works_bind hlength hfirst
  intro e _
  apply works_map hmore hrest

mutual

/-- An expression takes what it computes. -/
theorem works_expression (base : String) :
    ∀ {arg arg' : Operand}, arg.Recomputed arg' →
      Works (expression scope base arg) (expression scope base arg') arg.computedValues
        arg'.computedValues
  | _, _, .column name => by
      rw [expression]
      apply works_bind_idle (idle_resolve name)
      intro found _
      apply idle_pure
  | _, _, .value v => by
      rw [expression]
      apply idle_issue
  | _, _, .computed v w => by
      rw [expression, expression]
      have hlength : [v].length = [w].length := rfl
      apply works_bind hlength (works_compute v w) fun u _ => idle_issue base u
  | _, _, @Operand.Recomputed.call name args args' h => by
      have hcall : Works
          (do
            let helper ← callee scope name args.length
            let es ← arguments scope base helper helper.args args
            return Expr.call helper es)
          (do
            let helper ← callee scope name args'.length
            let es ← arguments scope base helper helper.args args'
            return Expr.call helper es)
          (Operand.computedValuesOf args) (Operand.computedValuesOf args') := by
        rw [← h.length_eq]
        apply works_bind_idle (idle_callee name args.length)
        rintro helper ⟨t, t', hrun⟩
        apply works_map h.length_computedValuesOf
        apply works_arguments base helper h helper.args (length_of_callee hrun)
      rw [expression, expression]
      apply works_unlessFolded h hcall
      intro v
      apply idle_issue

/-- Arguments take what they compute, each in its turn. -/
theorem works_arguments (base : String) (helper : Helper) :
    ∀ {args args' : List Operand}, Operand.RecomputedArgs args args' →
      ∀ kinds : List ArgumentKind, kinds.length = args.length →
        Works (arguments scope base helper kinds args) (arguments scope base helper kinds args')
          (Operand.computedValuesOf args) (Operand.computedValuesOf args')
  | _, _, .nil, [], _ => by
      rw [arguments]
      · apply idle_pure
      · simp
  | _, _, .cons h rest, kind :: kinds, hlength => by
      have hrest := works_arguments base helper rest kinds (by simpa using hlength)
      cases kind with
      | expr =>
          rw [arguments, arguments]
          apply works_cons h.length_eq rest.length_computedValuesOf (works_expression base h) hrest
      | int =>
          rw [arguments, arguments]
          apply works_cons h.length_eq rest.length_computedValuesOf
            (works_integerArgument helper h) hrest
      | ident =>
          rw [arguments, arguments]
          apply works_cons h.length_eq rest.length_computedValuesOf
            (works_nameArgument helper h) hrest

end

/-- Finding what parameters are named after works out nothing. -/
theorem idle_baseOf (args : List Operand) :
  Idle (baseOf scope args)
  := by
  unfold baseOf
  split
  · apply works_bind_idle (idle_resolve _)
    intro found _
    apply idle_pure
  · apply idle_pure

/-- A call that stands in the SQL takes what it computes. -/
theorem works_callParts {name : String} {args args' : List Operand}
    (h : Operand.RecomputedArgs args args') :
  Works (callParts scope name args) (callParts scope name args') (Operand.computedValuesOf args)
    (Operand.computedValuesOf args')
  := by
  have hbase : baseOf scope args' = baseOf scope args := by
    rw [baseOf, baseOf, h.firstColumnOf?_eq]
  rw [callParts, callParts, hbase, ← h.length_eq]
  apply works_bind_idle (idle_baseOf args)
  intro base _
  apply works_bind_idle (idle_callee name args.length)
  rintro helper ⟨t, t', hrun⟩
  apply works_map h.length_computedValuesOf
  apply works_arguments base helper h helper.args (length_of_callee hrun)

/-! ### Conditions -/

/-- A side of a comparison takes what it computes. -/
theorem works_side {arg arg' : Operand} (h : arg.Recomputed arg') :
  Works (side scope arg) (side scope arg') arg.computedValues arg'.computedValues
  := by
  cases h with
  | column name =>
      apply works_bind_idle (idle_resolve name)
      intro found _
      apply idle_pure
  | value v => apply idle_pure
  | computed v w =>
      have hlength : [v].length = [w].length := rfl
      apply works_map hlength (works_compute v w) Side.value
  | call name h =>
      apply works_unlessFolded h
      · apply works_map h.length_computedValuesOf (works_callParts h)
      · intro v
        apply idle_pure

/-- Comparing an expression with a value works out nothing. -/
theorem idle_against (e : Expr) (base : String) (op : CompareOp) (v : Value) :
  Idle (against e base op v)
  := by
  apply works_bind_idle (idle_issue base v)
  intro p _
  apply idle_pure

/-- A comparison takes what its sides compute, the left one first. -/
theorem works_comparison {l l' r r' : Operand} (hl : l.Recomputed l') (op : CompareOp)
    (hr : r.Recomputed r') :
  Works (comparison scope l op r) (comparison scope l' op r')
    (l.computedValues ++ r.computedValues) (l'.computedValues ++ r'.computedValues)
  := by
  rw [comparison, comparison]
  apply works_bind hl.length_eq (works_side hl)
  intro s _
  rw [← List.append_nil r.computedValues, ← List.append_nil r'.computedValues]
  apply works_bind hr.length_eq (works_side hr)
  intro s' _
  cases s with
  | expr e base =>
      cases s' with
      | expr f base' => apply idle_pure
      | value v => apply idle_against
  | value v =>
      cases s' with
      | expr e base => apply idle_against
      | value w =>
          dsimp only
          split
          · apply idle_pure
          · apply works_fail

/-- A column of truth values works out nothing. -/
theorem idle_member (column : String) (expected : Bool) :
  Idle (member scope column expected)
  := by
  apply works_bind_idle (idle_resolve column)
  rintro ⟨declared, type⟩ _
  dsimp only
  split
  · apply idle_pure
  · apply works_fail

/-- A call that is a condition takes what it computes. -/
theorem works_conditionCall {name : String} {args args' : List Operand}
    (h : Operand.RecomputedArgs args args') :
  Works (conditionCall scope name args) (conditionCall scope name args')
    (Operand.computedValuesOf args) (Operand.computedValuesOf args')
  := by
  apply works_bind_idle (idle_helper name)
  intro helper _
  split
  · apply works_unlessFolded h
    · apply works_map h.length_computedValuesOf (works_callParts h)
    · intro v
      split
      · apply idle_pure
      · apply works_fail
  · apply works_fail

/-- A predicate takes what it computes. -/
theorem works_predicate {p q : Predicate} (h : p.Recomputed q) :
  Works (predicate scope p) (predicate scope q) p.computedValues q.computedValues
  := by
  induction h with
  | constant b =>
      rw [predicate]
      apply idle_pure
  | member column =>
      rw [predicate]
      apply idle_member
  | compare hl op hr =>
      rw [predicate, predicate]
      apply works_comparison hl op hr
  | call name h =>
      rw [predicate, predicate]
      apply works_conditionCall h
  | not h ih =>
      -- The negation of a column or of a constant is translated on its own.
      cases h with
      | constant b =>
          rw [predicate]
          apply idle_pure
      | member column =>
          rw [predicate]
          apply idle_member
      | compare hl op hr => apply works_map (Predicate.Recomputed.compare hl op hr).length_eq ih
      | call name h => apply works_map (Predicate.Recomputed.call name h).length_eq ih
      | not h => apply works_map h.not.length_eq ih
      | combine logic h h' => apply works_map (h.combine logic h').length_eq ih
  | combine logic hp hq ihp ihq =>
      rw [predicate, predicate]
      apply works_bind hp.length_eq ihp
      intro c _
      apply works_map hq.length_eq ihq

end Translate

namespace Predicate

variable {p q : Predicate}

/-- A translation works out values of a predicate in order, and all of them if it succeeds.
It does not depend on the others. -/
theorem computed_translate (h : p.Recomputed q) (scope : Scope) (n : Nat) :
  (p.translate scope n).computed <+: p.computedValues ∧
    (∀ made, (p.translate scope n).outcome = .ok made →
      (p.translate scope n).computed = p.computedValues) ∧
    ((p.translate scope n).computed <+: q.computedValues →
      q.translate scope n = p.translate scope n)
  := by
  have hworks : Translate.Works (Translate.predicate scope p) (Translate.predicate scope q) _ _ :=
    Translate.works_predicate h
  obtain ⟨done, hdone, hbegins, hall, hsame⟩ := hworks { counter := n }
  have hrun : ∀ r : Predicate,
      (Translate.predicate scope r).run { counter := n } =
        Translate.predicate scope r { counter := n } := fun _ => rfl
  unfold translate
  rw [hrun, hrun]
  rw [List.nil_append] at hdone
  have hlog : done = (Translate.predicate scope p { counter := n }).2.computed := hdone.symm
  cases hresult : Translate.predicate scope p { counter := n } with
  | mk result t =>
      rw [hresult] at hlog hall hsame
      subst hlog
      cases result with
      | error u =>
          refine ⟨hbegins, ?_, fun hdue => ?_⟩
          · rintro made ⟨⟩
          · rw [hsame hdue]
      | ok c =>
          refine ⟨hbegins, fun made _ => hall c rfl, fun hdue => ?_⟩
          rw [hsame hdue]

/-- The values that a predicate computes are worked out once each, from left to right, if the
predicate comes to a fragment without a report.  If not, some of them may not be worked out:
those that are come first, and whatever the others are makes no difference. -/
theorem worked_out_once (p : Predicate) (rules : TranslationRules) (d : Descriptor)
    (tableAlias : Option String) (n : Nat) :
  let c := p.compile rules d tableAlias n
  (∀ f, c.result = .ok f → c.events = [] → c.computed = p.computedValues) ∧
    c.computed <+: p.computedValues ∧
    ∀ q, p.Recomputed q → c.computed <+: q.computedValues →
      q.compile rules d tableAlias n = c
  := by
  intro c
  let scope : Scope := ⟨d, tableAlias, rules.opaqueTimestamps⟩
  have hcomputed : c.computed = (p.translate scope n).computed := by
    show (p.compile rules d tableAlias n).computed = _
    unfold compile
    dsimp only
    split <;> rfl
  obtain ⟨hbegins, hall, -⟩ := computed_translate (Recomputed.refl p) scope n
  rw [hcomputed]
  refine ⟨?_, hbegins, ?_⟩
  · intro f hresult hevents
    cases hout : (p.translate scope n).outcome with
    | ok made => apply hall made hout
    | error u =>
        have hc : c = _ := compile_of_error hout
        rw [hc] at hresult hevents
        cases hpolicy : rules.policy <;> simp [TranslationRules.degrade, hpolicy] at hresult hevents
  · intro q hq hdue
    have hsame := (computed_translate hq scope n).2.2 hdue
    show q.compile rules d tableAlias n = p.compile rules d tableAlias n
    unfold compile
    dsimp only
    rw [hsame]

/-- A value in a call that is evaluated, one in a call within it, one that is an integer argument
and one that is a parameter: all are worked out.  Behind them a column is unknown, and the value
that it is compared with is not worked out, so that another one may stand there. -/
theorem worked_out_max_abs_round :
  let d : Descriptor :=
    { table := "Item", typeName := "Item", columns := [{ name := "Price", type := .real }] }
  let p : Predicate := .combine .both
    (.compare (.column "Price") .ge
      (.call "max" [.computed (.int 3), .call "abs" [.computed (.int (-2))]]))
    (.compare (.call "round" [.column "Price", .computed (.int 1)]) .lt (.computed (.int 5)))
  let q (v : Value) : Predicate :=
    .combine .either p (.compare (.column "Missing") .eq (.computed v))
  let taken : List Value := [.int 3, .int (-2), .int 1, .int 5]
  (p.compile {} d none 0).computed = taken ∧
    (∃ rest, taken ++ rest = (q .null).computedValues) ∧
    (q (.text "a")).compile {} d none 0 = (q .null).compile {} d none 0
  := by
  intro d p q taken
  have hresult : ∃ f, (p.compile {} d none 0).result = .ok f := ⟨_, rfl⟩
  obtain ⟨f, hf⟩ := hresult
  use (worked_out_once p {} d none 0).1 f hf rfl
  have htaken : ((q .null).compile {} d none 0).computed = taken := rfl
  obtain ⟨-, hbegins, hsame⟩ := worked_out_once (q .null) {} d none 0
  rw [htaken] at hbegins
  use hbegins
  apply hsame
  · apply Recomputed.combine .either (Recomputed.refl p)
    apply Recomputed.compare (.column "Missing") .eq (.computed .null (.text "a"))
  · rw [htaken]
    use [.text "a"]
    rfl

end Predicate

end EntityStore
