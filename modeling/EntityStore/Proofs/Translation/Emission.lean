import EntityStore.Proofs.Translation.Trail

/-!
# What a translation makes

The expressions and conditions that a translation makes are built from the columns of its
scope, from parameters that are named after a base of its descriptor, and from calls
whose arguments fit the helper.  They mention the parameters issued for them and no
others, in order.
-/

namespace EntityStore

open Sql

/-- What a parameter can be named after: the declared spelling of a column, or `Value` in
a call that mentions no column. -/
def Descriptor.IsBase (d : Descriptor) (base : String) : Prop :=
  base = "Value" ∨ ∃ name type, d.resolve? name = some (base, type)

namespace Sql

mutual

/-- An expression made in a scope. -/
inductive Expr.Over (scope : Scope) : Expr → Prop
  | column {name column : String} {type : ColumnType}
      (h : scope.descriptor.resolve? name = some (column, type)) :
      Expr.Over scope (.column scope.tableAlias column)
  | param {base : String} (h : scope.descriptor.IsBase base) (n : Nat) :
      Expr.Over scope (.param (base ++ decimalText n))
  | call {helper : Helper} {args : List Expr} (h : Expr.Fit scope helper.args args) :
      Expr.Over scope (.call helper args)

/-- Arguments made in a scope, each of its kind. -/
inductive Expr.Fit (scope : Scope) : List ArgumentKind → List Expr → Prop
  | nil : Expr.Fit scope [] []
  | expr {kinds : List ArgumentKind} {e : Expr} {es : List Expr} (h : Expr.Over scope e)
      (rest : Expr.Fit scope kinds es) : Expr.Fit scope (.expr :: kinds) (e :: es)
  | int {kinds : List ArgumentKind} {es : List Expr} (n : Int64)
      (rest : Expr.Fit scope kinds es) : Expr.Fit scope (.int :: kinds) (.integer n :: es)
  | ident {kinds : List ArgumentKind} {name : String} {es : List Expr}
      (h : isIdentifier name = true) (rest : Expr.Fit scope kinds es) :
      Expr.Fit scope (.ident :: kinds) (.ident name :: es)

end

/-- There is an argument of each kind. -/
theorem Expr.Fit.length_eq {scope : Scope} {kinds : List ArgumentKind} {es : List Expr}
    (h : Expr.Fit scope kinds es) :
  es.length = kinds.length
  := by
  induction es generalizing kinds with
  | nil => cases h; rfl
  | cons e es ih => cases h <;> simp [ih ‹_›]

/-- A condition made in a scope that is put together from no others.  Only a parameter is
compared by an operator for null. -/
inductive Condition.Basic (scope : Scope) : Condition → Prop
  | constant (b : Bool) : Condition.Basic scope (.constant b)
  | truth {name column : String} {type : ColumnType}
      (h : scope.descriptor.resolve? name = some (column, type)) (expected : Bool) :
      Condition.Basic scope (.truth scope.tableAlias column expected)
  | compare {l r : Expr} (hl : l.Over scope) (op : CompareOp) (hr : r.Over scope) :
      Condition.Basic scope (.compare l op.sql r)
  | nullSafe {l : Expr} (hl : l.Over scope) {op : CompareOp} {operator : String}
      (hop : op.nullSafe? = some operator) {base : String}
      (hbase : scope.descriptor.IsBase base) (n : Nat) :
      Condition.Basic scope (.compare l operator (.param (base ++ decimalText n)))
  | call {helper : Helper} (hcondition : helper.isCondition = true) {args : List Expr}
      (h : Expr.Fit scope helper.args args) : Condition.Basic scope (.call helper args)

mutual

/-- The names of the parameters in an expression, as they are written. -/
def Expr.slots : Expr → List String
  | .column .. | .integer _ | .ident _ => []
  | .param name => [name]
  | .call _ args => Expr.slotsOf args

/-- The names of the parameters in expressions. -/
def Expr.slotsOf : List Expr → List String
  | [] => []
  | e :: es => Expr.slots e ++ Expr.slotsOf es

end

/-- The names of the parameters in a condition, as they are written. -/
def Condition.slots : Condition → List String
  | .constant _ | .truth .. => []
  | .compare l _ r => l.slots ++ r.slots
  | .call _ args => Expr.slotsOf args
  | .not c => c.slots
  | .combine _ c d => c.slots ++ d.slots

end Sql

namespace Translate

variable {allowed : String → Prop} {scope : Scope}

/-! ### Values and names -/

/-- A column that is found is one of the descriptor. -/
theorem silent_resolve (name : String) :
  Silent allowed (resolve scope name) fun found => scope.descriptor.resolve? name = some found
  := by
  unfold resolve
  split
  · rename_i found hfound
    apply issues_pure ⟨rfl, hfound⟩
  · apply issues_fail

/-- A helper is found by its name. -/
theorem silent_helper (name : String) :
  Silent allowed (helper name) fun h => Helper.ofName? name = some h
  := by
  unfold helper
  split
  · rename_i h hh
    apply issues_pure ⟨rfl, hh⟩
  · apply issues_fail

/-- Evaluating a call adds no parameter. -/
theorem silent_evaluate (h : Helper) (name : String) (values : List Value) :
  Silent allowed (evaluate h name values) fun v => h.evaluate? values = some v
  := by
  unfold evaluate
  split
  · rename_i v hv
    apply issues_pure ⟨rfl, hv⟩
  · apply issues_fail

mutual

/-- The value of an operand adds no parameter. -/
theorem silent_literal :
    ∀ arg : Operand, Silent allowed (literal arg) fun _ => True
  | .value v => by
      rw [literal]
      apply issues_pure ⟨rfl, trivial⟩
  | .computed v => by
      rw [literal]
      apply (silent_compute v).mono
      rintro _ _ ⟨hadded, -⟩
      use hadded
  | .column name => by
      rw [literal]
      apply issues_fail
  | .call name args => by
      rw [literal]
      apply issues_bind_silent (silent_helper name)
      intro h _
      split
      · apply issues_bind_silent (silent_literals args)
        intro values _
        apply (silent_evaluate h name values).mono
        rintro _ _ ⟨hadded, -⟩
        use hadded
      · apply issues_fail

/-- The values of operands add no parameters. -/
theorem silent_literals :
    ∀ args : List Operand, Silent allowed (literals args) fun _ => True
  | [] => by
      rw [literals]
      apply issues_pure ⟨rfl, trivial⟩
  | arg :: args => by
      rw [literals]
      apply issues_bind_silent (silent_literal arg)
      intro v _
      apply issues_bind_silent (silent_literals args)
      intro vs _
      apply issues_pure ⟨rfl, trivial⟩

end

/-- Folding a call adds no parameter. -/
theorem silent_fold? (name : String) (args : List Operand) :
  Silent allowed (fold? name args) fun _ => True
  := by
  apply issues_bind_silent (silent_helper name)
  intro h _
  split
  · apply issues_bind_silent (silent_literals args)
    intro values _
    apply issues_bind_silent (silent_evaluate h name values)
    intro v _
    apply issues_pure ⟨rfl, trivial⟩
  · apply issues_pure ⟨rfl, trivial⟩

/-! ### Expressions -/

/-- The helper of a call takes as many arguments as are given. -/
theorem silent_callee (name : String) (given : Nat) :
  Silent allowed (callee scope name given) fun h =>
    Helper.ofName? name = some h ∧ given = h.args.length
  := by
  apply issues_bind_silent (silent_helper name)
  intro h hh
  split
  · apply issues_fail
  · rename_i hgiven
    split
    · apply issues_fail
    · apply issues_pure ⟨rfl, hh, not_not.mp hgiven⟩

/-- An integer argument is an integer. -/
theorem silent_integerArgument (h : Helper) (arg : Operand) :
  Silent allowed (integerArgument h arg) fun e => ∃ n, e = .integer n
  := by
  apply issues_bind_silent (silent_literal arg)
  intro v _
  split
  · rename_i n
    apply issues_pure ⟨rfl, n, rfl⟩
  · apply issues_fail

/-- An argument that is a name is an identifier. -/
theorem silent_nameArgument (h : Helper) (arg : Operand) :
  Silent allowed (nameArgument h arg) fun e =>
    ∃ name, isIdentifier name = true ∧ e = .ident name
  := by
  apply issues_bind_silent (silent_literal arg)
  intro v _
  split
  · rename_i name
    split
    · rename_i hname
      apply issues_pure ⟨rfl, name, hname, rfl⟩
    · apply issues_fail
  · apply issues_fail

/-- A parameter is an expression of its scope that mentions itself. -/
theorem issues_param {base : String} (hbase : scope.descriptor.IsBase base) (v : Value) :
  Issues scope.descriptor.IsBase (issue base v) fun e added =>
    e.Over scope ∧ e.slots = added.map (·.name)
  := by
  apply (issues_issue hbase v).mono
  rintro _ _ ⟨n, rfl, rfl⟩
  use .param hbase n
  rfl

/-- A call is an expression of its scope if its arguments are. -/
theorem issues_call (name : String) {args : List Operand}
    {rest : Helper → Translate (List Expr)}
    (h : ∀ helper : Helper, helper.args.length = args.length →
      Issues scope.descriptor.IsBase (rest helper) fun es added =>
        Expr.Fit scope helper.args es ∧ Expr.slotsOf es = added.map (·.name)) :
  Issues scope.descriptor.IsBase
    ((do
      let helper ← callee scope name args.length
      let es ← rest helper
      return .call helper es) : Translate Expr)
    fun e added => e.Over scope ∧ e.slots = added.map (·.name)
  := by
  apply issues_bind_silent (silent_callee name args.length)
  rintro helper ⟨-, hlength⟩
  apply issues_bind (h helper hlength.symm)
  rintro es before ⟨hfit, hslots⟩
  apply issues_pure
  use .call hfit
  rw [List.append_nil]
  apply hslots

mutual

/-- An expression mentions the parameters issued for it. -/
theorem issues_expression {base : String} (hbase : scope.descriptor.IsBase base) :
    ∀ arg : Operand, Issues scope.descriptor.IsBase (expression scope base arg)
      fun e added => e.Over scope ∧ e.slots = added.map (·.name)
  | .column name => by
      rw [expression]
      apply issues_bind_silent (silent_resolve name)
      rintro ⟨column, type⟩ hfound
      apply issues_pure ⟨.column hfound, rfl⟩
  | .value v => by
      rw [expression]
      apply issues_param hbase v
  | .computed v => by
      rw [expression]
      apply issues_bind_silent (silent_compute v)
      rintro _ rfl
      apply issues_param hbase
  | .call name args => by
      rw [expression]
      have h := issues_call name
        fun helper hlength => issues_arguments hbase helper helper.args args hlength
      split
      · apply h
      · apply issues_bind_silent (silent_fold? name args)
        rintro (_ | v) _
        · apply h
        · apply issues_param hbase v

/-- The arguments of a call mention the parameters issued for them. -/
theorem issues_arguments {base : String} (hbase : scope.descriptor.IsBase base) (h : Helper) :
    ∀ (kinds : List ArgumentKind) (args : List Operand), kinds.length = args.length →
      Issues scope.descriptor.IsBase (arguments scope base h kinds args)
        fun es added => Expr.Fit scope kinds es ∧ Expr.slotsOf es = added.map (·.name)
  | [], [], _ => by
      rw [arguments]
      · apply issues_pure ⟨.nil, rfl⟩
      · simp
  | .expr :: kinds, arg :: args, hlength => by
      rw [arguments]
      apply issues_bind (issues_expression hbase arg)
      rintro e before ⟨hover, hslots⟩
      apply issues_bind (issues_arguments hbase h kinds args (by simpa using hlength))
      rintro es added ⟨hfit, hslots'⟩
      apply issues_pure
      use .expr hover hfit
      rw [Expr.slotsOf, hslots, hslots', List.append_nil, List.map_append]
  | .int :: kinds, arg :: args, hlength => by
      rw [arguments]
      apply issues_bind_silent (silent_integerArgument h arg)
      rintro _ ⟨n, rfl⟩
      apply issues_bind (issues_arguments hbase h kinds args (by simpa using hlength))
      rintro es added ⟨hfit, hslots⟩
      apply issues_pure
      use .int n hfit
      rw [Expr.slotsOf, Expr.slots, hslots, List.nil_append, List.append_nil]
  | .ident :: kinds, arg :: args, hlength => by
      rw [arguments]
      apply issues_bind_silent (silent_nameArgument h arg)
      rintro _ ⟨name, hname, rfl⟩
      apply issues_bind (issues_arguments hbase h kinds args (by simpa using hlength))
      rintro es added ⟨hfit, hslots⟩
      apply issues_pure
      use .ident hname hfit
      rw [Expr.slotsOf, Expr.slots, hslots, List.nil_append, List.append_nil]

end

/-- What parameters of a call are named after is a base. -/
theorem silent_baseOf (args : List Operand) :
  Silent allowed (baseOf scope args) scope.descriptor.IsBase
  := by
  unfold baseOf
  split
  · rename_i name _
    apply issues_bind_silent (silent_resolve name)
    rintro ⟨column, type⟩ hfound
    apply issues_pure ⟨rfl, .inr ⟨name, type, hfound⟩⟩
  · apply issues_pure ⟨rfl, .inl rfl⟩

/-- The parts of a call that stands in the SQL. -/
theorem issues_callParts (name : String) (args : List Operand) :
  Issues scope.descriptor.IsBase (callParts scope name args) fun parts added =>
    Helper.ofName? name = some parts.2.1 ∧ scope.descriptor.IsBase parts.1 ∧
      Expr.Fit scope parts.2.1.args parts.2.2 ∧ Expr.slotsOf parts.2.2 = added.map (·.name)
  := by
  apply issues_bind_silent (silent_baseOf args)
  intro base hbase
  apply issues_bind_silent (silent_callee name args.length)
  rintro h ⟨hh, hlength⟩
  apply issues_bind (issues_arguments hbase h h.args args hlength.symm)
  rintro es before ⟨hfit, hslots⟩
  apply issues_pure
  rw [List.append_nil]
  use hh, hbase, hfit, hslots

/-! ### Conditions -/

/-- A side of a comparison made in a scope with the parameters it mentions; a value
mentions none. -/
inductive Side.Made (scope : Scope) : Side → List Param → Prop
  | expr {e : Expr} {base : String} {added : List Param}
      (hbase : scope.descriptor.IsBase base) (he : e.Over scope)
      (hslots : e.slots = added.map (·.name)) : Side.Made scope (.expr e base) added
  | value (v : Value) : Side.Made scope (.value v) []

/-- A call that is a side of a comparison. -/
theorem issues_sideCall (name : String) (args : List Operand) :
  Issues scope.descriptor.IsBase
    ((do
      let (base, h, args) ← callParts scope name args
      return .expr (.call h args) base) : Translate Side) (Side.Made scope)
  := by
  apply issues_bind (issues_callParts name args)
  rintro ⟨base, h, es⟩ before ⟨-, hbase, hfit, hslots⟩
  apply issues_pure
  rw [List.append_nil]
  apply Side.Made.expr hbase (.call hfit) hslots

/-- A side of a comparison mentions the parameters issued for it. -/
theorem issues_side (arg : Operand) :
  Issues scope.descriptor.IsBase (side scope arg) (Side.Made scope)
  := by
  cases arg with
  | column name =>
      rw [side]
      apply issues_bind_silent (silent_resolve name)
      rintro ⟨column, type⟩ hfound
      apply issues_pure
      apply Side.Made.expr (.inr ⟨name, type, hfound⟩) (.column hfound) rfl
  | value v =>
      rw [side]
      apply issues_pure (.value v)
  | computed v =>
      rw [side]
      apply issues_bind_silent (silent_compute v)
      intro v _
      apply issues_pure (.value v)
  | call name args =>
      rw [side]
      split
      · apply issues_sideCall
      · apply issues_bind_silent (silent_fold? name args)
        rintro (_ | v) _
        · apply issues_sideCall
        · apply issues_pure (.value v)

/-- A comparison with the next parameter mentions it after the expression. -/
theorem issues_against {e : Expr} {base : String} {names : List String} (he : e.Over scope)
    (hbase : scope.descriptor.IsBase base) (hslots : e.slots = names) (op : CompareOp)
    (v : Value) :
  Issues scope.descriptor.IsBase (against e base op v) fun c added =>
    c.Basic scope ∧ c.slots = names ++ added.map (·.name)
  := by
  apply issues_bind (issues_issue hbase v)
  rintro _ _ ⟨n, rfl, rfl⟩
  apply issues_pure
  constructor
  · unfold operatorFor
    split
    · rename_i operator hop
      split
      · apply Condition.Basic.nullSafe he hop hbase
      · apply Condition.Basic.compare he op (.param hbase n)
    · apply Condition.Basic.compare he op (.param hbase n)
  · rw [Condition.slots, hslots]
    rfl

/-- A comparison of two values is decided at once. -/
theorem issues_compareValues (v : Value) (op : CompareOp) (w : Value) :
  Issues allowed
    ((match compareValues v op w with
      | .ok b => return .constant b
      | .error u => fail u) : Translate Condition)
    fun c added => c.Basic scope ∧ c.slots = added.map (·.name)
  := by
  split
  · rename_i b _
    apply issues_pure ⟨.constant b, rfl⟩
  · apply issues_fail

/-- A comparison mentions the parameters issued for it. -/
theorem issues_comparison (left : Operand) (op : CompareOp) (right : Operand) :
  Issues scope.descriptor.IsBase (comparison scope left op right) fun c added =>
    c.Basic scope ∧ c.slots = added.map (·.name)
  := by
  apply issues_bind (issues_side left)
  intro l before hl
  apply issues_bind (issues_side right)
  intro r after hr
  cases hl with
  | expr hbase he hslots =>
      cases hr with
      | expr _ hf hslots' =>
          apply issues_pure
          use .compare he op hf
          rw [Condition.slots, hslots, hslots', List.append_nil, List.map_append]
      | value v =>
          apply (issues_against he hbase hslots op v).mono
          rintro c added ⟨hc, hc'⟩
          use hc
          rw [hc', List.nil_append, List.map_append]
  | value v =>
      cases hr with
      | expr hbase he hslots =>
          apply (issues_against he hbase hslots op.flipped v).mono
          rintro c added ⟨hc, hc'⟩
          use hc
          rw [hc', List.nil_append, List.map_append]
      | value w => apply issues_compareValues v op w

/-- A column of truth values stands without a parameter. -/
theorem silent_member (column : String) (expected : Bool) :
  Silent allowed (member scope column expected) fun c =>
    ∃ declared, scope.descriptor.resolve? column = some (declared, .boolean) ∧
      c = .truth scope.tableAlias declared expected
  := by
  apply issues_bind_silent (silent_resolve column)
  rintro ⟨declared, type⟩ hfound
  dsimp only
  split
  · rename_i htype
    subst htype
    apply issues_pure ⟨rfl, declared, hfound, rfl⟩
  · apply issues_fail

/-- A column of truth values is a condition of its scope. -/
theorem issues_member (column : String) (expected : Bool) :
  Issues allowed (member scope column expected) fun c added =>
    c.Basic scope ∧ c.slots = added.map (·.name)
  := by
  apply (silent_member column expected).mono
  rintro _ _ ⟨rfl, declared, hfound, rfl⟩
  use .truth hfound expected
  rfl

/-- A call whose value is a truth value. -/
theorem issues_truthOf (name : String) (v : Value) :
  Issues allowed
    ((match v.asBool? with
      | some b => return .constant b
      | none => fail (.notABoolean name)) : Translate Condition)
    fun c added => c.Basic scope ∧ c.slots = added.map (·.name)
  := by
  split
  · rename_i b _
    apply issues_pure ⟨.constant b, rfl⟩
  · apply issues_fail

/-- A call that stands as a condition in the SQL. -/
theorem issues_standingCall {name : String} {h : Helper} (hh : Helper.ofName? name = some h)
    (hcondition : h.isCondition = true) (args : List Operand) :
  Issues scope.descriptor.IsBase
    ((do
      let (_, h, args) ← callParts scope name args
      return .call h args) : Translate Condition)
    fun c added => c.Basic scope ∧ c.slots = added.map (·.name)
  := by
  apply issues_bind (issues_callParts name args)
  rintro ⟨base, h', es⟩ before ⟨hh', hbase, hfit, hslots⟩
  obtain rfl : h = h' := by
    rw [hh] at hh'
    apply Option.some.inj hh'
  apply issues_pure
  rw [List.append_nil]
  use .call hcondition hfit, hslots

/-- A call that is a condition mentions the parameters issued for it. -/
theorem issues_conditionCall (name : String) (args : List Operand) :
  Issues scope.descriptor.IsBase (conditionCall scope name args) fun c added =>
    c.Basic scope ∧ c.slots = added.map (·.name)
  := by
  unfold conditionCall
  apply issues_bind_silent (silent_helper name)
  intro h hh
  split
  · rename_i hcondition
    split
    · apply issues_standingCall hh hcondition
    · apply issues_bind_silent (silent_fold? name args)
      rintro (_ | v) _
      · apply issues_standingCall hh hcondition
      · apply issues_truthOf
  · apply issues_fail

/-- A condition mentions the parameters issued for it. -/
theorem issues_predicate (p : Predicate) :
  Issues scope.descriptor.IsBase (predicate scope p) fun c added => c.slots = added.map (·.name)
  := by
  induction p using predicate.induct with
  | case1 b =>
      rw [predicate]
      apply issues_pure
      rfl
  | case2 column =>
      rw [predicate]
      apply (issues_member column true).mono fun _ _ h => h.2
  | case3 l op r =>
      rw [predicate]
      apply (issues_comparison l op r).mono fun _ _ h => h.2
  | case4 name args =>
      rw [predicate]
      apply (issues_conditionCall name args).mono fun _ _ h => h.2
  | case5 column =>
      rw [predicate]
      apply (issues_member column false).mono fun _ _ h => h.2
  | case6 b =>
      rw [predicate]
      apply issues_pure
      rfl
  | case7 p hmember hconstant ih =>
      rw [predicate.eq_7 scope p hmember hconstant]
      apply issues_bind ih
      intro c before hslots
      apply issues_pure
      rw [List.append_nil]
      apply hslots
  | case8 logic p q ihp ihq =>
      rw [predicate]
      apply issues_bind ihp
      intro c before hslots
      apply issues_bind ihq
      intro d after hslots'
      apply issues_pure
      rw [Condition.slots, hslots, hslots', List.append_nil, List.map_append]

end Translate

namespace Predicate

variable {p : Predicate} {scope : Scope} {n : Nat}

/-- A translation numbers the parameters that its condition mentions from the counter on,
which moves past them. -/
theorem translate_ok {c : Condition} {params : List Param}
    (h : (p.translate scope n).outcome = .ok (c, params)) :
  (p.translate scope n).counter = n + params.length ∧
    Numbered scope.descriptor.IsBase n params ∧ c.slots = params.map (·.name)
  := by
  unfold translate at h ⊢
  cases hrun : (Translate.predicate scope p).run { counter := n } with
  | mk result t =>
      rw [hrun] at h
      cases result with
      | error u => cases h
      | ok c' =>
          obtain ⟨added, hparams, hcounter, hnumbered, hslots⟩ :=
            Translate.issues_predicate p _ c' t hrun
          cases h
          rw [hparams, List.nil_append]
          use hcounter, hnumbered, hslots

/-- A predicate without SQL leaves the counter as it was. -/
theorem translate_error {u : Untranslatable} (h : (p.translate scope n).outcome = .error u) :
  (p.translate scope n).counter = n
  := by
  unfold translate at h ⊢
  split at h
  · cases h
  · rfl

variable {rules : TranslationRules} {d : Descriptor} {tableAlias : Option String}

/-- A predicate with SQL comes to its text and parameters under any policy. -/
theorem compile_of_ok {c : Condition} {params : List Param}
    (h : (p.translate ⟨d, tableAlias, rules.opaqueTimestamps⟩ n).outcome = .ok (c, params)) :
  p.compile rules d tableAlias n =
    ⟨.ok ⟨c.text, params⟩, [], n + params.length,
      (p.translate ⟨d, tableAlias, rules.opaqueTimestamps⟩ n).computed⟩
  := by
  simp only [compile, h, (translate_ok h).1]

/-- A predicate without SQL comes to what the policy makes of it. -/
theorem compile_of_error {u : Untranslatable}
    (h : (p.translate ⟨d, tableAlias, rules.opaqueTimestamps⟩ n).outcome = .error u) :
  p.compile rules d tableAlias n =
    ⟨(rules.degrade d.table u.reason).1, (rules.degrade d.table u.reason).2, n,
      (p.translate ⟨d, tableAlias, rules.opaqueTimestamps⟩ n).computed⟩
  := by
  simp only [compile, h, translate_error h]

/-- The parameters of a fragment are numbered from the counter on, which moves past them. -/
theorem compile_ok {f : Fragment} (h : (p.compile rules d tableAlias n).result = .ok f) :
  (p.compile rules d tableAlias n).counter = n + f.params.length ∧
    Numbered d.IsBase n f.params
  := by
  cases hout : (p.translate ⟨d, tableAlias, rules.opaqueTimestamps⟩ n).outcome with
  | ok made =>
      obtain ⟨c, params⟩ := made
      rw [compile_of_ok hout] at h ⊢
      cases h
      use rfl, (translate_ok hout).2.1
  | error u =>
      rw [compile_of_error hout] at h ⊢
      unfold TranslationRules.degrade at h
      split at h
      · cases h
      · cases h
        use rfl, .nil

/-- A predicate that is an error leaves the counter as it was. -/
theorem compile_error {e : Error} (h : (p.compile rules d tableAlias n).result = .error e) :
  (p.compile rules d tableAlias n).counter = n
  := by
  cases hout : (p.translate ⟨d, tableAlias, rules.opaqueTimestamps⟩ n).outcome with
  | ok made =>
      rw [compile_of_ok hout] at h
      cases h
  | error u => rw [compile_of_error hout]

end Predicate

end EntityStore
