import EntityStore.Proofs.Translation.Naming
import EntityStore.Proofs.Translation.Failure

/-!
# Values that do not show in the text

A value that is compared with a column, or is an argument of a call with a column, becomes a
parameter.  Two predicates that differ in such values only come to one text with the same
names of parameters, or both have no SQL.  `Twin changes m m'` says of two steps that they
do the same but for the values of some parameters.
-/

namespace EntityStore

open Sql

/-- An operand that is a value and the operand with another value in its place, with both
values.  Either both are null or neither is. -/
inductive Operand.Exchanged : Operand → Operand → Value × Value → Prop
  | value {v w : Value} (h : v.isNull = w.isNull) : Exchanged (.value v) (.value w) (v, w)
  | computed {v w : Value} (h : v.isNull = w.isNull) :
      Exchanged (.computed v) (.computed w) (v, w)

namespace Operand

/-- Whether an operand mentions a column. -/
def mentionsColumn (arg : Operand) : Bool :=
  arg.firstColumn?.isSome

/-- The kinds of the arguments of a call that mentions a column.  No kinds are told of other
calls, nor of one of an unknown helper. -/
def standingKinds (name : String) (args : List Operand) : List ArgumentKind :=
  if mentionColumn args then ((Helper.ofName? name).map Helper.args).getD [] else []

mutual

/-- Two operands that differ in values only that are expressions among the arguments of calls
with a column, at any depth, with the values in which they differ. -/
inductive Varied : Operand → Operand → List (Value × Value) → Prop
  | column (name : String) : Varied (.column name) (.column name) []
  | value (v : Value) : Varied (.value v) (.value v) []
  | computed (v : Value) : Varied (.computed v) (.computed v) []
  | call (name : String) {args args' : List Operand} {changes : List (Value × Value)}
      (h : VariedArgs (standingKinds name args) args args' changes) :
      Varied (.call name args) (.call name args') changes

/-- Two lists of arguments that differ in such values, where those that are expressions by
their kinds can be values themselves. -/
inductive VariedArgs :
    List ArgumentKind → List Operand → List Operand → List (Value × Value) → Prop
  | nil {kinds : List ArgumentKind} : VariedArgs kinds [] [] []
  | within {kinds : List ArgumentKind} {arg arg' : Operand} {args args' : List Operand}
      {changes changes' : List (Value × Value)} (h : Varied arg arg' changes)
      (rest : VariedArgs kinds.tail args args' changes') :
      VariedArgs kinds (arg :: args) (arg' :: args') (changes ++ changes')
  | exchanged {kinds : List ArgumentKind} {arg arg' : Operand} {args args' : List Operand}
      {change : Value × Value} {changes : List (Value × Value)}
      (h : Exchanged arg arg' change) (rest : VariedArgs kinds args args' changes) :
      VariedArgs (.expr :: kinds) (arg :: args) (arg' :: args') (change :: changes)

end

end Operand

/-- Two predicates of one form that differ in values only that are compared with an operand
that mentions a column, or are arguments of calls with one.  The values in which they differ
come in the order in which their parameters are numbered. -/
inductive Predicate.Varied : Predicate → Predicate → List (Value × Value) → Prop
  | constant (b : Bool) : Varied (.constant b) (.constant b) []
  | member (column : String) : Varied (.member column) (.member column) []
  | compare {l l' r r' : Operand} {changes changes' : List (Value × Value)}
      (hl : l.Varied l' changes) (op : CompareOp) (hr : r.Varied r' changes') :
      Varied (.compare l op r) (.compare l' op r') (changes ++ changes')
  | compareRight {l l' r r' : Operand} {changes : List (Value × Value)} {change : Value × Value}
      (hl : l.Varied l' changes) (hcolumn : l.mentionsColumn = true) (op : CompareOp)
      (hr : r.Exchanged r' change) :
      Varied (.compare l op r) (.compare l' op r') (changes ++ [change])
  | compareLeft {l l' r r' : Operand} {changes : List (Value × Value)} {change : Value × Value}
      (hl : l.Exchanged l' change) (op : CompareOp) (hr : r.Varied r' changes)
      (hcolumn : r.mentionsColumn = true) :
      Varied (.compare l op r) (.compare l' op r') (changes ++ [change])
  | call (name : String) {args args' : List Operand} {changes : List (Value × Value)}
      (h : Operand.VariedArgs (Operand.standingKinds name args) args args' changes) :
      Varied (.call name args) (.call name args') changes
  | not {p q : Predicate} {changes : List (Value × Value)} (h : Varied p q changes) :
      Varied p.not q.not changes
  | combine (logic : Logic) {p q p' q' : Predicate} {changes changes' : List (Value × Value)}
      (h : Varied p p' changes) (h' : Varied q q' changes') :
      Varied (.combine logic p q) (.combine logic p' q') (changes ++ changes')

/-- Parameters with the same names whose values differ in `changes` only, which are taken in
order. -/
inductive Interwoven : List (Value × Value) → List Param → List Param → Prop
  | nil : Interwoven [] [] []
  | same (p : Param) {changes : List (Value × Value)} {params params' : List Param}
      (rest : Interwoven changes params params') :
      Interwoven changes (p :: params) (p :: params')
  | changed (name : String) {v w : Value} {changes : List (Value × Value)}
      {params params' : List Param} (rest : Interwoven changes params params') :
      Interwoven ((v, w) :: changes) (⟨name, v⟩ :: params) (⟨name, w⟩ :: params')

namespace Interwoven

variable {changes changes' : List (Value × Value)} {params params' more more' : List Param}

/-- Parameters in which nothing has changed. -/
theorem refl (params : List Param) :
  Interwoven [] params params
  := by
  induction params with
  | nil => apply nil
  | cons p _ ih => apply same p ih

/-- More parameters come behind. -/
theorem append (h : Interwoven changes params params') (h' : Interwoven changes' more more') :
  Interwoven (changes ++ changes') (params ++ more) (params' ++ more')
  := by
  induction h with
  | nil => apply h'
  | same p _ ih => apply same p ih
  | changed name _ ih => apply changed name ih

/-- The names are the same. -/
theorem map_name_eq (h : Interwoven changes params params') :
  params.map (·.name) = params'.map (·.name)
  := by
  induction h with
  | nil => rfl
  | same p _ ih => rw [List.map_cons, List.map_cons, ih]
  | changed name _ ih => rw [List.map_cons, List.map_cons, ih]

end Interwoven

namespace Operand

/-- The kinds that are told of the arguments of a call are those of its helper, if any. -/
theorem standingKinds_eq {name : String} {helper : Helper}
    (h : Helper.ofName? name = some helper) (args : List Operand) :
  standingKinds name args = [] ∨ standingKinds name args = helper.args
  := by
  unfold standingKinds
  rw [h]
  split
  · right; rfl
  · left; rfl

/-! ### Columns of varied operands -/

mutual

/-- Operands that are varied mention the same first column. -/
theorem Varied.firstColumn?_eq :
    ∀ {arg arg' : Operand} {changes : List (Value × Value)}, arg.Varied arg' changes →
      arg.firstColumn? = arg'.firstColumn?
  | _, _, _, .column _ => rfl
  | _, _, _, .value _ => rfl
  | _, _, _, .computed _ => rfl
  | _, _, _, .call name h => by
      rw [firstColumn?, firstColumn?]
      apply VariedArgs.firstColumnOf?_eq h

/-- Arguments that are varied mention the same first column. -/
theorem VariedArgs.firstColumnOf?_eq :
    ∀ {kinds : List ArgumentKind} {args args' : List Operand} {changes : List (Value × Value)},
      VariedArgs kinds args args' changes → firstColumnOf? args = firstColumnOf? args'
  | _, _, _, _, .nil => rfl
  | _, _, _, _, .within h rest => by
      rw [firstColumnOf?, firstColumnOf?, h.firstColumn?_eq, VariedArgs.firstColumnOf?_eq rest]
  | _, _, _, _, .exchanged h rest => by
      rw [firstColumnOf?, firstColumnOf?, VariedArgs.firstColumnOf?_eq rest]
      cases h <;> rfl

end

/-- As many arguments are varied as there are. -/
theorem VariedArgs.length_eq {kinds : List ArgumentKind} {args args' : List Operand}
    {changes : List (Value × Value)} (h : VariedArgs kinds args args' changes) :
  args.length = args'.length
  := by
  induction args generalizing kinds args' changes with
  | nil => cases h; rfl
  | cons arg args ih =>
      cases h with
      | within _ rest => rw [List.length_cons, List.length_cons, ih rest]
      | exchanged _ rest => rw [List.length_cons, List.length_cons, ih rest]

mutual

/-- Nothing can be varied in an operand that mentions no column. -/
theorem Varied.eq_of_none :
    ∀ {arg arg' : Operand} {changes : List (Value × Value)}, arg.Varied arg' changes →
      arg.firstColumn? = none → arg = arg' ∧ changes = []
  | _, _, _, .column _, h => by cases h
  | _, _, _, .value _, _ => ⟨rfl, rfl⟩
  | _, _, _, .computed _, _ => ⟨rfl, rfl⟩
  | _, _, _, @Varied.call name args _ _ h, hnone => by
      rw [firstColumn?] at hnone
      have hkinds : standingKinds name args = [] := by
        simp [standingKinds, mentionColumn, hnone]
      rw [hkinds] at h
      obtain ⟨rfl, rfl⟩ := VariedArgs.eq_of_none h hnone
      exact ⟨rfl, rfl⟩

/-- Nothing can be varied in arguments that mention no column, if no kinds are told. -/
theorem VariedArgs.eq_of_none :
    ∀ {args args' : List Operand} {changes : List (Value × Value)},
      VariedArgs [] args args' changes → firstColumnOf? args = none → args = args' ∧ changes = []
  | _, _, _, .nil, _ => ⟨rfl, rfl⟩
  | _, _, _, .within h rest, hnone => by
      rw [firstColumnOf?, Option.or_eq_none_iff] at hnone
      obtain ⟨rfl, rfl⟩ := Varied.eq_of_none h hnone.1
      obtain ⟨rfl, rfl⟩ := VariedArgs.eq_of_none rest hnone.2
      exact ⟨rfl, rfl⟩

end

end Operand

namespace Translate

variable {α β : Type} {changes changes' : List (Value × Value)} {scope : Scope}

/-! ### Steps that fail -/

/-- Whether a step fails from every trail. -/
def Refused (m : Translate α) : Prop :=
  ∀ t, ∃ u t', m t = (.error u, t')

/-- Failing. -/
theorem refused_fail (u : Untranslatable) :
  Refused (fail u : Translate α)
  := by
  intro t
  use u, t
  rfl

/-- Steps fail if the first does. -/
theorem Refused.bind {m : Translate α} (hm : Refused m) (f : α → Translate β) :
  Refused (m >>= f)
  := by
  intro t
  obtain ⟨u, t', hrun⟩ := hm t
  use u, t'
  rw [bind_apply, hrun]

/-- Steps fail if those behind the first do. -/
theorem refused_bind {f : α → Translate β} (m : Translate α) (hf : ∀ a, Refused (f a)) :
  Refused (m >>= f)
  := by
  intro t
  rw [bind_apply]
  obtain ⟨result, t'⟩ := m t
  cases result with
  | error u => use u, t'
  | ok a => apply hf a t'

mutual

/-- An operand that mentions a column has no value. -/
theorem refused_literal :
    ∀ arg : Operand, arg.firstColumn?.isSome = true → Refused (literal arg)
  | .value _, h => by cases h
  | .computed _, h => by cases h
  | .column name, _ => by
      rw [literal]
      apply refused_fail
  | .call name args, h => by
      rw [Operand.firstColumn?] at h
      rw [literal]
      apply refused_bind
      intro helper
      split
      · apply (refused_literals args h).bind
      · apply refused_fail

/-- Operands of which one mentions a column have no values. -/
theorem refused_literals :
    ∀ args : List Operand, (Operand.firstColumnOf? args).isSome = true → Refused (literals args)
  | [], h => by cases h
  | arg :: args, h => by
      rw [literals]
      cases harg : arg.firstColumn? with
      | some name => apply (refused_literal arg (by rw [harg]; rfl)).bind
      | none =>
          rw [Operand.firstColumnOf?, harg, Option.none_or] at h
          apply refused_bind
          intro v
          apply (refused_literals args h).bind

end

/-! ### Steps that do the same -/

/-- Two steps from trails with one counter either both fail, or both succeed with one result
and one counter.  The parameters they add then differ in `changes` only. -/
def Twin (changes : List (Value × Value)) (m m' : Translate α) : Prop :=
  ∀ t t', t.counter = t'.counter →
    (∃ u u' s s', m t = (.error u, s) ∧ m' t' = (.error u', s')) ∨
    ∃ a s s' added added', m t = (.ok a, s) ∧ m' t' = (.ok a, s') ∧ s.counter = s'.counter ∧
      s.params = t.params ++ added ∧ s'.params = t'.params ++ added' ∧
      Interwoven changes added added'

/-- A step without effect. -/
theorem twin_pure (a : α) :
  Twin [] (pure a : Translate α) (pure a)
  := by
  intro t t' ht
  right
  use a, t, t', [], [], rfl, rfl, ht
  simp [Interwoven.nil]

/-- Steps that fail. -/
theorem twin_of_refused {m m' : Translate α} (hm : Refused m) (hm' : Refused m') :
  Twin changes m m'
  := by
  intro t t' _
  left
  obtain ⟨u, s, hrun⟩ := hm t
  obtain ⟨u', s', hrun'⟩ := hm' t'
  use u, u', s, s'

/-- Steps that do the same, and then go on with a result of the first in the same way. -/
theorem twin_bind {m m' : Translate α} {f f' : α → Translate β} (hm : Twin changes m m')
    (hf : ∀ a, (∃ t t', m t = (.ok a, t')) → Twin changes' (f a) (f' a)) :
  Twin (changes ++ changes') (m >>= f) (m' >>= f')
  := by
  intro t t' ht
  rw [bind_apply, bind_apply]
  obtain ⟨u, u', s, s', hrun, hrun'⟩ | ⟨a, s, s', before, before', hrun, hrun', hs, hparams,
    hparams', hbefore⟩ := hm t t' ht
  · rw [hrun, hrun']
    left
    use u, u', s, s'
  · rw [hrun, hrun']
    obtain ⟨u, u', r, r', hsecond, hsecond'⟩ | ⟨b, r, r', after, after', hsecond, hsecond', hr,
      hmore, hmore', hafter⟩ := hf a ⟨t, s, hrun⟩ s s' hs
    · left
      use u, u', r, r'
    · right
      use b, r, r', before ++ after, before' ++ after', hsecond, hsecond', hr
      rw [hmore, hmore', hparams, hparams', List.append_assoc, List.append_assoc]
      use rfl, rfl, hbefore.append hafter

/-- Steps that do the same, with their result changed. -/
theorem twin_map {m m' : Translate α} (hm : Twin changes m m') (f : α → β) :
  Twin changes (do return f (← m)) (do return f (← m'))
  := by
  have h : Twin (changes ++ []) (do return f (← m)) (do return f (← m')) := by
    apply twin_bind hm
    rintro a -
    apply twin_pure
  rw [List.append_nil] at h
  apply h

/-- A step that adds no parameter, and whose outcome does not depend on the trail. -/
theorem twin_of_silent {m : Translate α} (hsteady : Steady m) {post : α → Prop}
    (hsilent : Silent (fun _ => True) m post) :
  Twin [] m m
  := by
  intro t t' ht
  have hagree := hsteady t t'
  cases hrun : m t with
  | mk result s =>
      cases hrun' : m t' with
      | mk result' s' =>
          rw [hrun, hrun'] at hagree
          cases hagree with
          | error u =>
              left
              use u, u, s, s'
          | @ok a a' ha =>
              obtain rfl : a = a' := ha
              right
              obtain ⟨_, hparams, hcounter, -, rfl, -⟩ := hsilent t a s hrun
              obtain ⟨_, hparams', hcounter', -, rfl, -⟩ := hsilent t' a s' hrun'
              use a, s, s', [], [], rfl, rfl
              rw [hcounter, hcounter', ht]
              use rfl, hparams, hparams', .nil

/-- Steps behind one that adds no parameter do the same if they do for each of its results. -/
theorem twin_bind_silent {m : Translate α} {f f' : α → Translate β} (hsteady : Steady m)
    {post : α → Prop} (hsilent : Silent (fun _ => True) m post)
    (hf : ∀ a, post a → Twin changes (f a) (f' a)) :
  Twin changes (m >>= f) (m >>= f')
  := by
  have h : Twin ([] ++ changes) (m >>= f) (m >>= f') := by
    apply twin_bind (twin_of_silent hsteady hsilent)
    rintro a ⟨t, t', hrun⟩
    obtain ⟨-, -, -, -, -, hpost⟩ := hsilent t a t' hrun
    apply hf a hpost
  apply h

/-- The next parameter has one name, whatever its value. -/
theorem twin_issue (base : String) {v w : Value}
    (h : ∀ name, Interwoven changes [⟨name, v⟩] [⟨name, w⟩]) :
  Twin changes (issue base v) (issue base w)
  := by
  intro t t' ht
  have hrun (u : Value) (s : Trail) : issue base u s =
      (.ok (.param (base ++ decimalText s.counter)),
        { s with
          counter := s.counter + 1, params := s.params ++ [⟨base ++ decimalText s.counter, u⟩] }) :=
    rfl
  right
  rw [hrun, hrun, ← ht]
  exact ⟨_, _, _, _, _, rfl, rfl, rfl, rfl, rfl, h _⟩

/-- Working out a value and issuing a parameter for it. -/
theorem twin_compute (base : String) {v w : Value}
    (h : ∀ name, Interwoven changes [⟨name, v⟩] [⟨name, w⟩]) :
  Twin changes (compute v >>= issue base) (compute w >>= issue base)
  := by
  intro t t' ht
  -- What has been worked out is noted in the trails, apart from their counters and parameters.
  apply twin_issue base h { t with computed := t.computed ++ [v] }
    { t' with computed := t'.computed ++ [w] } ht

/-! ### Expressions -/

/-- An argument before others. -/
theorem twin_cons {first first' : Translate Expr} {rest rest' : Translate (List Expr)}
    (hfirst : Twin changes first first') (hrest : Twin changes' rest rest') :
  Twin (changes ++ changes')
    (do
      let e ← first
      let es ← rest
      return e :: es)
    (do
      let e ← first'
      let es ← rest'
      return e :: es)
  := by
  apply twin_bind hfirst
  rintro e -
  apply twin_map hrest

/-- An argument that must have a value: it is not varied, or it mentions a column and has
none. -/
theorem twin_of_literal {step : Value → Translate Expr} {arg arg' : Operand}
    (h : arg.Varied arg' changes) (hsteady : ∀ v, Steady (step v))
    (hsilent : ∀ v, Silent (fun _ => True) (step v) fun _ => True) :
  Twin changes (literal arg >>= step) (literal arg' >>= step)
  := by
  cases hcolumn : arg.firstColumn? with
  | some name =>
      have hcolumn' : arg'.firstColumn? = some name := by rw [← h.firstColumn?_eq, hcolumn]
      apply twin_of_refused
      · apply (refused_literal arg (by rw [hcolumn]; rfl)).bind
      · apply (refused_literal arg' (by rw [hcolumn']; rfl)).bind
  | none =>
      obtain ⟨rfl, rfl⟩ := h.eq_of_none hcolumn
      apply twin_bind_silent (steady_literal arg) (silent_literal arg)
      intro v _
      apply twin_of_silent (hsteady v) (hsilent v)

/-- An integer argument. -/
theorem twin_integerArgument (helper : Helper) {arg arg' : Operand}
    (h : arg.Varied arg' changes) :
  Twin changes (integerArgument helper arg) (integerArgument helper arg')
  := by
  apply twin_of_literal h
  · intro v
    split
    · apply alike_pure rfl
    · apply alike_fail
  · intro v
    split
    · apply issues_pure ⟨rfl, trivial⟩
    · apply issues_fail

/-- An argument that is a name. -/
theorem twin_nameArgument (helper : Helper) {arg arg' : Operand} (h : arg.Varied arg' changes) :
  Twin changes (nameArgument helper arg) (nameArgument helper arg')
  := by
  apply twin_of_literal h
  · intro v
    split
    · split
      · apply alike_pure rfl
      · apply alike_fail
    · apply alike_fail
  · intro v
    split
    · split
      · apply issues_pure ⟨rfl, trivial⟩
      · apply issues_fail
    · apply issues_fail

/-- A value that is an expression becomes a parameter. -/
theorem twin_exchanged (base : String) {arg arg' : Operand} {change : Value × Value}
    (h : arg.Exchanged arg' change) :
  Twin [change] (expression scope base arg) (expression scope base arg')
  := by
  cases h with
  | value =>
      rw [expression, expression]
      apply twin_issue base
      intro name
      apply Interwoven.changed name .nil
  | computed =>
      rw [expression, expression]
      apply twin_compute base
      intro name
      apply Interwoven.changed name .nil

/-- A call without columns is evaluated if its helper can be; any other stands in the SQL. -/
theorem twin_unlessFolded {name : String} {args args' : List Operand}
    (h : Operand.VariedArgs (Operand.standingKinds name args) args args' changes)
    {standing standing' : Translate α} (hstanding : Twin changes standing standing')
    {folded : Value → Translate α} (hfolded : ∀ v, Twin [] (folded v) (folded v)) :
  Twin changes
    (do
      let v? ← if Operand.mentionColumn args then pure none else fold? name args
      match v? with
      | some v => folded v
      | none => standing)
    (do
      let v? ← if Operand.mentionColumn args' then pure none else fold? name args'
      match v? with
      | some v => folded v
      | none => standing')
  := by
  have hmention : Operand.mentionColumn args' = Operand.mentionColumn args := by
    rw [Operand.mentionColumn, Operand.mentionColumn, h.firstColumnOf?_eq]
  rw [hmention]
  split
  · apply hstanding
  · rename_i hnot
    have hnone : Operand.firstColumnOf? args = none := by simpa [Operand.mentionColumn] using hnot
    have hkinds : Operand.standingKinds name args = [] := by
      simp [Operand.standingKinds, hnot]
    rw [hkinds] at h
    obtain ⟨rfl, rfl⟩ := h.eq_of_none hnone
    apply twin_bind_silent (steady_fold? name args) (silent_fold? name args)
    rintro (_ | v) -
    · apply hstanding
    · apply hfolded v

mutual

/-- Operands that are varied stand for one expression. -/
theorem twin_expression (base : String) :
    ∀ {arg arg' : Operand} {changes : List (Value × Value)}, arg.Varied arg' changes →
      Twin changes (expression scope base arg) (expression scope base arg')
  | _, _, _, .column name => by
      rw [expression]
      apply twin_bind_silent (steady_resolve name) (silent_resolve name)
      intro found _
      apply twin_pure
  | _, _, _, .value v => by
      rw [expression]
      apply twin_issue base
      intro name
      apply Interwoven.refl
  | _, _, _, .computed v => by
      rw [expression]
      apply twin_compute base
      intro name
      apply Interwoven.refl
  | _, _, changes, @Operand.Varied.call name args args' _ h => by
      have hcall : Twin changes
          (do
            let helper ← callee scope name args.length
            let es ← arguments scope base helper helper.args args
            return Expr.call helper es)
          (do
            let helper ← callee scope name args'.length
            let es ← arguments scope base helper helper.args args'
            return Expr.call helper es) := by
        rw [← h.length_eq]
        apply twin_bind_silent (steady_callee name args.length) (silent_callee name args.length)
        rintro helper ⟨hhelper, hlength⟩
        apply twin_map (twin_arguments base helper h helper.args hlength.symm
          (Operand.standingKinds_eq hhelper args))
      rw [expression, expression]
      apply twin_unlessFolded h hcall
      intro v
      apply twin_issue base
      intro name
      apply Interwoven.refl

/-- Arguments that are varied stand for the same expressions. -/
theorem twin_arguments (base : String) (helper : Helper) :
    ∀ {told : List ArgumentKind} {args args' : List Operand} {changes : List (Value × Value)},
      Operand.VariedArgs told args args' changes →
      ∀ kinds : List ArgumentKind, kinds.length = args.length → told = [] ∨ told = kinds →
        Twin changes (arguments scope base helper kinds args)
          (arguments scope base helper kinds args')
  | _, _, _, _, .nil, [], _, _ => by
      rw [arguments]
      · apply twin_pure
      · simp
  | _, _, _, _, .within h rest, kind :: kinds, hlength, htold => by
      have hrest := twin_arguments base helper rest kinds (by simpa using hlength) (by
        obtain rfl | rfl := htold
        · left; rfl
        · right; rfl)
      cases kind with
      | expr =>
          rw [arguments, arguments]
          apply twin_cons (twin_expression base h) hrest
      | int =>
          rw [arguments, arguments]
          apply twin_cons (twin_integerArgument helper h) hrest
      | ident =>
          rw [arguments, arguments]
          apply twin_cons (twin_nameArgument helper h) hrest
  | _, _, _, _, .exchanged h rest, kinds, hlength, htold => by
      obtain hnone | rfl := htold
      · cases hnone
      · have hrest := twin_arguments base helper rest _ (by simpa using hlength) (.inr rfl)
        rw [arguments, arguments]
        apply twin_cons (twin_exchanged base h) hrest

end

/-- What parameters are named after is told by the first column. -/
theorem baseOf_congr {args args' : List Operand}
    (h : Operand.firstColumnOf? args = Operand.firstColumnOf? args') :
  baseOf scope args = baseOf scope args'
  := by rw [baseOf, baseOf, h]

/-- A call that stands in the SQL. -/
theorem twin_callParts {name : String} {args args' : List Operand}
    (h : Operand.VariedArgs (Operand.standingKinds name args) args args' changes) :
  Twin changes (callParts scope name args) (callParts scope name args')
  := by
  rw [callParts, callParts, ← baseOf_congr h.firstColumnOf?_eq, ← h.length_eq]
  apply twin_bind_silent (steady_baseOf args) (silent_baseOf args)
  intro base _
  apply twin_bind_silent (steady_callee name args.length) (silent_callee name args.length)
  rintro helper ⟨hhelper, hlength⟩
  apply twin_map (twin_arguments base helper h helper.args hlength.symm
    (Operand.standingKinds_eq hhelper args))

/-! ### Conditions -/

/-- Operands that are varied are the same side of a comparison. -/
theorem twin_side {arg arg' : Operand} (h : arg.Varied arg' changes) :
  Twin changes (side scope arg) (side scope arg')
  := by
  cases h with
  | column name =>
      apply twin_bind_silent (steady_resolve name) (silent_resolve name)
      intro found _
      apply twin_pure
  | value v => apply twin_pure
  | computed v =>
      apply twin_bind_silent (steady_compute v) (silent_compute v)
      intro v _
      apply twin_pure
  | call name h =>
      apply twin_unlessFolded h
      · apply twin_map (twin_callParts h)
      · intro v
        apply twin_pure

/-- A side that mentions a column is an expression. -/
theorem exists_expr_of_side {arg : Operand} (h : arg.mentionsColumn = true) {t t' : Trail}
    {s : Side} (hrun : side scope arg t = (.ok s, t')) :
  ∃ e base, s = .expr e base
  := by
  cases arg with
  | value v => cases h
  | computed v => cases h
  | column name =>
      obtain ⟨found, t₁, -, hpure⟩ := exists_of_bind_eq_ok hrun
      cases hpure
      exact ⟨_, _, rfl⟩
  | call name args =>
      have hmention : Operand.mentionColumn args = true := h
      rw [side, hmention, if_pos rfl, pure_bind] at hrun
      obtain ⟨parts, t₁, -, hpure⟩ := exists_of_bind_eq_ok hrun
      cases hpure
      exact ⟨_, _, rfl⟩

/-- An expression is compared by one operator with two values if both or neither is null. -/
theorem twin_against (e : Expr) (base : String) (op : CompareOp) {v w : Value}
    (hnull : v.isNull = w.isNull) (h : ∀ name, Interwoven changes [⟨name, v⟩] [⟨name, w⟩]) :
  Twin changes (against e base op v) (against e base op w)
  := by
  have hoperator : operatorFor op v = operatorFor op w := by
    rw [operatorFor, operatorFor, hnull]
  rw [against, against, hoperator]
  apply twin_map (twin_issue base h)

/-- Steps behind a side that is a value. -/
theorem twin_bind_exchanged {arg arg' : Operand} {v w : Value} (h : arg.Exchanged arg' (v, w))
    {f f' : Side → Translate α} (hf : Twin changes (f (.value v)) (f' (.value w))) :
  Twin changes (side scope arg >>= f) (side scope arg' >>= f')
  := by
  cases h with
  | value => apply hf
  | computed =>
      intro t t' ht
      apply hf { t with computed := t.computed ++ [v] }
        { t' with computed := t'.computed ++ [w] } ht

/-- Two values whose nullness is the same. -/
theorem isNull_of_exchanged {arg arg' : Operand} {v w : Value}
    (h : arg.Exchanged arg' (v, w)) :
  v.isNull = w.isNull
  := by cases h <;> assumption

/-- The values of a parameter are the ones in which the parameters differ. -/
theorem interwoven_exchanged (v w : Value) (name : String) :
  Interwoven [(v, w)] [⟨name, v⟩] [⟨name, w⟩]
  := .changed name .nil

/-- A comparison whose sides are varied. -/
theorem twin_comparison {l l' r r' : Operand} (hl : l.Varied l' changes) (op : CompareOp)
    (hr : r.Varied r' changes') :
  Twin (changes ++ changes') (comparison scope l op r) (comparison scope l' op r')
  := by
  have hagainst (e : Expr) (base : String) (op : CompareOp) (v : Value) :
      Twin [] (against e base op v) (against e base op v) := by
    apply twin_against e base op rfl
    intro name
    apply Interwoven.refl
  rw [comparison, comparison]
  apply twin_bind (twin_side hl)
  rintro s -
  rw [← List.append_nil changes']
  apply twin_bind (twin_side hr)
  rintro s' -
  cases s with
  | expr e base =>
      cases s' with
      | expr f base' => apply twin_pure
      | value v => apply hagainst
  | value v =>
      cases s' with
      | expr e base => apply hagainst
      | value w =>
          dsimp only
          split
          · apply twin_pure
          · apply twin_of_refused (refused_fail _) (refused_fail _)

/-- A comparison of a side with a column and another value on the right. -/
theorem twin_comparison_right {l l' r r' : Operand} {change : Value × Value}
    (hl : l.Varied l' changes) (hcolumn : l.mentionsColumn = true) (op : CompareOp)
    (hr : r.Exchanged r' change) :
  Twin (changes ++ [change]) (comparison scope l op r) (comparison scope l' op r')
  := by
  obtain ⟨v, w⟩ := change
  rw [comparison, comparison]
  apply twin_bind (twin_side hl)
  rintro s ⟨t, t', hrun⟩
  obtain ⟨e, base, rfl⟩ := exists_expr_of_side hcolumn hrun
  apply twin_bind_exchanged hr
  apply twin_against e base op (isNull_of_exchanged hr) (interwoven_exchanged v w)

/-- A comparison of another value on the left with a side with a column. -/
theorem twin_comparison_left {l l' r r' : Operand} {change : Value × Value}
    (hl : l.Exchanged l' change) (op : CompareOp) (hr : r.Varied r' changes)
    (hcolumn : r.mentionsColumn = true) :
  Twin (changes ++ [change]) (comparison scope l op r) (comparison scope l' op r')
  := by
  obtain ⟨v, w⟩ := change
  rw [comparison, comparison]
  apply twin_bind_exchanged hl
  apply twin_bind (twin_side hr)
  rintro s ⟨t, t', hrun⟩
  obtain ⟨e, base, rfl⟩ := exists_expr_of_side hcolumn hrun
  apply twin_against e base op.flipped (isNull_of_exchanged hl) (interwoven_exchanged v w)

/-- A call that is a condition. -/
theorem twin_conditionCall {name : String} {args args' : List Operand}
    (h : Operand.VariedArgs (Operand.standingKinds name args) args args' changes) :
  Twin changes (conditionCall scope name args) (conditionCall scope name args')
  := by
  apply twin_bind_silent (steady_helper name) (silent_helper name)
  intro helper _
  split
  · apply twin_unlessFolded h
    · apply twin_map (twin_callParts h)
    · intro v
      split
      · apply twin_pure
      · apply twin_of_refused (refused_fail _) (refused_fail _)
  · apply twin_of_refused (refused_fail _) (refused_fail _)

/-- A column of truth values. -/
theorem twin_member (column : String) (expected : Bool) :
  Twin [] (member scope column expected) (member scope column expected)
  := by
  apply twin_bind_silent (steady_resolve column) (silent_resolve column)
  rintro ⟨declared, type⟩ -
  dsimp only
  split
  · apply twin_pure
  · apply twin_of_refused (refused_fail _) (refused_fail _)

/-- Predicates that are varied become one condition. -/
theorem twin_predicate {p q : Predicate} (h : p.Varied q changes) :
  Twin changes (predicate scope p) (predicate scope q)
  := by
  induction h with
  | constant b =>
      rw [predicate]
      apply twin_pure
  | member column =>
      rw [predicate]
      apply twin_member
  | compare hl op hr =>
      rw [predicate, predicate]
      apply twin_comparison hl op hr
  | compareRight hl hcolumn op hr =>
      rw [predicate, predicate]
      apply twin_comparison_right hl hcolumn op hr
  | compareLeft hl op hr hcolumn =>
      rw [predicate, predicate]
      apply twin_comparison_left hl op hr hcolumn
  | call name h =>
      rw [predicate, predicate]
      apply twin_conditionCall h
  | not h ih =>
      cases h with
      | constant b =>
          rw [predicate]
          apply twin_pure
      | member column =>
          rw [predicate]
          apply twin_member
      | _ => apply twin_map ih
  | combine logic _ _ ih ih' =>
      rw [predicate, predicate]
      apply twin_bind ih
      rintro c -
      apply twin_map ih'

end Translate

/-- What becomes of a predicate on a table without SQL under the rules: an error, or the
condition that holds for no row and a report. -/
def Compiled.Degraded (rules : TranslationRules) (table : String) (c : Compiled) : Prop :=
  ∃ reason, (c.result, c.events) = rules.degrade table reason

/-- Two predicates that differ in values only that are compared with an operand with a column,
or are expressions among the arguments of calls with one, either both have no SQL and leave
the counter, or come to one text with the same names of parameters and the same counter.  The
values of the parameters are the same but for those values. -/
theorem Predicate.compile_varied {p q : Predicate} {changes : List (Value × Value)}
    (h : p.Varied q changes) (rules : TranslationRules) (d : Descriptor)
    (tableAlias : Option String) (n : Nat) :
  let c := p.compile rules d tableAlias n
  let c' := q.compile rules d tableAlias n
  (c.Degraded rules d.table ∧ c'.Degraded rules d.table ∧ c.counter = n ∧ c'.counter = n) ∨
    ∃ f f', c.result = .ok f ∧ c'.result = .ok f' ∧ c.events = [] ∧ c'.events = [] ∧
      f.sql = f'.sql ∧ f.params.map (·.name) = f'.params.map (·.name) ∧ c.counter = c'.counter ∧
      Interwoven changes f.params f'.params
  := by
  intro c c'
  let scope : Scope := ⟨d, tableAlias, rules.opaqueTimestamps⟩
  have htwin : Translate.Twin changes (Translate.predicate scope p) (Translate.predicate scope q) :=
    Translate.twin_predicate h
  obtain ⟨u, u', s, s', hrun, hrun'⟩ | ⟨made, s, s', added, added', hrun, hrun', hcounter,
    hparams, hparams', hadded⟩ := htwin { counter := n } { counter := n } rfl
  · left
    have hout : (p.translate scope n).outcome = .error u := by
      simp only [translate, ExceptT.run, hrun]
    have hout' : (q.translate scope n).outcome = .error u' := by
      simp only [translate, ExceptT.run, hrun']
    have hc : c = _ := compile_of_error hout
    have hc' : c' = _ := compile_of_error hout'
    rw [hc, hc']
    exact ⟨⟨u.reason, rfl⟩, ⟨u'.reason, rfl⟩, rfl, rfl⟩
  · right
    have hout : p.translate scope n = ⟨.ok (made, s.params), s.counter, s.computed⟩ :=
      translate_of_run hrun
    have hout' : q.translate scope n = ⟨.ok (made, s'.params), s'.counter, s'.computed⟩ :=
      translate_of_run hrun'
    have hc : c = ⟨.ok ⟨made.text, s.params⟩, [], s.counter, s.computed⟩ := by
      simp only [c, compile, scope, hout]
    have hc' : c' = ⟨.ok ⟨made.text, s'.params⟩, [], s'.counter, s'.computed⟩ := by
      simp only [c', compile, scope, hout']
    rw [List.nil_append] at hparams hparams'
    rw [← hparams, ← hparams'] at hadded
    rw [hc, hc']
    exact ⟨_, _, rfl, rfl, rfl, rfl, rfl, hadded.map_name_eq, hcounter, hadded⟩

/-- Two values in nested calls and one beside them, of which one is a text with a quote and a
comment in it: the text of the condition stays the same. -/
theorem Predicate.compile_least_mean :
  let d : Descriptor :=
    { table := "Item", typeName := "Item", columns := [{ name := "Price", type := .real }] }
  let p : Predicate := .compare (.computed (.int 3)) .ge
    (.call "min" [.value (.int 1), .call "avg" [.column "Price", .computed (.int 2)]])
  let q : Predicate := .compare (.computed (.text "' OR 1 = 1 --")) .ge
    (.call "min" [.value (.text "1"), .call "avg" [.column "Price", .computed (.double .nan)]])
  let changes : List (Value × Value) :=
    [(.int 1, .text "1"), (.int 2, .double .nan), (.int 3, .text "' OR 1 = 1 --")]
  let sql := "MIN(@Price0, ((Price + @Price1) / 2.0)) <= @Price2"
  let params : List Param := [⟨"Price0", .int 1⟩, ⟨"Price1", .int 2⟩, ⟨"Price2", .int 3⟩]
  let params' : List Param :=
    [⟨"Price0", .text "1"⟩, ⟨"Price1", .double .nan⟩, ⟨"Price2", .text "' OR 1 = 1 --"⟩]
  p.Varied q changes ∧ (p.compile {} d none 0).result = .ok ⟨sql, params⟩ ∧
    (q.compile {} d none 0).result = .ok ⟨sql, params'⟩ ∧ Interwoven changes params params'
  := by
  intro d p q changes sql params params'
  have hprice : Operand.Exchanged (.computed (.int 2)) (.computed (.double .nan))
      (.int 2, .double .nan) := .computed rfl
  have hone : Operand.Exchanged (.value (.int 1)) (.value (.text "1"))
      (.int 1, .text "1") := .value rfl
  have hthree : Operand.Exchanged (.computed (.int 3)) (.computed (.text "' OR 1 = 1 --"))
      (.int 3, .text "' OR 1 = 1 --") := .computed rfl
  have hmean : Operand.Varied (.call "avg" [.column "Price", .computed (.int 2)])
      (.call "avg" [.column "Price", .computed (.double .nan)]) [(.int 2, .double .nan)] := by
    apply Operand.Varied.call
    apply Operand.VariedArgs.within (.column "Price")
    apply Operand.VariedArgs.exchanged hprice .nil
  have hleast : Operand.Varied
      (.call "min" [.value (.int 1), .call "avg" [.column "Price", .computed (.int 2)]])
      (.call "min" [.value (.text "1"), .call "avg" [.column "Price", .computed (.double .nan)]])
      [(.int 1, .text "1"), (.int 2, .double .nan)] := by
    apply Operand.Varied.call
    show Operand.VariedArgs [.expr, .expr] _ _ _
    apply Operand.VariedArgs.exchanged hone
    apply Operand.VariedArgs.within hmean .nil
  have hvaried : p.Varied q changes :=
    .compareLeft hthree .ge hleast rfl
  have hp : (p.compile {} d none 0).result = .ok ⟨sql, params⟩ := rfl
  have hq : (q.compile {} d none 0).result = .ok ⟨sql, params'⟩ := rfl
  use hvaried, hp, hq
  obtain ⟨⟨reason, hdegraded⟩, -⟩ | ⟨f, f', hf, hf', -, -, -, -, -, hparams⟩ :=
    compile_varied hvaried {} d none 0
  · have hevents : (p.compile {} d none 0).events = [] := rfl
    cases (congrArg Prod.snd hdegraded).symm.trans hevents
  · obtain rfl : f = ⟨sql, params⟩ := Except.ok.inj (hf.symm.trans hp)
    obtain rfl : f' = ⟨sql, params'⟩ := Except.ok.inj (hf'.symm.trans hq)
    apply hparams

end EntityStore
