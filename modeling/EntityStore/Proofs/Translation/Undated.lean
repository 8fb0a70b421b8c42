import EntityStore.Proofs.Translation.Dates
import EntityStore.Proofs.Translation.Forms
import Mathlib.Data.List.Chain

/-!
# SQL without date functions

Where timestamps are stored in a form that cannot be read, the SQL of a predicate calls no
date function.  Neither do the conditions that are made have a date helper in them, nor do
their texts have tokens that would call one, even if a column has the name of a date
function.  Date helpers on given values are worked out as they are everywhere.

The functions that read a timestamp from a text are called by name, like any function.  A
form without such calls has no tokens that would make one: a column, an alias or a table may
have the name of such a function, but nothing then stands in parentheses directly behind it.
-/

namespace EntityStore

open Text Sql

namespace Sql

/-! ### Tokens -/

/-- Whether a token is the name of a function that reads timestamps, in quotes or not. -/
def Token.namesDate : Token → Bool
  | .word s | .quotedName s => sameName s "date" || sameName s "julianday"
  | _ => false

/-- Whether no function that reads timestamps is called: none of their names is followed by
an opening parenthesis. -/
def Undated (ts : List Token) : Prop :=
  ts.IsChain fun t u => t.namesDate = true → u ≠ .symbol "("

variable {t u : Token} {ts us : List Token}

/-- A token that names no such function can stand before anything. -/
theorem undated_cons (ht : t.namesDate = false) (hts : Undated ts) :
  Undated (t :: ts)
  := by
  cases ts with
  | nil => apply List.IsChain.singleton
  | cons u ts =>
      apply List.IsChain.cons_cons _ hts
      simp [ht]

/-- What begins with no opening parenthesis can stand behind anything. -/
theorem Undated.append (hts : Undated ts) (hus : Undated (u :: us)) (hu : u ≠ .symbol "(") :
  Undated (ts ++ u :: us)
  := by
  apply List.IsChain.append hts hus
  intro t _ u' hu' _
  obtain rfl : u = u' := by simpa using hu'
  apply hu

/-- What stands in parentheses can stand there. -/
theorem Undated.group (h : Undated ts) :
  Undated (.symbol "(" :: (ts ++ [.symbol ")"]))
  := by
  apply undated_cons rfl
  apply h.append (.singleton _)
  decide

/-! ### Forms -/

/-- Whether a function reads timestamps. -/
def Function.readsTimestamps : Function → Bool
  | .date | .julianday => true
  | _ => false

/-- The functions that read timestamps have the names. -/
theorem Function.namesDate_name (f : Function) :
  (Token.word f.name).namesDate = f.readsTimestamps
  := by cases f <;> decide

/-- Whether a function that reads timestamps is called in a form. -/
def Form.callsDates : Form → Bool
  | leaf _ => false
  | group x => x.callsDates
  | call f x => f.readsTimestamps || x.callsDates
  | binary _ a b => a.callsDates || b.callsDates

/-- The tokens of a leaf call nothing. -/
theorem Leaf.undated (l : Leaf) :
  Undated l.tokens
  := by cases l <;> simp [Leaf.tokens, Undated]

/-- An operator names no function and does not begin with a parenthesis. -/
theorem Operator.undated (op : Operator) (hts : Undated ts) :
  op.head ≠ .symbol "(" ∧ Undated (op.head :: (op.tail ++ ts))
  := by
  constructor
  · cases op <;> decide
  · apply undated_cons
    · cases op <;> decide
    · cases op with
      | isNot => apply undated_cons (by decide) hts
      | _ => apply hts

/-- A form in which no function reads timestamps has no tokens that call one. -/
theorem Form.undated {x : Form} (h : x.callsDates = false) :
  Undated x.tokens
  := by
  induction x with
  | leaf l => apply l.undated
  | group x ih => apply (ih h).group
  | call f x ih =>
      simp only [callsDates, Bool.or_eq_false_iff] at h
      apply undated_cons
      · rw [f.namesDate_name, h.1]
      · apply (ih h.2).group
  | binary op a b iha ihb =>
      simp only [callsDates, Bool.or_eq_false_iff] at h
      obtain ⟨hhead, hop⟩ := op.undated (ihb h.2)
      apply (iha h.1).append hop hhead

end Sql

/-- A call of a helper that reads no timestamps calls no function that does, besides those
in its arguments. -/
theorem Helper.callsDates_form {h : Helper} {xs : List Form} (hreads : h.readsTimestamps = false)
    (hxs : ∀ x ∈ xs, x.callsDates = false) :
  (h.form xs).callsDates = false
  := by
  have harg (n : Nat) : (xs.getD n (.leaf (.word ""))).callsDates = false := by
    rw [List.getD_eq_getElem?_getD]
    cases hget : xs[n]? with
    | none => rfl
    | some x => apply hxs x (List.mem_of_getElem? hget)
  have ha := harg 0
  have hb := harg 1
  cases h with
  | sameDay | dateBefore | dateAfter => cases hreads
  | equalsIn =>
      simp only [form]
      split
      · rename_i a table column
        simp [Form.callsDates, hxs a (by simp)]
      · rfl
  | _ =>
      simp only [form, Form.callsDates, Form.matching, Form.mean, Form.literalPattern,
        Form.replaced, Form.anything, Function.readsTimestamps, ha, hb, Bool.or_false]

/-! ### Conditions -/

namespace Sql

mutual

/-- Whether a date helper is called in an expression. -/
def Expr.callsDates : Expr → Bool
  | .call h args => h.readsTimestamps || Expr.anyCallsDates args
  | _ => false

/-- Whether a date helper is called in one of some expressions. -/
def Expr.anyCallsDates : List Expr → Bool
  | [] => false
  | e :: es => Expr.callsDates e || Expr.anyCallsDates es

end

/-- Whether a date helper is called in a condition. -/
def Condition.callsDates : Condition → Bool
  | .constant _ | .truth .. => false
  | .compare l _ r => l.callsDates || r.callsDates
  | .call h args => h.readsTimestamps || Expr.anyCallsDates args
  | .not c => c.callsDates
  | .combine _ c d => c.callsDates || d.callsDates

end Sql

namespace Translate

variable {α : Type} {scope : Scope}

/-! ### Conditions without date helpers -/

/-- Whether every result of a step is as said. -/
abbrev Yields (m : Translate α) (about : α → Prop) : Prop :=
  Issues (fun _ => True) m fun a _ => about a

/-- The next parameter calls nothing. -/
theorem undated_issue (base : String) (v : Value) :
  Yields (issue base v) (·.callsDates = false)
  := by
  apply (issues_issue trivial v).mono
  rintro _ _ ⟨n, rfl, -⟩
  rfl

/-- Arguments call no date helper if the first and the others do not. -/
theorem undated_cons {first : Translate Expr} {rest : Translate (List Expr)}
    (hfirst : Yields first (·.callsDates = false))
    (hrest : Yields rest (Expr.anyCallsDates · = false)) :
  Yields
    (do
      let e ← first
      let es ← rest
      return e :: es)
    (Expr.anyCallsDates · = false)
  := by
  apply issues_bind hfirst
  intro e _ he
  apply issues_bind hrest
  intro es _ hes
  apply issues_pure
  simp only [Expr.anyCallsDates, he, hes, Bool.or_false]

/-- A call that stands in the SQL calls no date helper if its arguments do not. -/
theorem undated_standing (hunreadable : scope.opaqueTimestamps = true) (name : String)
    (given : Nat) {rest : Helper → Translate (List Expr)}
    (hrest : ∀ helper : Helper, Yields (rest helper) (Expr.anyCallsDates · = false)) :
  Yields
    ((do
      let helper ← callee scope name given
      let es ← rest helper
      return .call helper es) : Translate Expr)
    (·.callsDates = false)
  := by
  apply issues_bind_silent (silent_callee_unreadable hunreadable given)
  rintro helper ⟨-, hreads, -⟩
  apply issues_bind (hrest helper)
  intro es _ hes
  apply issues_pure
  simp only [Expr.callsDates, hreads, hes, Bool.or_false]

mutual

/-- An expression that is made where timestamps cannot be read calls no date helper. -/
theorem undated_expression (hunreadable : scope.opaqueTimestamps = true) (base : String) :
    ∀ arg : Operand, Yields (expression scope base arg) (·.callsDates = false)
  | .column name => by
      rw [expression]
      apply issues_bind_silent (silent_resolve name)
      rintro ⟨column, type⟩ _
      apply issues_pure
      rfl
  | .value v => by
      rw [expression]
      apply undated_issue
  | .computed v => by
      rw [expression]
      apply issues_bind_silent (silent_compute v)
      intro v _
      apply undated_issue
  | .call name args => by
      rw [expression]
      have h := undated_standing hunreadable name args.length fun helper =>
        undated_arguments hunreadable base helper helper.args args
      split
      · apply h
      · apply issues_bind_silent (silent_fold? name args)
        rintro (_ | v) _
        · apply h
        · apply undated_issue

/-- Arguments that are made where timestamps cannot be read call no date helper. -/
theorem undated_arguments (hunreadable : scope.opaqueTimestamps = true) (base : String)
    (helper : Helper) :
    ∀ (kinds : List ArgumentKind) (args : List Operand),
      Yields (arguments scope base helper kinds args) (Expr.anyCallsDates · = false)
  | [], args => by
      rw [arguments]
      · apply issues_pure
        rfl
      · simp
  | kind :: kinds, [] => by
      rw [arguments]
      · apply issues_pure
        rfl
      · simp
  | .expr :: kinds, arg :: args => by
      rw [arguments]
      apply undated_cons (undated_expression hunreadable base arg)
      apply undated_arguments hunreadable base helper kinds args
  | .int :: kinds, arg :: args => by
      rw [arguments]
      apply undated_cons
      · apply (silent_integerArgument helper arg).mono
        rintro _ _ ⟨-, n, rfl⟩
        rfl
      · apply undated_arguments hunreadable base helper kinds args
  | .ident :: kinds, arg :: args => by
      rw [arguments]
      apply undated_cons
      · apply (silent_nameArgument helper arg).mono
        rintro _ _ ⟨-, name, -, rfl⟩
        rfl
      · apply undated_arguments hunreadable base helper kinds args

end

/-- The parts of a call that stands in the SQL call no date helper. -/
theorem undated_callParts (hunreadable : scope.opaqueTimestamps = true) (name : String)
    (args : List Operand) :
  Yields (callParts scope name args) fun parts =>
    parts.2.1.readsTimestamps = false ∧ Expr.anyCallsDates parts.2.2 = false
  := by
  apply issues_bind_silent (silent_baseOf args)
  intro base _
  apply issues_bind_silent (silent_callee_unreadable hunreadable args.length)
  rintro helper ⟨-, hreads, -⟩
  apply issues_bind (undated_arguments hunreadable base helper helper.args args)
  intro es _ hes
  apply issues_pure ⟨hreads, hes⟩

/-- Whether a side of a comparison calls no date helper. -/
def Side.Undated : Side → Prop
  | .expr e _ => e.callsDates = false
  | .value _ => True

/-- A call that is a side of a comparison calls no date helper. -/
theorem undated_sideCall (hunreadable : scope.opaqueTimestamps = true) (name : String)
    (args : List Operand) :
  Yields
    ((do
      let (base, h, args) ← callParts scope name args
      return .expr (.call h args) base) : Translate Side) Side.Undated
  := by
  apply issues_bind (undated_callParts hunreadable name args)
  rintro ⟨base, helper, es⟩ _ ⟨hreads, hes⟩
  apply issues_pure
  simp only [Side.Undated, Expr.callsDates, hreads, hes, Bool.or_false]

/-- A side of a comparison calls no date helper. -/
theorem undated_side (hunreadable : scope.opaqueTimestamps = true) (arg : Operand) :
  Yields (side scope arg) Side.Undated
  := by
  cases arg with
  | column name =>
      rw [side]
      apply issues_bind_silent (silent_resolve name)
      rintro ⟨column, type⟩ _
      apply issues_pure
      rfl
  | value v =>
      rw [side]
      apply issues_pure trivial
  | computed v =>
      rw [side]
      apply issues_bind_silent (silent_compute v)
      intro v _
      apply issues_pure trivial
  | call name args =>
      rw [side]
      split
      · apply undated_sideCall hunreadable
      · apply issues_bind_silent (silent_fold? name args)
        rintro (_ | v) _
        · apply undated_sideCall hunreadable
        · apply issues_pure trivial

/-- A comparison with the next parameter calls no date helper. -/
theorem undated_against {e : Expr} (he : e.callsDates = false) (base : String) (op : CompareOp)
    (v : Value) :
  Yields (against e base op v) (·.callsDates = false)
  := by
  apply issues_bind (undated_issue base v)
  intro p _ hp
  apply issues_pure
  simp only [Condition.callsDates, he, hp, Bool.or_false]

/-- A comparison calls no date helper. -/
theorem undated_comparison (hunreadable : scope.opaqueTimestamps = true) (left : Operand)
    (op : CompareOp) (right : Operand) :
  Yields (comparison scope left op right) (·.callsDates = false)
  := by
  apply issues_bind (undated_side hunreadable left)
  intro l _ hl
  apply issues_bind (undated_side hunreadable right)
  intro r _ hr
  cases l with
  | expr e base =>
      cases r with
      | expr f base' =>
          have he : e.callsDates = false := hl
          have hf : f.callsDates = false := hr
          apply issues_pure
          simp only [Condition.callsDates, he, hf, Bool.or_false]
      | value v => apply undated_against hl
  | value v =>
      cases r with
      | expr f base => apply undated_against hr
      | value w =>
          dsimp only
          split
          · apply issues_pure
            rfl
          · apply issues_fail

/-- A call that stands as a condition in the SQL calls no date helper. -/
theorem undated_standingCall (hunreadable : scope.opaqueTimestamps = true) (name : String)
    (args : List Operand) :
  Yields
    ((do
      let (_, h, args) ← callParts scope name args
      return .call h args) : Translate Condition) (·.callsDates = false)
  := by
  apply issues_bind (undated_callParts hunreadable name args)
  rintro ⟨base, helper, es⟩ _ ⟨hreads, hes⟩
  apply issues_pure
  simp only [Condition.callsDates, hreads, hes, Bool.or_false]

/-- A call that is a condition calls no date helper. -/
theorem undated_conditionCall (hunreadable : scope.opaqueTimestamps = true) (name : String)
    (args : List Operand) :
  Yields (conditionCall scope name args) (·.callsDates = false)
  := by
  unfold conditionCall
  apply issues_bind_silent (silent_helper name)
  intro helper _
  split
  · split
    · apply undated_standingCall hunreadable
    · apply issues_bind_silent (silent_fold? name args)
      rintro (_ | v) _
      · apply undated_standingCall hunreadable
      · dsimp only
        split
        · apply issues_pure
          rfl
        · apply issues_fail
  · apply issues_fail

/-- A predicate is translated to a condition that calls no date helper. -/
theorem undated_predicate (hunreadable : scope.opaqueTimestamps = true) (p : Predicate) :
  Yields (predicate scope p) (·.callsDates = false)
  := by
  induction p using predicate.induct with
  | case1 b =>
      rw [predicate]
      apply issues_pure
      rfl
  | case2 column =>
      rw [predicate]
      apply (silent_member column true).mono
      rintro _ _ ⟨-, declared, -, rfl⟩
      rfl
  | case3 l op r =>
      rw [predicate]
      apply undated_comparison hunreadable
  | case4 name args =>
      rw [predicate]
      apply undated_conditionCall hunreadable
  | case5 column =>
      rw [predicate]
      apply (silent_member column false).mono
      rintro _ _ ⟨-, declared, -, rfl⟩
      rfl
  | case6 b =>
      rw [predicate]
      apply issues_pure
      rfl
  | case7 p hmember hconstant ih =>
      rw [predicate.eq_7 scope p hmember hconstant]
      apply issues_bind ih
      intro c _ hc
      apply issues_pure hc
  | case8 logic p q ihp ihq =>
      rw [predicate]
      apply issues_bind ihp
      intro c _ hc
      apply issues_bind ihq
      intro d _ hd
      apply issues_pure
      simp only [Condition.callsDates, hc, hd, Bool.or_false]

end Translate

/-! ### Texts without date functions -/

namespace Sql

mutual

/-- The form of an expression without date helpers has no date functions. -/
theorem Expr.callsDates_form :
    ∀ e : Expr, e.callsDates = false → e.form.callsDates = false
  | .column .., _ => rfl
  | .param _, _ => rfl
  | .integer _, _ => rfl
  | .ident _, _ => rfl
  | .call helper args, h => by
      rw [callsDates, Bool.or_eq_false_iff] at h
      rw [form]
      apply Helper.callsDates_form h.1 (Expr.callsDates_forms args h.2)

/-- The forms of expressions without date helpers have no date functions. -/
theorem Expr.callsDates_forms :
    ∀ es : List Expr, Expr.anyCallsDates es = false → ∀ x ∈ Expr.forms es, x.callsDates = false
  | [], _ => by simp [forms]
  | e :: es, h => by
      rw [anyCallsDates, Bool.or_eq_false_iff] at h
      rw [forms, List.forall_mem_cons]
      use Expr.callsDates_form e h.1, Expr.callsDates_forms es h.2

end

/-- The tokens of a condition without date helpers call no date function. -/
theorem Condition.undated_tokens {scope : Scope} {c : Condition}
    (hbasic : c.formula.All (·.Basic scope)) (h : c.callsDates = false) :
  Undated c.tokens
  := by
  induction c with
  | constant b =>
      apply Form.undated
      rfl
  | truth tableAlias column expected =>
      apply Form.undated
      rfl
  | compare l sign r =>
      rw [callsDates, Bool.or_eq_false_iff] at h
      obtain ⟨-, -, op, hsign⟩ := Condition.Basic.exists_operator hbasic
      rw [tokens, hsign.tokens_eq]
      have hform : (Form.binary op l.form r.form).callsDates = false := by
        rw [Form.callsDates, l.callsDates_form h.1, r.callsDates_form h.2]
        rfl
      apply Form.undated hform
  | call helper args =>
      rw [callsDates, Bool.or_eq_false_iff] at h
      apply Form.undated
      apply Helper.callsDates_form h.1 (Expr.callsDates_forms args h.2)
  | not c ih => apply undated_cons (by decide) (ih hbasic h).group
  | combine logic c d ihc ihd =>
      rw [callsDates, Bool.or_eq_false_iff] at h
      have hword : (Token.word logic.sql).namesDate = false := by cases logic <;> decide
      apply Undated.group
      apply (ihc hbasic.1 h.1).append (undated_cons hword (ihd hbasic.2 h.2))
      simp

end Sql

/-! ### Date helpers on given values -/

/-- What a date helper says of two timestamps. -/
def Helper.judgesDates (h : Helper) (s t : Timestamp) : Bool :=
  match h with
  | sameDay => s.date = t.date
  | dateBefore => s.compare t = .lt
  | _ => s.compare t = .gt

/-- A date helper is evaluated on values that are read as timestamps. -/
theorem Helper.evaluate?_dates {h : Helper} (hreads : h.readsTimestamps = true) {v w : Value}
    {s t : Timestamp} (hv : v.asTimestamp? = some s) (hw : w.asTimestamp? = some t) :
  h.evaluate? [v, w] = some (.bool (h.judgesDates s t))
  := by
  cases h with
  | sameDay | dateBefore | dateAfter =>
      simp [evaluate?, onTwo?, onTimestamps?, judgesDates, hv, hw]
  | _ => cases hreads

namespace Operand.ComesTo

open Translate

variable {name : String} {arg : Operand} {args : List Operand} {v : Value}

/-- An operand comes to its value from every trail. -/
theorem literal (h : arg.ComesTo v) (t : Trail) :
  ∃ t', Translate.literal arg t = (.ok v, t')
  := by
  obtain ⟨t₁, t₂, hrun⟩ := h
  have hsteady := steady_literal arg t₁ t
  rw [hrun] at hsteady
  cases hagain : Translate.literal arg t with
  | mk result t' =>
      rw [hagain] at hsteady
      cases hsteady with
      | ok heq =>
          subst heq
          use t'

/-- An operand that comes to a value mentions no column. -/
theorem firstColumn?_eq (h : arg.ComesTo v) :
  arg.firstColumn? = none
  := by
  by_contra hcolumn
  obtain ⟨t, t', hrun⟩ := h
  obtain ⟨u, t'', hfails⟩ := refused_literal arg (Option.isSome_iff_ne_none.mpr hcolumn) t
  rw [hrun] at hfails
  cases hfails

/-- A call that comes to a value is folded to it, wherever it stands. -/
theorem folds (h : (Operand.call name args).ComesTo v) :
  mentionColumn args = false ∧ ∀ t, ∃ t', fold? name args t = (.ok (some v), t') ∧
    t'.params = t.params ∧ t'.counter = t.counter
  := by
  constructor
  · have hnone := h.firstColumn?_eq
    rw [firstColumn?] at hnone
    rw [mentionColumn, hnone]
    rfl
  · intro t
    obtain ⟨t', hrun⟩ := h.literal t
    have hfold : fold? name args t = (.ok (some v), t') := by
      rw [Translate.literal] at hrun
      obtain ⟨helper, t₁, hhelper, hrun⟩ := exists_of_bind_eq_ok hrun
      split at hrun
      · rename_i hcan
        obtain ⟨values, t₂, hvalues, hevaluate⟩ := exists_of_bind_eq_ok hrun
        unfold fold?
        rw [Translate.bind_apply, hhelper]
        dsimp only
        rw [if_pos hcan, Translate.bind_apply, hvalues]
        dsimp only
        rw [Translate.bind_apply, hevaluate]
        rfl
      · cases hrun
    have hsilent : Silent (fun _ => True) (fold? name args) fun _ => True := silent_fold? name args
    obtain ⟨added, hparams, hcounter, -, rfl, -⟩ := hsilent t _ t' hfold
    use t', hfold
    simpa using And.intro hparams hcounter

/-- A date helper on values that are read as timestamps comes to what it says of them. -/
theorem dates {helper : Helper} (hhelper : Helper.ofName? name = some helper)
    (hreads : helper.readsTimestamps = true) {a b : Operand} {w : Value} {s t : Timestamp}
    (ha : a.ComesTo v) (hb : b.ComesTo w) (hv : v.asTimestamp? = some s)
    (hw : w.asTimestamp? = some t) :
  (Operand.call name [a, b]).ComesTo (.bool (helper.judgesDates s t))
  := by
  have hcan : helper.canEvaluate = true := by
    by_contra hcan
    rw [readsTimestamps_of_not_canEvaluate hcan] at hreads
    cases hreads
  obtain ⟨t₁, hruna⟩ := ha.literal { counter := 0 }
  obtain ⟨t₂, hrunb⟩ := hb.literal t₁
  have hgiven : literals [a, b] { counter := 0 } = (.ok [v, w], t₂) := by
    simp only [literals, bind_assoc, pure_bind, Translate.bind_apply, hruna, hrunb]
    rfl
  use { counter := 0 }, t₂
  rw [Translate.literal, Translate.helper, hhelper]
  dsimp only
  rw [pure_bind, if_pos hcan, Translate.bind_apply, hgiven]
  dsimp only
  rw [Translate.evaluate, Helper.evaluate?_dates hreads hv hw]
  rfl

end Operand.ComesTo

namespace Predicate

variable {p : Predicate} {d : Descriptor} {tableAlias : Option String}

/-- A call that is a condition and comes to a truth value is decided. -/
theorem compile_decided {name : String} {helper : Helper} {args : List Operand} {b : Bool}
    (hhelper : Helper.ofName? name = some helper) (hcondition : helper.isCondition = true)
    (h : (Operand.call name args).ComesTo (.bool b)) (rules : TranslationRules)
    (d : Descriptor) (tableAlias : Option String) (n : Nat) :
  ∃ computed, (Predicate.call name args).compile rules d tableAlias n =
    ⟨.ok ⟨Sql.constant b, []⟩, [], n, computed⟩
  := by
  obtain ⟨hcolumn, hfolds⟩ := h.folds
  obtain ⟨t, hfold, hparams, hcounter⟩ := hfolds { counter := n }
  let scope : Scope := ⟨d, tableAlias, rules.opaqueTimestamps⟩
  have hrun : Translate.predicate scope (.call name args) { counter := n } =
      (.ok (.constant b), t) := by
    rw [Translate.predicate, Translate.conditionCall, Translate.helper, hhelper]
    dsimp only
    rw [pure_bind, if_pos hcondition]
    simp only [hcolumn, Bool.false_eq_true, if_false]
    rw [Translate.bind_apply, hfold]
    rfl
  have hout : ((Predicate.call name args).translate scope n).outcome =
      .ok (.constant b, []) := by
    rw [translate_of_run hrun, hparams]
  use ((Predicate.call name args).translate scope n).computed
  apply compile_of_ok hout

/-- A predicate that reads dates is degraded where timestamps cannot be read. -/
theorem degraded_of_readsDates (h : p.ReadsDates) (policy : TranslationPolicy) (d : Descriptor)
    (tableAlias : Option String) (n : Nat) :
  let c := p.compile ⟨policy, true⟩ d tableAlias n
  c.Degraded ⟨policy, true⟩ d.table ∧ c.counter = n
  := by
  intro c
  let scope : Scope := ⟨d, tableAlias, true⟩
  have hunreadable : scope.opaqueTimestamps = true := rfl
  obtain ⟨u, t, hrun⟩ := Translate.refused_predicate hunreadable h { counter := n }
  have hout : (p.translate scope n).outcome = .error u := by
    simp only [translate, ExceptT.run, hrun]
  have hc : p.compile ⟨policy, true⟩ d tableAlias n = _ := compile_of_error hout
  change c = _ at hc
  rw [hc]
  use ⟨u.reason, rfl⟩

/-- A predicate that reads no dates comes to the same whether timestamps can be read or
not. -/
theorem compile_legible (h : ¬ p.ReadsDates) (policy : TranslationPolicy) (d : Descriptor)
    (tableAlias : Option String) (n : Nat) :
  p.compile ⟨policy, true⟩ d tableAlias n = p.compile ⟨policy, false⟩ d tableAlias n
  := by
  have hsteps : Translate.predicate ⟨d, tableAlias, true⟩ p =
      Translate.predicate ⟨d, tableAlias, false⟩ p := Translate.predicate_legible h
  have hsame : p.translate ⟨d, tableAlias, true⟩ n = p.translate ⟨d, tableAlias, false⟩ n := by
    unfold translate
    rw [hsteps]
  unfold compile
  rw [hsame]
  rfl

/-- The condition of a translation has no date helpers where timestamps cannot be read. -/
theorem callsDates_of_translate {scope : Scope} (hunreadable : scope.opaqueTimestamps = true)
    {n : Nat} {c : Condition} {params : List Param}
    (h : (p.translate scope n).outcome = .ok (c, params)) :
  c.callsDates = false
  := by
  unfold translate at h
  cases hrun : (Translate.predicate scope p).run { counter := n } with
  | mk result t =>
      rw [hrun] at h
      cases result with
      | error u => cases h
      | ok c' =>
          obtain ⟨added, -, -, -, hc⟩ := Translate.undated_predicate hunreadable p _ c' t hrun
          cases h
          apply hc

/-- The text of a predicate that is degraded calls no date function. -/
theorem undated_alwaysFalse :
  Undated (tokens alwaysFalse)
  := by
  have htokens : tokens alwaysFalse = (Form.constant false).tokens :=
    Lexes.tokens_eq (writes_constant false)
  rw [htokens]
  apply Form.undated
  rfl

/-- What a predicate comes to where timestamps cannot be read is the text of a condition
without date helpers, and has no tokens that call a date function if the columns of the table
and its alias are identifiers. -/
theorem undated_compile {policy : TranslationPolicy} {n : Nat} {f : Fragment}
    (h : (p.compile ⟨policy, true⟩ d tableAlias n).result = .ok f) :
  (∃ c : Condition, c.callsDates = false ∧ f.sql = c.text) ∧
    (Scope.Named ⟨d, tableAlias, true⟩ → Undated (tokens f.sql))
  := by
  let scope : Scope := ⟨d, tableAlias, true⟩
  cases hout : (p.translate scope n).outcome with
  | error u =>
      have hcompile : p.compile ⟨policy, true⟩ d tableAlias n = _ := compile_of_error hout
      rw [hcompile] at h
      unfold TranslationRules.degrade at h
      split at h
      · cases h
      · cases h
        constructor
        · use .constant false, rfl
          rfl
        · intro _
          apply undated_alwaysFalse
  | ok made =>
      obtain ⟨c, params⟩ := made
      have hundated : c.callsDates = false := callsDates_of_translate rfl hout
      have hcompile : p.compile ⟨policy, true⟩ d tableAlias n = _ := compile_of_ok hout
      rw [hcompile] at h
      cases h
      constructor
      · use c, hundated
      · intro hscope
        have hbasic := basic_of_translate hout
        show Undated (tokens c.text)
        rw [(hscope.lexes_text hbasic).tokens_eq]
        apply Condition.undated_tokens hbasic hundated

/-- A predicate in which a date helper is called on arguments with a column is degraded where
timestamps cannot be read, and any other comes to the same as where they can.  So no SQL calls
a date function under a format that is not the international one, while date helpers on given
values are folded under every format. -/
theorem dates_read_only_where_legible (p : Predicate) (d : Descriptor)
    (tableAlias : Option String) (n : Nat) :
  (p.ReadsDates → ∀ policy,
    let c := p.compile ⟨policy, true⟩ d tableAlias n
    c.Degraded ⟨policy, true⟩ d.table ∧ c.counter = n) ∧
  (¬ p.ReadsDates → ∀ policy,
    p.compile ⟨policy, true⟩ d tableAlias n = p.compile ⟨policy, false⟩ d tableAlias n) ∧
  (∀ policy format f, Calendar.isInternational format = false →
    (p.compile (.forFormat policy format) d tableAlias n).result = .ok f →
    (∃ c : Condition, c.callsDates = false ∧ f.sql = c.text) ∧
      (Scope.Named ⟨d, tableAlias, true⟩ → Undated (tokens f.sql))) ∧
  (∀ name helper a b v w s t, Helper.ofName? name = some helper →
    helper.readsTimestamps = true → a.ComesTo v → b.ComesTo w →
    v.asTimestamp? = some s → w.asTimestamp? = some t →
    Operand.mentionColumn [a, b] = false ∧
      (Operand.call name [a, b]).ComesTo (.bool (helper.judgesDates s t)) ∧
      ∀ rules, ∃ computed, (Predicate.call name [a, b]).compile rules d tableAlias n =
        ⟨.ok ⟨Sql.constant (helper.judgesDates s t), []⟩, [], n, computed⟩)
  := by
  constructor
  · intro h policy
    apply degraded_of_readsDates h
  constructor
  · intro h policy
    apply compile_legible h
  constructor
  · intro policy format f hformat h
    rw [TranslationRules.forFormat, hformat] at h
    apply undated_compile h
  · intro name helper a b v w s t hhelper hreads ha hb hv hw
    have hcomes := Operand.ComesTo.dates hhelper hreads ha hb hv hw
    have hcondition : helper.isCondition = true := by
      cases helper with
      | sameDay | dateBefore | dateAfter => rfl
      | _ => cases hreads
    use hcomes.folds.1, hcomes
    intro rules
    apply compile_decided hhelper hcondition hcomes

/-- A date helper that is called on a column inside another call. -/
example :
    let stored : Operand := .call "SAME_DAY" [.value .null, .column "At"]
    (Predicate.not (.compare (.value (.int 1)) .eq (.call "abs" [stored]))).ReadsDates :=
  .not (.right (.argument (List.mem_singleton_self _) (.call rfl rfl rfl)))

end Predicate

end EntityStore
