import EntityStore.Proofs.Sql.Template
import EntityStore.Proofs.Translation.Writing

/-!
# Operands in conditions

A comparison in a predicate stands for a form in which its operator joins the forms of its two
operands, and a call for one in which the template of its helper is applied to the forms of
its arguments.  The condition that is made for it has the tokens of such a form.  They are
read as what is meant exactly if the form is tight, which not every form is: calls that are
conditions are pasted without parentheses into what binds more tightly.
-/

namespace EntityStore

open Text Sql

/-! ### Forms of operands -/

/-- Whether an operand comes to a value when it is worked out. -/
def Operand.ComesTo (arg : Operand) (v : Value) : Prop :=
  ∃ t t', Translate.literal arg t = (.ok v, t')

mutual

/-- What an operand stands for: a column for itself, a value for the parameter that it is
bound to, and a call for its template with the forms of its arguments. -/
inductive Operand.StandsFor (scope : Scope) (params : List Param) : Operand → Form → Prop
  | column {name column : String} {type : ColumnType}
      (h : scope.descriptor.resolve? name = some (column, type)) :
      Operand.StandsFor scope params (.column name) (.leaf (.ofColumn scope.tableAlias column))
  | value {arg : Operand} {v : Value} {name : String} (h : arg.ComesTo v)
      (hname : ⟨name, v⟩ ∈ params) :
      Operand.StandsFor scope params arg (.leaf (.parameter ("@" ++ name)))
  | call {name : String} {helper : Helper} {args : List Operand} {xs : List Form}
      (hhelper : Helper.ofName? name = some helper)
      (h : Operand.StandFor scope params helper.args args xs) :
      Operand.StandsFor scope params (.call name args) (helper.form xs)

/-- What arguments stand for, each of its kind. -/
inductive Operand.StandFor (scope : Scope) (params : List Param) :
    List ArgumentKind → List Operand → List Form → Prop
  | nil : Operand.StandFor scope params [] [] []
  | expr {kinds : List ArgumentKind} {arg : Operand} {args : List Operand} {x : Form}
      {xs : List Form} (h : Operand.StandsFor scope params arg x)
      (rest : Operand.StandFor scope params kinds args xs) :
      Operand.StandFor scope params (.expr :: kinds) (arg :: args) (x :: xs)
  | int {kinds : List ArgumentKind} {arg : Operand} {args : List Operand} {xs : List Form}
      {n : Int64} (h : arg.ComesTo (.int n))
      (rest : Operand.StandFor scope params kinds args xs) :
      Operand.StandFor scope params (.int :: kinds) (arg :: args) (.leaf (.ofInt n.toInt) :: xs)
  | ident {kinds : List ArgumentKind} {arg : Operand} {args : List Operand} {xs : List Form}
      {name : String} (h : arg.ComesTo (.text name))
      (rest : Operand.StandFor scope params kinds args xs) :
      Operand.StandFor scope params (.ident :: kinds) (arg :: args)
        (.leaf (.quotedName name) :: xs)

end

section

variable {scope : Scope} {params params' : List Param}

mutual

/-- An operand stands for the same if there are more parameters. -/
theorem Operand.StandsFor.mono (hparams : ∀ p ∈ params, p ∈ params') :
    ∀ {arg : Operand} {x : Form}, arg.StandsFor scope params x → arg.StandsFor scope params' x
  | _, _, .column h => .column h
  | _, _, .value h hname => .value h (hparams _ hname)
  | _, _, .call hhelper h => .call hhelper (Operand.StandFor.mono hparams h)

/-- Arguments stand for the same if there are more parameters. -/
theorem Operand.StandFor.mono (hparams : ∀ p ∈ params, p ∈ params') :
    ∀ {kinds : List ArgumentKind} {args : List Operand} {xs : List Form},
      Operand.StandFor scope params kinds args xs → Operand.StandFor scope params' kinds args xs
  | _, _, _, .nil => .nil
  | _, _, _, .expr h rest =>
      .expr (Operand.StandsFor.mono hparams h) (Operand.StandFor.mono hparams rest)
  | _, _, _, .int h rest => .int h (Operand.StandFor.mono hparams rest)
  | _, _, _, .ident h rest => .ident h (Operand.StandFor.mono hparams rest)

end

end

/-- The operator of a comparison. -/
def CompareOp.operator : CompareOp → Operator
  | eq => .equal
  | ne => .unequal
  | lt => .less
  | le => .atMost
  | gt => .greater
  | ge => .atLeast

/-- The operator of a comparison with a value. -/
def CompareOp.operatorFor (op : CompareOp) (v : Value) : Operator :=
  match op, v.isNull with
  | eq, true => .is
  | ne, true => .isNot
  | _, _ => op.operator

/-- The form of a constant condition. -/
def Sql.Form.constant (b : Bool) : Form :=
  .binary (if b then .equal else .unequal) (.leaf (.number "1")) (.leaf (.number "1"))

/-- Whether an operand stands for an expression that is no parameter. -/
def Operand.Remains (scope : Scope) (params : List Param) (arg : Operand) (x : Form) : Prop :=
  arg.StandsFor scope params x ∧ ∀ slot, x ≠ .leaf (.parameter slot)

/-- An operand stands for the same expression if there are more parameters. -/
theorem Operand.Remains.mono {scope : Scope} {params params' : List Param} {arg : Operand}
    {x : Form} (hparams : ∀ p ∈ params, p ∈ params') (h : arg.Remains scope params x) :
  arg.Remains scope params' x
  := ⟨h.1.mono hparams, h.2⟩

/-- What a comparison or a call stands for.  In a comparison with a value this is behind the
operator, which may compare null; two values are compared at once, and a call that comes to a
value is decided. -/
inductive Predicate.StandsFor (scope : Scope) (params : List Param) : Predicate → Form → Prop
  | operands {l r : Operand} (op : CompareOp) {x y : Form} (hl : l.Remains scope params x)
      (hr : r.Remains scope params y) :
      Predicate.StandsFor scope params (.compare l op r) (.binary op.operator x y)
  | right {l r : Operand} (op : CompareOp) {x : Form} {v : Value} {name : String}
      (hl : l.Remains scope params x) (hr : r.ComesTo v) (hname : ⟨name, v⟩ ∈ params) :
      Predicate.StandsFor scope params (.compare l op r)
        (.binary (op.operatorFor v) x (.leaf (.parameter ("@" ++ name))))
  | left {l r : Operand} (op : CompareOp) {x : Form} {v : Value} {name : String}
      (hl : l.ComesTo v) (hr : r.Remains scope params x) (hname : ⟨name, v⟩ ∈ params) :
      Predicate.StandsFor scope params (.compare l op r)
        (.binary (op.flipped.operatorFor v) x (.leaf (.parameter ("@" ++ name))))
  | values {l r : Operand} {op : CompareOp} {v w : Value} {b : Bool} (hl : l.ComesTo v)
      (hr : r.ComesTo w) (h : Translate.compareValues v op w = .ok b) :
      Predicate.StandsFor scope params (.compare l op r) (.constant b)
  | call {name : String} {helper : Helper} {args : List Operand} {xs : List Form}
      (hhelper : Helper.ofName? name = some helper)
      (h : Operand.StandFor scope params helper.args args xs) :
      Predicate.StandsFor scope params (.call name args) (helper.form xs)
  | decided {name : String} {args : List Operand} {v : Value} {b : Bool}
      (h : (Operand.call name args).ComesTo v) (hv : v.asBool? = some b) :
      Predicate.StandsFor scope params (.call name args) (.constant b)

/-! ### Operands without conditions -/

mutual

/-- Whether no call in an operand is a condition. -/
def Operand.Valued : Operand → Prop
  | .column _ | .value _ | .computed _ => True
  | .call name args =>
    (∀ helper ∈ Helper.ofName? name, helper.isCondition = false) ∧ Operand.AllValued args

/-- Whether no call in a list of operands is a condition. -/
def Operand.AllValued : List Operand → Prop
  | [] => True
  | arg :: args => Operand.Valued arg ∧ Operand.AllValued args

end

/-- Whether no call in the operands of a comparison, or in the arguments of a call, is a
condition. -/
def Predicate.Valued : Predicate → Prop
  | compare l _ r => l.Valued ∧ r.Valued
  | call _ args => Operand.AllValued args
  | _ => True

section

variable {scope : Scope} {params : List Param}

mutual

/-- An operand without conditions stands for a firm form. -/
theorem Operand.StandsFor.firm :
    ∀ {arg : Operand} {x : Form}, arg.StandsFor scope params x → arg.Valued → x.Firm
  | _, _, .column _, _ => Form.firm_leaf _
  | _, _, .value _ _, _ => Form.firm_leaf _
  | _, _, .call hhelper h, hvalued => by
      rw [Operand.Valued] at hvalued
      apply Helper.firm_form (hvalued.1 _ hhelper)
      apply Operand.StandFor.firm h hvalued.2

/-- Arguments without conditions stand for firm forms. -/
theorem Operand.StandFor.firm :
    ∀ {kinds : List ArgumentKind} {args : List Operand} {xs : List Form},
      Operand.StandFor scope params kinds args xs → Operand.AllValued args → ∀ x ∈ xs, x.Firm
  | _, _, _, .nil, _ => by simp
  | _, _, _, .expr h rest, hvalued => by
      rw [Operand.AllValued] at hvalued
      rw [List.forall_mem_cons]
      use Operand.StandsFor.firm h hvalued.1, Operand.StandFor.firm rest hvalued.2
  | _, _, _, .int _ rest, hvalued => by
      rw [Operand.AllValued] at hvalued
      rw [List.forall_mem_cons]
      use Form.firm_leaf _, Operand.StandFor.firm rest hvalued.2
  | _, _, _, .ident _ rest, hvalued => by
      rw [Operand.AllValued] at hvalued
      rw [List.forall_mem_cons]
      use Form.firm_leaf _, Operand.StandFor.firm rest hvalued.2

end

/-- A comparison or a call of operands without conditions stands for a tight form. -/
theorem Predicate.StandsFor.tight {p : Predicate} {x : Form} (h : p.StandsFor scope params x)
    (hvalued : p.Valued) :
  x.Tight
  := by
  have hconstant (b : Bool) : (Form.constant b).Tight :=
    (Form.firm_leaf _).binary _ (Form.firm_leaf _)
  cases h with
  | operands op hl hr => apply (hl.1.firm hvalued.1).binary _ (hr.1.firm hvalued.2)
  | right op hl _ _ => apply (hl.1.firm hvalued.1).binary _ (Form.firm_leaf _)
  | left op _ hr _ => apply (hr.1.firm hvalued.2).binary _ (Form.firm_leaf _)
  | values _ _ _ => apply hconstant
  | call _ h => apply Helper.tight_form _ (h.firm hvalued)
  | decided _ _ => apply hconstant

end

/-! ### Texts of operands -/

namespace Scope.Named

variable {scope : Scope}

/-- A column is written as its leaf. -/
theorem writes_column (hscope : scope.Named) {name column : String} {type : ColumnType}
    (h : scope.descriptor.resolve? name = some (column, type)) :
  Writes (columnText scope.tableAlias column) (.leaf (.ofColumn scope.tableAlias column))
  := by
  have hcolumn := hscope.resolve h
  cases halias : scope.tableAlias with
  | none => apply lexes_word hcolumn
  | some a =>
      have hqualified := lexes_qualified (hscope.tableAlias a halias) hcolumn
      show Lexes (a ++ "." ++ column) _
      rw [String.append_assoc]
      apply hqualified

/-- A parameter is written as its leaf. -/
theorem writes_parameter (hscope : scope.Named) {base : String}
    (h : scope.descriptor.IsBase base) (n : Nat) :
  Writes ("@" ++ (base ++ decimalText n)) (.leaf (.parameter ("@" ++ (base ++ decimalText n))))
  := by
  obtain ⟨hne, hchars⟩ :=
    chars_of_isIdentifier (isIdentifier_append_decimalText (hscope.base h) n)
  apply lexes_parameter hne hchars

end Scope.Named

/-- The sign of a comparison is written as its operator. -/
theorem lexes_sql (op : CompareOp) :
  Lexes op.sql (op.operator.head :: op.operator.tail)
  := by cases op <;> apply lexes_operator <;> decide

/-- The sign of a comparison with a value is written as its operator. -/
theorem lexes_operatorFor (op : CompareOp) (v : Value) :
  Lexes (Translate.operatorFor op v) ((op.operatorFor v).head :: (op.operatorFor v).tail)
  := by
  have his : Lexes "IS" [.word "IS"] := lexes_word (by decide)
  have hisNot : Lexes ("IS" ++ " " ++ "NOT") [.word "IS", .word "NOT"] :=
    his.blank (lexes_word (by decide))
  have hsql := lexes_sql op
  unfold Translate.operatorFor CompareOp.operatorFor
  cases v.isNull with
  | false => cases op <;> apply hsql
  | true =>
      cases op with
      | eq => apply his
      | ne => apply hisNot
      | _ => apply hsql

/-- A comparison is written as its operator between its two sides. -/
theorem writes_compare {l r : Expr} {operator : String} {op : Operator} {x y : Form}
    (hop : Lexes operator (op.head :: op.tail)) (hl : Writes l.text x) (hr : Writes r.text y) :
  Writes (Condition.compare l operator r).text (.binary op x y)
  := by
  have h := Writes.binary hop rfl hl hr
  show Writes (l.text ++ " " ++ operator ++ " " ++ r.text) _
  simp only [String.append_assoc] at h ⊢
  apply h

/-- A constant condition is written as its form. -/
theorem writes_constant (b : Bool) :
  Writes (Sql.constant b) (.constant b)
  := by
  have hone : Writes (decimalText (1 : Nat)) (.leaf (.number "1")) := lexes_decimalDigits 1
  cases b with
  | false => apply hone.binary (lexes_sql .ne) rfl hone
  | true => apply hone.binary (lexes_sql .eq) rfl hone

/-! ### What a translation makes of operands -/

/-- An expression for an operand, with the parameters added for it: it is written as a form that
the operand stands for. -/
def Operand.Formed (scope : Scope) (arg : Operand) (e : Expr) (added : List Param) : Prop :=
  ∃ x, arg.StandsFor scope added x ∧ Writes e.text x

/-- Expressions for arguments, with the parameters added for them. -/
def Operand.ArgumentsFormed (scope : Scope) (kinds : List ArgumentKind) (args : List Operand)
    (es : List Expr) (added : List Param) : Prop :=
  ∃ xs, Operand.StandFor scope added kinds args xs ∧
    Helper.ArgumentsWrite kinds (es.map Expr.text) xs

namespace Translate

variable {allowed : String → Prop} {scope : Scope}

/-- What comes with every result is true of it. -/
theorem Issues.and {α : Type} {m : Translate α} {post : α → List Param → Prop}
    {about : α → Prop} (hm : Issues allowed m post)
    (h : ∀ t a t', m t = (.ok a, t') → about a) :
  Issues allowed m fun a added => post a added ∧ about a
  := by
  intro t a t' hrun
  obtain ⟨added, hparams, hcounter, hnumbered, hpost⟩ := hm t a t' hrun
  use added, hparams, hcounter, hnumbered, hpost
  apply h t a t' hrun

/-- A value comes to itself. -/
theorem comesTo_value (v : Value) :
  (Operand.value v).ComesTo v
  := by
  use { counter := 0 }, { counter := 0 }
  rw [literal]
  rfl

/-- A value that is worked out comes to itself. -/
theorem comesTo_computed (v : Value) :
  (Operand.computed v).ComesTo v
  := by
  use { counter := 0 }, { counter := 0, computed := [v] }
  rw [literal]
  rfl

/-- The value of an operand is what it comes to. -/
theorem silent_literal_comesTo (arg : Operand) :
  Silent allowed (literal arg) arg.ComesTo
  := by
  have hrun : ∀ t v t', literal arg t = (.ok v, t') → arg.ComesTo v := by
    intro t v t' hrun
    use t, t', hrun
  apply ((silent_literal arg).and hrun).mono
  rintro v added ⟨⟨hadded, -⟩, hv⟩
  use hadded

/-- A call is folded to what it comes to. -/
theorem silent_fold?_comesTo (name : String) (args : List Operand) :
  Silent allowed (fold? name args) fun folded => ∀ v ∈ folded, (Operand.call name args).ComesTo v
  := by
  have hrun : ∀ t folded t', fold? name args t = (.ok folded, t') →
      ∀ v ∈ folded, (Operand.call name args).ComesTo v := by
    intro t folded t' hrun v hv
    obtain ⟨h, t₁, hhelper, hrun⟩ := exists_of_bind_eq_ok hrun
    split at hrun
    · rename_i hcan
      obtain ⟨values, t₂, hvalues, hrun⟩ := exists_of_bind_eq_ok hrun
      obtain ⟨w, t₃, hw, hrun⟩ := exists_of_bind_eq_ok hrun
      cases hrun
      cases hv
      use t, t'
      rw [literal, bind_apply, hhelper]
      dsimp only
      rw [if_pos hcan, bind_apply, hvalues]
      apply hw
    · cases hrun
      cases hv
  apply ((silent_fold? name args).and hrun).mono
  rintro folded added ⟨⟨hadded, -⟩, hv⟩
  use hadded

/-- An integer argument comes to the integer that is written for it. -/
theorem silent_integerArgument_comesTo (h : Helper) (arg : Operand) :
  Silent allowed (integerArgument h arg) fun e => ∃ n, e = .integer n ∧ arg.ComesTo (.int n)
  := by
  apply issues_bind_silent (silent_literal_comesTo arg)
  intro v hv
  split
  · rename_i n
    apply issues_pure ⟨rfl, n, rfl, hv⟩
  · apply issues_fail

/-- An argument that is a name comes to the name that is written for it. -/
theorem silent_nameArgument_comesTo (h : Helper) (arg : Operand) :
  Silent allowed (nameArgument h arg) fun e => ∃ name, e = .ident name ∧ arg.ComesTo (.text name)
  := by
  apply issues_bind_silent (silent_literal_comesTo arg)
  intro v hv
  split
  · rename_i name
    split
    · apply issues_pure ⟨rfl, name, rfl, hv⟩
    · apply issues_fail
  · apply issues_fail

/-- A value is written as the parameter that it is bound to. -/
theorem formed_value (hscope : scope.Named) {base : String}
    (hbase : scope.descriptor.IsBase base) {arg : Operand} {v : Value} (h : arg.ComesTo v) :
  Issues scope.descriptor.IsBase (issue base v) (arg.Formed scope)
  := by
  apply (issues_issue hbase v).mono
  rintro _ _ ⟨n, rfl, rfl⟩
  use .leaf (.parameter ("@" ++ (base ++ decimalText n))), .value h (by simp)
  rw [Expr.text]
  apply hscope.writes_parameter hbase n

/-- A call is written as its form if its arguments are. -/
theorem formed_call (name : String) {args : List Operand}
    {rest : Helper → Translate (List Expr)}
    (h : ∀ helper : Helper, helper.args.length = args.length →
      Issues scope.descriptor.IsBase (rest helper)
        (Operand.ArgumentsFormed scope helper.args args)) :
  Issues scope.descriptor.IsBase
    ((do
      let helper ← callee scope name args.length
      let es ← rest helper
      return .call helper es) : Translate Expr)
    ((Operand.call name args).Formed scope)
  := by
  apply issues_bind_silent (silent_callee name args.length)
  rintro helper ⟨hhelper, hlength⟩
  apply issues_bind (h helper hlength.symm)
  rintro es before ⟨xs, hstand, hwrite⟩
  apply issues_pure
  rw [List.append_nil]
  use helper.form xs, .call hhelper hstand
  rw [Expr.text, Expr.texts_eq_map]
  apply Helper.writes_render hwrite

mutual

/-- An operand is written as a form that it stands for. -/
theorem formed_expression (hscope : scope.Named) {base : String}
    (hbase : scope.descriptor.IsBase base) :
    ∀ arg : Operand, Issues scope.descriptor.IsBase (expression scope base arg)
      (arg.Formed scope)
  | .column name => by
      rw [expression]
      apply issues_bind_silent (silent_resolve name)
      rintro ⟨column, type⟩ hfound
      apply issues_pure
      use .leaf (.ofColumn scope.tableAlias column), .column hfound
      rw [Expr.text]
      apply hscope.writes_column hfound
  | .value v => by
      rw [expression]
      apply formed_value hscope hbase (comesTo_value v)
  | .computed v => by
      rw [expression]
      apply issues_bind_silent (silent_compute v)
      rintro _ rfl
      apply formed_value hscope hbase (comesTo_computed _)
  | .call name args => by
      rw [expression]
      have h := formed_call name
        fun helper hlength => formed_arguments hscope hbase helper helper.args args hlength
      split
      · apply h
      · apply issues_bind_silent (silent_fold?_comesTo name args)
        rintro (_ | v) hv
        · apply h
        · apply formed_value hscope hbase (hv v rfl)

/-- Arguments are written as forms that they stand for. -/
theorem formed_arguments (hscope : scope.Named) {base : String}
    (hbase : scope.descriptor.IsBase base) (h : Helper) :
    ∀ (kinds : List ArgumentKind) (args : List Operand), kinds.length = args.length →
      Issues scope.descriptor.IsBase (arguments scope base h kinds args)
        (Operand.ArgumentsFormed scope kinds args)
  | [], [], _ => by
      rw [arguments]
      · apply issues_pure ⟨[], .nil, .nil⟩
      · simp
  | .expr :: kinds, arg :: args, hlength => by
      rw [arguments]
      apply issues_bind (formed_expression hscope hbase arg)
      rintro e before ⟨x, hx, hwrite⟩
      apply issues_bind (formed_arguments hscope hbase h kinds args (by simpa using hlength))
      rintro es added ⟨xs, hxs, hwrites⟩
      apply issues_pure
      rw [List.append_nil]
      use x :: xs
      constructor
      · apply Operand.StandFor.expr
        · apply hx.mono fun p hp => List.mem_append_left _ hp
        · apply hxs.mono fun p hp => List.mem_append_right _ hp
      · apply Helper.ArgumentsWrite.expr hwrite hwrites
  | .int :: kinds, arg :: args, hlength => by
      rw [arguments]
      apply issues_bind_silent (silent_integerArgument_comesTo h arg)
      rintro _ ⟨n, rfl, hn⟩
      apply issues_bind (formed_arguments hscope hbase h kinds args (by simpa using hlength))
      rintro es added ⟨xs, hxs, hwrites⟩
      apply issues_pure
      rw [List.append_nil]
      use .leaf (.ofInt n.toInt) :: xs, .int hn hxs
      rw [List.map_cons, Expr.text]
      apply Helper.ArgumentsWrite.int n hwrites
  | .ident :: kinds, arg :: args, hlength => by
      rw [arguments]
      apply issues_bind_silent (silent_nameArgument_comesTo h arg)
      rintro _ ⟨name, rfl, hname⟩
      apply issues_bind (formed_arguments hscope hbase h kinds args (by simpa using hlength))
      rintro es added ⟨xs, hxs, hwrites⟩
      apply issues_pure
      rw [List.append_nil]
      use .leaf (.quotedName name) :: xs, .ident hname hxs
      rw [List.map_cons, Expr.text]
      apply Helper.ArgumentsWrite.ident name hwrites

end

/-- The parts of a call that stands in the SQL. -/
theorem formed_callParts (hscope : scope.Named) (name : String) (args : List Operand) :
  Issues scope.descriptor.IsBase (callParts scope name args) fun parts added =>
    Helper.ofName? name = some parts.2.1 ∧ scope.descriptor.IsBase parts.1 ∧
      Operand.ArgumentsFormed scope parts.2.1.args args parts.2.2 added
  := by
  apply issues_bind_silent (silent_baseOf args)
  intro base hbase
  apply issues_bind_silent (silent_callee name args.length)
  rintro h ⟨hh, hlength⟩
  apply issues_bind (formed_arguments hscope hbase h h.args args hlength.symm)
  intro es before hformed
  apply issues_pure
  rw [List.append_nil]
  exact ⟨hh, hbase, hformed⟩

/-! ### What a translation makes of conditions -/

/-- A side of a comparison with the parameters added for it: an expression that is written as
what the operand stands for, or the value that it comes to. -/
inductive Side.Formed (scope : Scope) (arg : Operand) : Side → List Param → Prop
  | expr {e : Expr} {base : String} {added : List Param} {x : Form}
      (hbase : scope.descriptor.IsBase base) (h : arg.Remains scope added x)
      (hwrite : Writes e.text x) : Side.Formed scope arg (.expr e base) added
  | value {v : Value} (h : arg.ComesTo v) : Side.Formed scope arg (.value v) []

/-- A call that is a side of a comparison. -/
theorem formed_sideCall (hscope : scope.Named) (name : String) (args : List Operand) :
  Issues scope.descriptor.IsBase
    ((do
      let (base, h, args) ← callParts scope name args
      return .expr (.call h args) base) : Translate Side)
    (Side.Formed scope (.call name args))
  := by
  apply issues_bind (formed_callParts hscope name args)
  rintro ⟨base, h, es⟩ before ⟨hh, hbase, xs, hstand, hwrite⟩
  apply issues_pure
  rw [List.append_nil]
  apply Side.Formed.expr hbase ⟨.call hh hstand, h.form_ne_parameter xs⟩
  rw [Expr.text, Expr.texts_eq_map]
  apply Helper.writes_render hwrite

/-- A side of a comparison is written as what the operand stands for. -/
theorem formed_side (hscope : scope.Named) (arg : Operand) :
  Issues scope.descriptor.IsBase (side scope arg) (Side.Formed scope arg)
  := by
  cases arg with
  | column name =>
      rw [side]
      apply issues_bind_silent (silent_resolve name)
      rintro ⟨column, type⟩ hfound
      apply issues_pure
      have hne : ∀ slot, Form.leaf (.ofColumn scope.tableAlias column) ≠
          .leaf (.parameter slot) := by
        intro slot
        cases scope.tableAlias <;> simp [Leaf.ofColumn]
      apply Side.Formed.expr (.inr ⟨name, type, hfound⟩) ⟨.column hfound, hne⟩
      rw [Expr.text]
      apply hscope.writes_column hfound
  | value v =>
      rw [side]
      apply issues_pure (.value (comesTo_value v))
  | computed v =>
      rw [side]
      apply issues_bind_silent (silent_compute v)
      rintro _ rfl
      apply issues_pure (.value (comesTo_computed _))
  | call name args =>
      rw [side]
      split
      · apply formed_sideCall hscope
      · apply issues_bind_silent (silent_fold?_comesTo name args)
        rintro (_ | v) hv
        · apply formed_sideCall hscope
        · apply issues_pure (.value (hv v rfl))

end Translate

/-- A condition for a predicate, with the parameters added for it: it is written as a form that
the predicate stands for, which is no list of arguments. -/
def Predicate.Formed (scope : Scope) (p : Predicate) (c : Condition) (added : List Param) : Prop :=
  ∃ x, p.StandsFor scope added x ∧ Writes c.text x ∧ 1 ≤ x.strength

namespace Translate

variable {scope : Scope}

theorem one_le_level_operator (op : CompareOp) :
  1 ≤ op.operator.level
  := by cases op <;> decide

theorem one_le_level_operatorFor (op : CompareOp) (v : Value) :
  1 ≤ (op.operatorFor v).level
  := by
  unfold CompareOp.operatorFor
  split
  · decide
  · decide
  · apply one_le_level_operator

/-- A comparison with the next parameter is written with that behind the operator. -/
theorem formed_against (hscope : scope.Named) {e : Expr} {base : String} {x : Form}
    (hbase : scope.descriptor.IsBase base) (hwrite : Writes e.text x) (op : CompareOp)
    (v : Value) :
  Issues scope.descriptor.IsBase (against e base op v) fun c added =>
    ∃ name, added = [⟨name, v⟩] ∧
      Writes c.text (.binary (op.operatorFor v) x (.leaf (.parameter ("@" ++ name))))
  := by
  apply issues_bind (issues_issue hbase v)
  rintro _ _ ⟨n, rfl, rfl⟩
  apply issues_pure
  use base ++ decimalText n, rfl
  apply writes_compare (lexes_operatorFor op v) hwrite
  rw [Expr.text]
  apply hscope.writes_parameter hbase n

/-- A comparison is written as what it stands for. -/
theorem formed_comparison (hscope : scope.Named) (l : Operand) (op : CompareOp) (r : Operand) :
  Issues scope.descriptor.IsBase (comparison scope l op r)
    ((Predicate.compare l op r).Formed scope)
  := by
  apply issues_bind (formed_side hscope l)
  intro left before hl
  apply issues_bind (formed_side hscope r)
  intro right after hr
  cases hl with
  | expr hbase hl hwrite =>
      cases hr with
      | expr hbase' hr hwrite' =>
          apply issues_pure
          refine ⟨_, .operands op (hl.mono ?_) (hr.mono ?_), ?_, one_le_level_operator op⟩
          · intro p hp
            simp [hp]
          · intro p hp
            simp [hp]
          · apply writes_compare (lexes_sql op) hwrite hwrite'
      | value hr =>
          apply (formed_against hscope hbase hwrite op _).mono
          rintro c _ ⟨name, rfl, hwrite⟩
          refine ⟨_, .right op (hl.mono ?_) hr ?_, hwrite, one_le_level_operatorFor op _⟩
          · intro p hp
            simp [hp]
          · simp
  | value hl =>
      cases hr with
      | expr hbase hr hwrite =>
          apply (formed_against hscope hbase hwrite op.flipped _).mono
          rintro c _ ⟨name, rfl, hwrite⟩
          refine ⟨_, .left op hl (hr.mono ?_) ?_, hwrite, one_le_level_operatorFor op.flipped _⟩
          · intro p hp
            simp [hp]
          · simp
      | value hr =>
          dsimp only
          split
          · rename_i b hb
            apply issues_pure
            use .constant b, .values hl hr hb, writes_constant b
            cases b <;> decide
          · apply issues_fail

/-- A call that stands as a condition in the SQL. -/
theorem formed_standingCall (hscope : scope.Named) (name : String) (args : List Operand) :
  Issues scope.descriptor.IsBase
    ((do
      let (_, h, args) ← callParts scope name args
      return .call h args) : Translate Condition)
    ((Predicate.call name args).Formed scope)
  := by
  apply issues_bind (formed_callParts hscope name args)
  rintro ⟨base, h, es⟩ before ⟨hh, -, xs, hstand, hwrite⟩
  apply issues_pure
  rw [List.append_nil]
  refine ⟨h.form xs, .call hh hstand, ?_, h.one_le_strength_form xs⟩
  rw [Condition.text, Expr.texts_eq_map]
  apply Helper.writes_render hwrite

/-- A call that is a condition is written as what it stands for. -/
theorem formed_conditionCall (hscope : scope.Named) (name : String) (args : List Operand) :
  Issues scope.descriptor.IsBase (conditionCall scope name args)
    ((Predicate.call name args).Formed scope)
  := by
  unfold conditionCall
  apply issues_bind_silent (silent_helper name)
  intro h hh
  split
  · split
    · apply formed_standingCall hscope
    · apply issues_bind_silent (silent_fold?_comesTo name args)
      rintro (_ | v) hv
      · apply formed_standingCall hscope
      · dsimp only
        split
        · rename_i b hb
          apply issues_pure
          use .constant b, .decided (hv v rfl) hb, writes_constant b
          cases b <;> decide
        · apply issues_fail
  · apply issues_fail

end Translate

namespace Predicate

/-- Whether a predicate is a comparison or a call. -/
def IsTest : Predicate → Prop
  | compare .. | call .. => True
  | _ => False

/-- The condition that is made for a comparison or a call is written as what that stands for. -/
theorem formed_of_run {scope : Scope} {p : Predicate} {c : Condition} {t t' : Trail}
    (hscope : scope.Named) (htest : p.IsTest) (h : Translate.predicate scope p t = (.ok c, t')) :
  ∃ added, t'.params = t.params ++ added ∧ p.Formed scope c added
  := by
  cases p with
  | compare l op r =>
      rw [Translate.predicate] at h
      obtain ⟨added, hparams, -, -, hformed⟩ := Translate.formed_comparison hscope l op r t c t' h
      exact ⟨added, hparams, hformed⟩
  | call name args =>
      rw [Translate.predicate] at h
      obtain ⟨added, hparams, -, -, hformed⟩ :=
        Translate.formed_conditionCall hscope name args t c t' h
      exact ⟨added, hparams, hformed⟩
  | _ => cases htest

/-- A comparison or a call whose operands call no conditions is read as the tree that is meant,
and as no other. -/
theorem parses_of_valued {scope : Scope} {p : Predicate} {c : Condition} {t t' : Trail}
    (hscope : scope.Named) (htest : p.IsTest) (hvalued : p.Valued)
    (h : Translate.predicate scope p t = (.ok c, t')) :
  ∃ added x, t'.params = t.params ++ added ∧ p.StandsFor scope added x ∧
    ∀ T, Parses 1 (tokens c.text) T ↔ T = x.tree
  := by
  obtain ⟨added, hparams, x, hstands, hwrites, hstrength⟩ := formed_of_run hscope htest h
  have hread : Parses 1 (tokens c.text) x.tree := by
    rw [Lexes.tokens_eq hwrites]
    apply (hstands.tight hvalued).parses hstrength
  use added, x, hparams, hstands
  intro T
  constructor
  · intro hT
    apply hT.unique hread
  · rintro rfl
    apply hread

/-- The condition that is made for a comparison or a call, wherever it stands in a predicate,
has the tokens of a form that this stands for.  They are read as the tree that is meant
exactly if the form is tight, and as one tree at most. -/
theorem parses_iff_tight {scope : Scope} {p : Predicate} {c : Condition} {t t' : Trail}
    (hscope : scope.Named) (htest : p.IsTest) (h : Translate.predicate scope p t = (.ok c, t')) :
  ∃ added x, t'.params = t.params ++ added ∧ p.StandsFor scope added x ∧
    tokens c.text = x.tokens ∧ (Parses 1 (tokens c.text) x.tree ↔ x.Tight) ∧
    ∀ T T', Parses 1 (tokens c.text) T → Parses 1 (tokens c.text) T' → T = T'
  := by
  obtain ⟨added, hparams, x, hstands, hwrites, hstrength⟩ := formed_of_run hscope htest h
  have htokens : tokens c.text = x.tokens := Lexes.tokens_eq hwrites
  use added, x, hparams, hstands, htokens
  constructor
  · rw [htokens]
    apply Form.parses_iff hstrength
  · intro T T' hT hT'
    apply hT.unique hT'

/-- A text that is compared with a pattern before an operator that binds as tightly. -/
theorem like_equal_parses :
  let d : Descriptor :=
    { table := "Item", typeName := "Item"
      columns := [{ name := "Name", type := .text }, { name := "Flag", type := .boolean }] }
  let scope : Scope := ⟨d, none, false⟩
  let p : Predicate :=
    .compare (.call "like" [.column "Name", .value (.text "A%")]) .eq (.column "Flag")
  let c : Condition :=
    .compare (.call .like [.column none "Name", .param "Name0"]) "=" (.column none "Flag")
  let params : List Param := [⟨"Name0", .text "A%"⟩]
  scope.Named ∧ p.IsTest ∧
    Translate.predicate scope p { counter := 0 } = (.ok c, { counter := 1, params }) ∧
    c.text = "Name LIKE @Name0 = Flag" ∧
    ∃ added x, params = [] ++ added ∧ p.StandsFor scope added x ∧
      tokens c.text = x.tokens ∧ (Parses 1 (tokens c.text) x.tree ↔ x.Tight) ∧
      ∀ T T', Parses 1 (tokens c.text) T → Parses 1 (tokens c.text) T' → T = T'
  := by
  intro d scope p c params
  have hscope : scope.Named := by
    constructor
    · simp [scope, d]
      decide
    · simp [scope]
  have htest : p.IsTest := trivial
  have hrun : Translate.predicate scope p { counter := 0 } =
      (.ok c, { counter := 1, params }) := by
    dsimp only [d, scope, p, c, params]
    rfl
  use hscope, htest, hrun, rfl
  apply parses_iff_tight hscope htest hrun

/-- A call that is a condition behind an operator that binds as tightly: the comparison is read
with the column alone, and the pattern with what comes of that. -/
theorem like_behind_equal_misread :
  let d : Descriptor :=
    { table := "Item", typeName := "Item"
      columns := [{ name := "Name", type := .text }, { name := "Flag", type := .boolean }] }
  let p : Predicate :=
    .compare (.column "Flag") .eq (.call "like" [.column "Name", .value (.text "A%")])
  let params : List Param := [⟨"Name0", .text "A%"⟩]
  let flag : Form := .leaf (.word "Flag")
  let name : Form := .leaf (.word "Name")
  let pattern : Form := .leaf (.parameter "@Name0")
  let meant : Form := .binary .equal flag (.binary .like name pattern)
  (p.compile {} d none 0).result = .ok ⟨"Flag = Name LIKE @Name0", params⟩ ∧
    p.StandsFor ⟨d, none, false⟩ params meant ∧
    tokens "Flag = Name LIKE @Name0" = meant.tokens ∧
    ¬ Parses 1 (tokens "Flag = Name LIKE @Name0") meant.tree ∧
    Parses 1 (tokens "Flag = Name LIKE @Name0")
      (.binary .like (.binary .equal flag.tree name.tree) pattern.tree)
  := by
  intro d p params flag name pattern meant
  have htokens : tokens "Flag = Name LIKE @Name0" = meant.tokens := by
    have hflag : Writes "Flag" flag := lexes_word (by decide)
    have hname : Writes "Name" name := lexes_word (by decide)
    have hslot : isIdentifier "Name0" = true := by decide
    obtain ⟨hne, hchars⟩ := chars_of_isIdentifier hslot
    have hpattern : Writes ("@" ++ "Name0") pattern := lexes_parameter hne hchars
    have hmeant : Writes ("Flag" ++ " = " ++ ("Name" ++ " LIKE " ++ ("@" ++ "Name0"))) meant :=
      Writes.symbol (by decide) rfl rfl hflag (hname.like hpattern)
    apply Lexes.tokens_eq hmeant
  have hflag : d.resolve? "Flag" = some ("Flag", .boolean) := rfl
  have hname : d.resolve? "Name" = some ("Name", .text) := rfl
  have hhelper : Helper.ofName? "like" = some .like := rfl
  have hmem : ⟨"Name0", .text "A%"⟩ ∈ params := by simp [params]
  have hcolumn : (Operand.column "Name").StandsFor ⟨d, none, false⟩ params name := .column hname
  have hvalue : (Operand.value (.text "A%")).StandsFor ⟨d, none, false⟩ params pattern :=
    .value (Translate.comesTo_value _) hmem
  have hleft : (Operand.column "Flag").Remains ⟨d, none, false⟩ params flag :=
    ⟨.column hflag, by simp [flag]⟩
  have hright : (Operand.call "like" [.column "Name", .value (.text "A%")]).Remains
      ⟨d, none, false⟩ params (.binary .like name pattern) :=
    ⟨.call hhelper (.expr hcolumn (.expr hvalue .nil)), by simp⟩
  have hmeant : ¬ meant.Tight := by decide
  let read : Form := .binary .like (.binary .equal flag name) pattern
  have hread : read.Tight := by decide
  refine ⟨rfl, .operands .eq hleft hright, htokens, ?_, ?_⟩
  · rw [htokens, Form.parses_iff (by decide)]
    apply hmeant
  · rw [htokens]
    apply hread.parses (by decide)

end Predicate

end EntityStore
