import EntityStore.Config
import EntityStore.Entity.Descriptor
import EntityStore.Event
import EntityStore.Sql.Condition

/-!
# Translating predicates

A predicate is translated to a condition in SQL, whose parameters are named after a
column and numbered by a counter that all fragments of one statement share.  A part
that has no SQL makes the whole predicate untranslatable: it then holds for no row,
or is an error, as the policy says.
-/

namespace EntityStore

open Sql

/-- Why a predicate has no SQL. -/
inductive Untranslatable where
  | unknownColumn (name table : String)
  | notBoolean (column label : String)
  | unknownHelper (name : String)
  | cannotEvaluate (name : String)
  | notAValue (name : String)
  | columnAsLiteral (name : String)
  | argumentCount (name : String) (expected given : Nat)
  | opaqueTimestamps (name : String)
  | notAnInteger (name kind : String)
  | notAnIdentifier (name shown : String)
  | notACondition (name : String)
  | notABoolean (name : String)
  | cannotOrder (left right : String)
  deriving DecidableEq, Repr

/-- The reason in words. -/
def Untranslatable.reason : Untranslatable → String
  | unknownColumn name table => s!"unknown column '{name}' on {table}"
  | notBoolean column label => s!"member '{column}' is {label}, not a boolean"
  | unknownHelper name => s!"unknown function '{name}'"
  | cannotEvaluate name => s!"cannot evaluate {name}(..) on literal arguments"
  | notAValue name => s!"{name}(..) cannot be used as a value"
  | columnAsLiteral name => s!"column '{name}' used as a literal"
  | argumentCount name expected given =>
    s!"{name} expects {decimalText expected} argument(s), got {decimalText given}"
  | opaqueTimestamps name =>
    s!"{name}(..) needs ISO-8601 timestamps; the configured datetime format is not"
  | notAnInteger name kind => s!"{name} expects an integer literal, got {kind}"
  | notAnIdentifier name shown => s!"{name} expects an identifier, got {shown}"
  | notACondition name => s!"{name}(..) is not a condition"
  | notABoolean name => s!"{name}(..) did not evaluate to a boolean"
  | cannotOrder left right => s!"cannot order {left} against {right}"

/-- What names mean in a predicate. -/
structure Scope where
  descriptor : Descriptor
  tableAlias : Option String := none
  /-- Whether timestamps are stored in a form that date functions cannot read. -/
  opaqueTimestamps : Bool := false

/-- What a translation has brought about: the counter, the parameters issued, and the
values worked out. -/
structure Trail where
  counter : Nat
  params : List Param := []
  computed : List Value := []

/-- A step of a translation.  The trail is kept when it fails. -/
abbrev Translate := ExceptT Untranslatable (StateM Trail)

namespace Translate

/-- A failed step. -/
def fail {α : Type} (u : Untranslatable) : Translate α :=
  throw u

/-- Issues the next parameter, named after a column. -/
def issue (base : String) (v : Value) : Translate Expr := do
  let trail : Trail ← get
  let p : Param := ⟨base ++ decimalText trail.counter, v⟩
  set { trail with counter := trail.counter + 1, params := trail.params ++ [p] }
  return .param p.name

/-- Works out a value. -/
def compute (v : Value) : Translate Value := do
  modify fun trail => { trail with computed := trail.computed ++ [v] }
  return v

/-- The declared spelling and type of a column. -/
def resolve (scope : Scope) (name : String) : Translate (String × ColumnType) :=
  match scope.descriptor.resolve? name with
  | some found => return found
  | none => fail (.unknownColumn name scope.descriptor.table)

/-- The helper with a name. -/
def helper (name : String) : Translate Helper :=
  match Helper.ofName? name with
  | some h => return h
  | none => fail (.unknownHelper name)

/-- The value of a call on values. -/
def evaluate (h : Helper) (name : String) (values : List Value) : Translate Value :=
  match h.evaluate? values with
  | some v => return v
  | none => fail (.cannotEvaluate name)

mutual

/-- The value of an operand without columns. -/
def literal : Operand → Translate Value
  | .value v => return v
  | .computed v => compute v
  | .column name => fail (.columnAsLiteral name)
  | .call name args => do
    let h ← helper name
    if h.canEvaluate then
      let values ← literals args
      evaluate h name values
    else fail (.notAValue name)

/-- The values of operands without columns. -/
def literals : List Operand → Translate (List Value)
  | [] => return []
  | arg :: args => do
    let v ← literal arg
    let vs ← literals args
    return v :: vs

end

/-- The value of a call without columns, unless the helper has none. -/
def fold? (name : String) (args : List Operand) : Translate (Option Value) := do
  let h ← helper name
  if h.canEvaluate then
    let values ← literals args
    let v ← evaluate h name values
    return some v
  else return none

/-- The helper of a call that is going to stand in the SQL. -/
def callee (scope : Scope) (name : String) (given : Nat) : Translate Helper := do
  let h ← helper name
  if given ≠ h.arity then fail (.argumentCount h.name h.arity given)
  else if h.readsTimestamps && scope.opaqueTimestamps then fail (.opaqueTimestamps h.name)
  else return h

/-- An integer that stands in the SQL. -/
def integerArgument (h : Helper) (arg : Operand) : Translate Expr := do
  match ← literal arg with
  | .int n => return .integer n
  | other => fail (.notAnInteger h.name other.kind)

/-- A name that stands in the SQL. -/
def nameArgument (h : Helper) (arg : Operand) : Translate Expr := do
  let other ← literal arg
  match other with
  | .text s =>
    if isIdentifier s then return .ident s else fail (.notAnIdentifier h.name other.shown)
  | _ => fail (.notAnIdentifier h.name other.shown)

mutual

/-- An argument that is an expression. -/
def expression (scope : Scope) (base : String) : Operand → Translate Expr
  | .column name => do
    let (declared, _) ← resolve scope name
    return .column scope.tableAlias declared
  | .value v => issue base v
  | .computed v => do
    let v ← compute v
    issue base v
  | .call name args => do
    let folded ← if Operand.mentionColumn args then pure none else fold? name args
    match folded with
    | some v => issue base v
    | none => do
      let h ← callee scope name args.length
      let args ← arguments scope base h h.args args
      return .call h args

/-- The arguments of a call that stands in the SQL. -/
def arguments (scope : Scope) (base : String) (h : Helper) :
    List ArgumentKind → List Operand → Translate (List Expr)
  | kind :: kinds, arg :: args => do
    let e ← match kind with
      | .expr => expression scope base arg
      | .int => integerArgument h arg
      | .ident => nameArgument h arg
    let es ← arguments scope base h kinds args
    return e :: es
  | _, _ => return []

end

/-- The declared spelling of the column that parameters of a call are named after. -/
def baseOf (scope : Scope) (args : List Operand) : Translate String :=
  match Operand.firstColumnOf? args with
  | some name => do
    let (declared, _) ← resolve scope name
    return declared
  | none => return "Value"

/-- A call that stands in the SQL: its base, its helper and its arguments. -/
def callParts (scope : Scope) (name : String) (args : List Operand) :
    Translate (String × Helper × List Expr) := do
  let base ← baseOf scope args
  let h ← callee scope name args.length
  let args ← arguments scope base h h.args args
  return (base, h, args)

/-- A side of a comparison: an expression with the base of its parameters, or a value. -/
inductive Side where
  | expr (e : Expr) (base : String)
  | value (v : Value)

/-- A side of a comparison. -/
def side (scope : Scope) : Operand → Translate Side
  | .column name => do
    let (declared, _) ← resolve scope name
    return .expr (.column scope.tableAlias declared) declared
  | .value v => return .value v
  | .computed v => do
    let v ← compute v
    return .value v
  | .call name args => do
    let folded ← if Operand.mentionColumn args then pure none else fold? name args
    match folded with
    | some v => return .value v
    | none => do
      let (base, h, args) ← callParts scope name args
      return .expr (.call h args) base

/-- The truth of a comparison of two values. -/
def compareValues (l : Value) (op : CompareOp) (r : Value) : Except Untranslatable Bool :=
  match op, l.compare? r with
  | .eq, ordering => .ok (ordering = some .eq)
  | .ne, ordering => .ok (ordering ≠ some .eq)
  | _, none => .error (.cannotOrder l.kind r.kind)
  | .lt, some o => .ok (o = .lt)
  | .le, some o => .ok (o ≠ .gt)
  | .gt, some o => .ok (o = .gt)
  | .ge, some o => .ok (o ≠ .lt)

/-- The operator for a comparison with a value. -/
def operatorFor (op : CompareOp) (v : Value) : String :=
  match op.nullSafe? with
  | some operator => if v.isNull then operator else op.sql
  | none => op.sql

/-- An expression compared with a value. -/
def against (e : Expr) (base : String) (op : CompareOp) (v : Value) : Translate Condition := do
  let p ← issue base v
  return .compare e (operatorFor op v) p

/-- A comparison. -/
def comparison (scope : Scope) (left : Operand) (op : CompareOp) (right : Operand) :
    Translate Condition := do
  let l ← side scope left
  let r ← side scope right
  match l, r with
  | .expr e _, .expr f _ => return .compare e op.sql f
  | .expr e base, .value v => against e base op v
  | .value v, .expr e base => against e base op.flipped v
  | .value v, .value w =>
    match compareValues v op w with
    | .ok b => return .constant b
    | .error u => fail u

/-- A column of truth values. -/
def member (scope : Scope) (column : String) (expected : Bool) : Translate Condition := do
  let (declared, type) ← resolve scope column
  if type = .boolean then return .truth scope.tableAlias declared expected
  else fail (.notBoolean declared type.label)

/-- A call that is a condition. -/
def conditionCall (scope : Scope) (name : String) (args : List Operand) :
    Translate Condition := do
  let h ← helper name
  if h.isCondition then
    let folded ← if Operand.mentionColumn args then pure none else fold? name args
    match folded with
    | some v =>
      match v.asBool? with
      | some b => return .constant b
      | none => fail (.notABoolean name)
    | none => do
      let (_, h, args) ← callParts scope name args
      return .call h args
  else fail (.notACondition h.name)

/-- A predicate. -/
def predicate (scope : Scope) : Predicate → Translate Condition
  | .constant b => return .constant b
  | .member column => member scope column true
  | .compare l op r => comparison scope l op r
  | .call name args => conditionCall scope name args
  | .not (.member column) => member scope column false
  | .not (.constant b) => return .constant !b
  | .not p => do
    let c ← predicate scope p
    return .not c
  | .combine logic p q => do
    let c ← predicate scope p
    let d ← predicate scope q
    return .combine logic c d

end Translate

/-- What a translation comes to. -/
structure Translation where
  outcome : Except Untranslatable (Condition × List Param)
  /-- The counter after the parameters issued; what it was before if there is no SQL. -/
  counter : Nat
  computed : List Value

/-- The translation of a predicate with the counter at a number. -/
def Predicate.translate (p : Predicate) (scope : Scope) (counter : Nat) : Translation :=
  match (Translate.predicate scope p).run { counter } with
  | (.ok c, trail) => ⟨.ok (c, trail.params), trail.counter, trail.computed⟩
  | (.error u, trail) => ⟨.error u, counter, trail.computed⟩

/-- How predicates are translated. -/
structure TranslationRules where
  policy : TranslationPolicy := .failClosed
  /-- Whether timestamps are stored in a form that date functions cannot read. -/
  opaqueTimestamps : Bool := false
  deriving DecidableEq, Repr

namespace TranslationRules

/-- The rules for timestamps in a format. -/
def forFormat (policy : TranslationPolicy) (format : String) : TranslationRules :=
  ⟨policy, !Calendar.isInternational format⟩

/-- The rules of a configuration. -/
def ofConfig (config : Config) : TranslationRules :=
  forFormat config.policy config.format

/-- What becomes of a part on a table that has no SQL: a condition that holds for no row
together with a report, or an error. -/
def degrade (rules : TranslationRules) (table reason : String) :
    Except Error Fragment × List Event :=
  match rules.policy with
  | .strict => (.error (.translation table reason), [])
  | .failClosed =>
    (.ok ⟨alwaysFalse, []⟩,
     [{ operation := "translate", message := reason, context := some table }])

end TranslationRules

/-- The fragment a predicate comes to, with the reports and the counter after it. -/
structure Compiled where
  result : Except Error Fragment
  events : List Event
  counter : Nat
  computed : List Value

/-- The fragment of a predicate on a table, which may have an alias. -/
def Predicate.compile (p : Predicate) (rules : TranslationRules) (descriptor : Descriptor)
    (tableAlias : Option String) (counter : Nat) : Compiled :=
  let t := p.translate ⟨descriptor, tableAlias, rules.opaqueTimestamps⟩ counter
  match t.outcome with
  | .ok (c, params) => ⟨.ok ⟨c.text, params⟩, [], t.counter, t.computed⟩
  | .error u =>
    let (result, events) := rules.degrade descriptor.table u.reason
    ⟨result, events, t.counter, t.computed⟩

/-- The fragments of predicates that share a counter. -/
def Predicate.compileAll (rules : TranslationRules) (descriptor : Descriptor)
    (tableAlias : Option String) : List Predicate → (counter : Nat) → List Compiled
  | [], _ => []
  | p :: ps, counter =>
    let c := p.compile rules descriptor tableAlias counter
    c :: compileAll rules descriptor tableAlias ps c.counter

end EntityStore
