import EntityStore.Predicate.Like
import EntityStore.Value

/-!
# Helper functions of predicates

The functions a predicate can call.  Each has kinds of arguments, a form in SQL, and
as a rule an evaluation on values, so that calls without columns need no database.
-/

namespace EntityStore

open Text

/-- What an argument of a helper is. -/
inductive ArgumentKind where
  /-- A column, a call or a parameter. -/
  | expr
  /-- An integer that stands in the SQL. -/
  | int
  /-- A name that stands in the SQL. -/
  | ident
  deriving DecidableEq, Repr

/-- A helper function. -/
inductive Helper where
  | like
  | startsWith
  | endsWith
  | contains
  | round
  | abs
  | min
  | max
  | avg
  | sameDay
  | dateBefore
  | dateAfter
  | equalsIn
  deriving DecidableEq, Repr

namespace Helper

/-- All helpers. -/
def all : List Helper :=
  [like, startsWith, endsWith, contains, round, abs, min, max, avg, sameDay, dateBefore,
   dateAfter, equalsIn]

/-- The name of a helper in a predicate. -/
def name : Helper → String
  | like => "like"
  | startsWith => "starts_with"
  | endsWith => "ends_with"
  | contains => "contains"
  | round => "round"
  | abs => "abs"
  | min => "min"
  | max => "max"
  | avg => "avg"
  | sameDay => "same_day"
  | dateBefore => "date_before"
  | dateAfter => "date_after"
  | equalsIn => "equals_in"

/-- The helper with a name. -/
def ofName? (name : String) : Option Helper :=
  all.find? fun h => sameName h.name name

/-- The kinds of the arguments. -/
def args : Helper → List ArgumentKind
  | round => [.expr, .int]
  | abs => [.expr]
  | equalsIn => [.expr, .ident, .ident]
  | _ => [.expr, .expr]

/-- The number of arguments. -/
def arity (h : Helper) : Nat :=
  h.args.length

/-- Whether a call is a condition. -/
def isCondition : Helper → Bool
  | like | startsWith | endsWith | contains | sameDay | dateBefore | dateAfter | equalsIn => true
  | round | abs | min | max | avg => false

/-- Whether the SQL calls date functions, which read timestamps in international form only. -/
def readsTimestamps : Helper → Bool
  | sameDay | dateBefore | dateAfter => true
  | _ => false

/-- The SQL of a text with the signs of patterns and the escape sign escaped. -/
def literalPattern (sql : String) : String :=
  "replace(replace(replace(" ++ sql ++ ", '\\', '\\\\'), '%', '\\%'), '_', '\\_')"

/-- The SQL of a call with the SQL of its arguments. -/
def render (h : Helper) (args : List String) : String :=
  let a := args.getD 0 ""
  let b := args.getD 1 ""
  let c := args.getD 2 ""
  match h with
  | like => s!"{a} LIKE {b}"
  | startsWith => s!"{a} LIKE {literalPattern b} || '%' ESCAPE '\\'"
  | endsWith => s!"{a} LIKE '%' || {literalPattern b} ESCAPE '\\'"
  | contains => s!"{a} LIKE '%' || {literalPattern b} || '%' ESCAPE '\\'"
  | round => s!"ROUND({a}, {b})"
  | abs => s!"ABS({a})"
  | min => s!"MIN({a}, {b})"
  | max => s!"MAX({a}, {b})"
  | avg => s!"(({a} + {b}) / 2.0)"
  | sameDay => s!"date({a}) = date({b})"
  | dateBefore => s!"julianday({a}) < julianday({b})"
  | dateAfter => s!"julianday({a}) > julianday({b})"
  | equalsIn => s!"{a} IN (SELECT {c} FROM {b})"

/-- Whether calls can be evaluated on values. -/
def canEvaluate : Helper → Bool
  | equalsIn => false
  | _ => true

/-- A relation of two texts without regard to case. -/
def onTexts? (relation : List Char → List Char → Bool) (a b : Value) : Option Value := do
  let s ← a.asText?
  let p ← b.asText?
  return .bool (relation (lower s).toList (lower p).toList)

/-- A relation of two timestamps. -/
def onTimestamps? (relation : Timestamp → Timestamp → Bool) (a b : Value) : Option Value := do
  let s ← a.asTimestamp?
  let t ← b.asTimestamp?
  return .bool (relation s t)

/-- A number rounded to so many decimal places. -/
def rounded? (a b : Value) : Option Value := do
  let x ← a.asDouble?
  let digits := (← b.asInt?).toInt
  if -2147483648 ≤ digits ∧ digits ≤ 2147483647 then
    let scale := Binary64.power (Binary64.ofInt 10) digits
    return .double (((x.mul scale).round).div scale)
  else none

/-- A number without its sign; there is none for the least integer. -/
def absolute? : Value → Option Value
  | .int n => if n = Int64.minValue then none else some (.int (if n < 0 then -n else n))
  | .double x => some (.double x.abs)
  | _ => none

/-- The first of two values if it compares as wanted or equal, else the second. -/
def pick? (wanted : Ordering) (a b : Value) : Option Value := do
  let ordering ← a.compare? b
  return if ordering = wanted ∨ ordering = .eq then a else b

/-- The middle of two numbers. -/
def mean? (a b : Value) : Option Value := do
  let x ← a.asDouble?
  let y ← b.asDouble?
  return .double ((x.add y).div (Binary64.ofInt 2))

/-- The value of a call on two values. -/
def onTwo? (h : Helper) (a b : Value) : Option Value :=
  match h with
  | like => onTexts? Like.matchesPattern a b
  | startsWith => onTexts? (fun s p => p.isPrefixOf s) a b
  | endsWith => onTexts? (fun s p => p.isSuffixOf s) a b
  | contains => onTexts? (fun s p => occursIn p s) a b
  | round => rounded? a b
  | min => pick? .lt a b
  | max => pick? .gt a b
  | avg => mean? a b
  | sameDay => onTimestamps? (fun s t => s.date = t.date) a b
  | dateBefore => onTimestamps? (fun s t => s.compare t = .lt) a b
  | dateAfter => onTimestamps? (fun s t => s.compare t = .gt) a b
  | abs | equalsIn => none

/-- The value of a call on values, if there is one. -/
def evaluate? (h : Helper) (values : List Value) : Option Value :=
  match values with
  | [a] => if h = abs then absolute? a else none
  | [a, b] => h.onTwo? a b
  | _ => none

end Helper

end EntityStore
