import EntityStore.Predicate
import EntityStore.Predicate.Helper
import EntityStore.Sql.Name

/-!
# Conditions in SQL

The tree a predicate is translated to, and its text.
-/

namespace EntityStore.Sql

/-- An expression, or an argument that stands in the SQL as it is. -/
inductive Expr where
  | column (tableAlias : Option String) (name : String)
  | param (name : String)
  | integer (n : Int64)
  | ident (name : String)
  | call (helper : Helper) (args : List Expr)

/-- A condition. -/
inductive Condition where
  | constant (b : Bool)
  /-- A column of truth values is as expected. -/
  | truth (tableAlias : Option String) (column : String) (expected : Bool)
  | compare (left : Expr) (operator : String) (right : Expr)
  | call (helper : Helper) (args : List Expr)
  | not (c : Condition)
  | combine (logic : Logic) (left right : Condition)

/-- A condition that holds for no row. -/
def alwaysFalse : String := "1 != 1"

/-- A condition that holds for every row. -/
def alwaysTrue : String := "1 = 1"

/-- A constant condition. -/
def constant (b : Bool) : String :=
  if b then alwaysTrue else alwaysFalse

/-- A column behind the alias of its table. -/
def columnText (tableAlias : Option String) (name : String) : String :=
  match tableAlias with
  | some a => s!"{a}.{name}"
  | none => name

namespace Expr

mutual

/-- The text of an expression. -/
def text : Expr → String
  | column tableAlias name => columnText tableAlias name
  | param name => s!"@{name}"
  | integer n => decimalText n.toInt
  | ident name => quoteName name
  | call h args => h.render (texts args)

/-- The texts of expressions. -/
def texts : List Expr → List String
  | [] => []
  | e :: es => text e :: texts es

end

theorem texts_eq_map (es : List Expr) :
  texts es = es.map text
  := by
  induction es with
  | nil => simp [texts]
  | cons e es ih => simp [texts, ih]

end Expr

/-- The text of a condition. -/
def Condition.text : Condition → String
  | .constant b => Sql.constant b
  | .truth tableAlias column expected =>
    let digit := if expected then "1" else "0"
    s!"{columnText tableAlias column} = {digit}"
  | .compare l operator r => s!"{l.text} {operator} {r.text}"
  | .call h args => h.render (Expr.texts args)
  | .not c => s!"NOT ({c.text})"
  | .combine logic l r => s!"({l.text} {logic.sql} {r.text})"

/-- SQL with the parameters it mentions. -/
structure Fragment where
  sql : String
  params : List Param := []
  deriving DecidableEq

namespace Fragment

/-- Whether a fragment is the condition that holds for no row. -/
def isAlwaysFalse (f : Fragment) : Bool :=
  f.sql == alwaysFalse

/-- Two conditions together. -/
def and (f g : Fragment) : Fragment where
  sql := s!"({f.sql} AND {g.sql})"
  params := f.params ++ g.params

/-- All conditions together, if there are any. -/
def all? : List Fragment → Option Fragment
  | [] => none
  | f :: fs => some (fs.foldl and f)

end Fragment

end EntityStore.Sql
