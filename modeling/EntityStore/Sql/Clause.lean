import EntityStore.Entity.Record
import EntityStore.Sql.Condition

/-!
# Parts of statements

Conditions that are written by the library itself, and how conditions are put together.
-/

namespace EntityStore.Sql

/-- The equality of two columns, or what stands for one with an unknown column. -/
inductive Equality where
  | columns (leftAlias leftColumn rightAlias rightColumn : String)
  | never
  deriving DecidableEq, Repr

/-- An equality in SQL. -/
def Equality.sql : Equality → String
  | .columns leftAlias leftColumn rightAlias rightColumn =>
    s!"{leftAlias}.{leftColumn} = {rightAlias}.{rightColumn}"
  | .never => alwaysFalse

/-- The condition that a row of a table has not been deleted. -/
def activeGuard (tableAlias : String) : String :=
  s!"{tableAlias}.{activeFlag} = 1"

/-- All conditions together. -/
def allOf (conditions : List String) : String :=
  " AND ".intercalate conditions

/-- The part of a statement that asks for all conditions, if there are any. -/
def whereSql (conditions : List String) : String :=
  if conditions.isEmpty then "" else s!" WHERE {allOf conditions}"

end EntityStore.Sql
