import EntityStore.Sql.Expression

/-!
# Columns of a result

The columns that a statement asks for: expressions, each with a name.
-/

namespace EntityStore.Sql

/-- A column of a result. -/
structure ResultColumn where
  name : String
  expression : Expression
  deriving DecidableEq

namespace ResultColumn

/-- Refuses all columns of all tables, of which there are none. -/
def refuseAll : Reading Unit := do
  match ← get with
  | [] => throw (.problem "no tables specified")
  | l :: _ =>
    if l.token = .symbol "," then throw (.problem "no tables specified") else throw (.token l)

/-- Reads a column.  Without a name of its own it is named as its expression is written. -/
def read (fuel : Nat) : Reading ResultColumn := do
  if ← Reading.accept (Expression.isSymbol "*") then refuseAll
  let before ← get
  let e ← Expression.read fuel 0
  if ← Reading.accept (Token.isWord "AS") then return ⟨← Reading.name, e⟩
  else match (← Reading.ahead).bind Token.freeName? with
    | some s => do
      Reading.skip
      return ⟨s, e⟩
    | none => do
      let after ← get
      return ⟨Lexeme.span (before.take (before.length - after.length)), e⟩

/-- Reads columns to the end, with commas between them. -/
def readAll : (fuel : Nat) → Reading (List ResultColumn)
  | 0 => throw .ended
  | fuel + 1 => do
    let column ← read (fuel + 1)
    match ← get with
    | [] => return [column]
    | _ =>
      Reading.expect (Expression.isSymbol ",")
      let rest ← readAll fuel
      return column :: rest

end ResultColumn

end EntityStore.Sql
