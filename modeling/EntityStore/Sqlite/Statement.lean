import EntityStore.Sql.ResultColumn

/-!
# Statements on an empty database

What a statement asks of a database that has no tables.  Statements without tables are
read in full; of any other it matters only which table it needs first.
-/

namespace EntityStore.Sqlite

open Text Sql

/-- A statement. -/
inductive Statement where
  /-- There is nothing but blanks and comments. -/
  | blank
  | begin
  | commit
  | rollback
  /-- Asks whether foreign keys are enforced. -/
  | askEnforcement
  | setEnforcement (on : Bool)
  /-- Rows of expressions under the names of columns. -/
  | rows (columns : List String) (cells : List (List Expression))
  /-- Makes a table or an index. -/
  | define
  /-- Reads the catalog. -/
  | catalog
  /-- Reads or changes a table. -/
  | onTable (name : String)
  /-- Cannot be read, with what is wrong. -/
  | unreadable (problem : String)
  deriving DecidableEq

namespace Statement

/-- Steps enough to read tokens: each takes one, or is one of the few before that. -/
def enough (ls : List Lexeme) : Nat :=
  4 * ls.length + 4

/-- One row of expressions, in a statement that is closed or not. -/
def row (closed : Bool) (ls : List Lexeme) : Statement :=
  match (ResultColumn.readAll (enough ls)).run' ls with
  | .ok columns => rows (columns.map (·.name)) [columns.map (·.expression)]
  | .error refusal => unreadable (refusal.message closed)

/-- An expression in parentheses. -/
def cell? (ls : List Lexeme) : Option (List Expression) :=
  match (Expression.readOperand (enough ls)).run ls with
  | .ok (e, []) => some [e]
  | _ => none

/-- Rows of one expression each. -/
def rows? (ls : List Lexeme) : Option Statement := do
  let cells ← (splitWhere (·.token = .symbol ",") ls).mapM cell?
  return rows ["column1"] cells

/-- Whether a keyword comes before the name of a table. -/
def leadsTable (t : Token) : Bool :=
  ["FROM", "INTO", "UPDATE"].any t.isWord

/-- Where a statement names the table it needs first.  A test for distinct values and a
statement within are no tables. -/
def table? : List Lexeme → Option Lexeme
  | l :: m :: rest =>
    if l.token.isWord "DISTINCT" ∧ m.token.isWord "FROM" then table? rest
    else if leadsTable l.token ∧ m.token ≠ .symbol "(" then some m
    else table? (m :: rest)
  | _ => none

/-- The name of the catalog. -/
def catalogName : String := "sqlite_master"

/-- A statement that reads or changes the table that a token names. -/
def ofTable (l : Lexeme) : Statement :=
  match l.token.name? with
  | some name => if sameName name catalogName then catalog else onTable name
  | none => unreadable l.unexpected

/-- A statement about the enforcement of foreign keys. -/
def enforcement? : List Token → Option Statement
  | [.word topic] => if sameName topic "foreign_keys" then some askEnforcement else none
  | [.word topic, .symbol "=", .word setting] =>
    if sameName topic "foreign_keys" then some (setEnforcement (sameName setting "ON")) else none
  | _ => none

/-- The statement that a keyword and the tokens after it stand for.  It may be closed by a
semicolon. -/
def ofKeyword? (closed : Bool) (keyword : String) (rest : List Lexeme) : Option Statement :=
  match lower keyword with
  | "begin" => some begin
  | "commit" => some commit
  | "rollback" => some rollback
  | "pragma" => enforcement? (rest.map (·.token))
  | "create" => some define
  | "values" => rows? rest
  | "select" => some ((table? rest).elim (row closed rest) ofTable)
  | "insert" | "delete" => (table? rest).map ofTable
  | "update" => rest.head?.map ofTable
  | _ => none

/-- The statement that tokens stand for. -/
def ofLexemes (closed : Bool) : List Lexeme → Statement
  | [] => blank
  | l :: rest =>
    let statement? := match l.token with
      | .word keyword => ofKeyword? closed keyword rest
      | _ => none
    statement?.getD (unreadable l.unexpected)

/-- The statements of a text, with blank ones among them.  All but the last are closed. -/
def all (sql : String) : List Statement :=
  let pieces := splitWhere (·.token = .symbol ";") (lexemes sql.toList)
  pieces.dropLast.map (ofLexemes true) ++ (pieces.getLast?.map (ofLexemes false)).toList

/-- The first statement of a text. -/
def first (sql : String) : Statement :=
  (all sql).headD blank

/-- The names of the columns of the result. -/
def columns : Statement → List String
  | rows names _ => names
  | _ => []

/-- The expressions of a statement. -/
def expressions : Statement → List Expression
  | rows _ cells => cells.flatten
  | _ => []

/-- The parameters of a statement. -/
def parameters (s : Statement) : List String :=
  s.expressions.flatMap Expression.parameters

/-- The number of parameters of a statement, each counted once. -/
def parameterCount (s : Statement) : Nat :=
  (s.parameters.mergeSort fun a b => a ≤ b).eraseReps.length

end Statement

end EntityStore.Sqlite
