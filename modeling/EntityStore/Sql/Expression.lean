import EntityStore.Sql.Reading
import EntityStore.Value.Operation

/-!
# Expressions of SQL

Expressions of literals, parameters, columns and operations, how they are read, and their
values where no columns are needed.  Of the functions there is only the absolute value.
-/

namespace EntityStore.Sql

open Text

/-- An expression. -/
inductive Expression where
  | literal (v : Value)
  /-- A truth value by its name. -/
  | truth (b : Bool)
  | parameter (slot : String)
  | column (name : String)
  | unary (op : UnaryOp) (e : Expression)
  | binary (op : BinaryOp) (a b : Expression)
  deriving DecidableEq

namespace Expression

/-- The parameters in an expression. -/
def parameters : Expression → List String
  | parameter slot => [slot]
  | unary _ e => e.parameters
  | binary _ a b => a.parameters ++ b.parameters
  | _ => []

/-- The first column that an expression needs. -/
def needed? : Expression → Option String
  | column name => some name
  | unary _ e => e.needed?
  | binary _ a b => a.needed?.or b.needed?
  | _ => none

/-- The value of an expression for values of the parameters, if no column is needed and
every operation has a result. -/
def value? (bound : String → Value) : Expression → Option Value
  | literal v => some v
  | truth b => some (Value.ofTruth (some b))
  | parameter slot => some (bound slot)
  | column _ => none
  | unary op e => do op.apply? (← e.value? bound)
  | binary op a b => do return op.apply (← a.value? bound) (← b.value? bound)

/-! ### What is written for others -/

/-- Whether an expression is another; is true, or is false, for the name of a truth
value. -/
def isSame (a : Expression) : Expression → Expression
  | truth b => unary (.isTruth b) a
  | b => binary .is a b

/-- Whether an expression lies between two others. -/
def between (e least most : Expression) : Expression :=
  binary .and (binary .atLeast e least) (binary .atMost e most)

/-- Whether an expression is one of a list. -/
def oneOf (e : Expression) : List Expression → Expression
  | [] => binary .and e (truth false)
  | a :: rest => rest.foldl (fun found b => binary .or found (binary .equal e b))
      (binary .equal e a)

/-- The opposite of an expression if `negated`. -/
def opposite (negated : Bool) (e : Expression) : Expression :=
  if negated then unary .not e else e

/-! ### Literals -/

/-- Whether every underscore among digits stands between two. -/
def wellSeparated : List Char → Bool
  | '_' :: _ => false
  | [_] | [] => true
  | _ :: '_' :: rest => rest.head?.any Token.isHexDigit && wellSeparated rest
  | _ :: rest => wellSeparated rest

/-- The value of a number.  Hexadecimal digits stand for the bits of an integer. -/
def numberValue (digits : String) : Value :=
  let s := digits.toList.filter (· ≠ '_')
  match s with
  | '0' :: 'x' :: rest | '0' :: 'X' :: rest =>
    .int (rest.foldl (fun n c => 16 * n + ((hexDigit? c).getD 0 : Nat)) 0 : Nat).toInt64
  | _ =>
    if s.all Char.isDigit then Value.ofInt (ofDigits (s.filterMap digit?))
    else ((Binary64.ofText? (String.ofList s)).map Value.double).getD .null

/-- The digits of the least integer, which is no integer without its sign. -/
def leastDigits : String := "9223372036854775808"

/-! ### Operations -/

/-- How tightly operations bind, from the least tight. -/
def orLevel : Nat := 1

/-- How tightly `AND` binds. -/
def andLevel : Nat := 2

/-- How tightly `NOT` binds. -/
def notLevel : Nat := 3

/-- How tightly tests for equality and ranges bind. -/
def equalityLevel : Nat := 4

/-- How tightly the rule for comparing texts binds. -/
def collationLevel : Nat := 10

/-- How tightly a sign binds. -/
def signLevel : Nat := 11

/-- The operation that a symbol between two expressions stands for, and how tightly it
binds. -/
def ofSymbol? : String → Option (BinaryOp × Nat)
  | "=" | "==" => some (.equal, equalityLevel)
  | "<>" | "!=" => some (.unequal, equalityLevel)
  | "<" => some (.less, 5)
  | "<=" => some (.atMost, 5)
  | ">" => some (.greater, 5)
  | ">=" => some (.atLeast, 5)
  | "&" => some (.bitAnd, 6)
  | "|" => some (.bitOr, 6)
  | "<<" => some (.shiftLeft, 6)
  | ">>" => some (.shiftRight, 6)
  | "+" => some (.add, 7)
  | "-" => some (.subtract, 7)
  | "*" => some (.multiply, 8)
  | "/" => some (.divide, 8)
  | "%" => some (.remainder, 8)
  | "||" => some (.join, 9)
  | _ => none

/-- The operation that a token between two expressions stands for, and how tightly it
binds. -/
def operation? (t : Token) : Option (BinaryOp × Nat) :=
  match t with
  | .symbol s => ofSymbol? s
  | _ =>
    if t.isWord "OR" then some (.or, orLevel)
    else if t.isWord "AND" then some (.and, andLevel)
    else none

/-! ### Reading -/

/-- The expression of a word that nothing qualifies. -/
def ofWord (l : Lexeme) (s : String) : Reading Expression :=
  if l.token.isWord "NULL" then return literal .null
  else if l.token.isWord "TRUE" then return truth true
  else if l.token.isWord "FALSE" then return truth false
  else if l.token.isReserved then throw (.token l)
  else return column s

/-- The column of a table: a name after the one of the table. -/
def readColumn (l : Lexeme) : Reading Expression := do
  let m ← Reading.one
  match l.token.name?, m.token.name? with
  | none, _ => throw (.token l)
  | _, none => throw (.token m)
  | some table, some s => return column s!"{table}.{s}"

/-- The expression of one token that is no word. -/
def ofToken (l : Lexeme) : Reading Expression :=
  match l.token with
  | .parameter slot => return parameter slot
  | .number digits =>
    if wellSeparated digits.toList then return literal (numberValue digits)
    else throw (.problem (Lexeme.unexpected { l with token := .illegal }))
  | .textLiteral s => return literal (.text s)
  | .bytesLiteral b => return literal (.bytes b)
  | .quotedName s => return if l.text.startsWith "\"" then literal (.text s) else column s
  | _ => throw (.token l)

/-- The value of a function for arguments. -/
def call (function : String) (arguments : List Expression) : Reading Expression :=
  match arguments.findSome? needed?, sameName function "abs", arguments with
  | some s, _, _ => throw (.problem s!"no such column: {s}")
  | none, false, _ => throw (.problem s!"no such function: {function}")
  | none, true, [e] => return unary .abs e
  | none, true, _ =>
    throw (.problem s!"wrong number of arguments to function {function}()")

/-- Whether a token is a symbol. -/
def isSymbol (s : String) (t : Token) : Bool :=
  t = .symbol s

mutual

/-- Reads an expression whose operations bind at least as tightly as `level`. -/
def read : (fuel level : Nat) → Reading Expression
  | 0, _ => throw .ended
  | fuel + 1, level => do
    let e ← readOperand fuel
    readOperations fuel level e

/-- Reads an operand. -/
def readOperand : (fuel : Nat) → Reading Expression
  | 0 => throw .ended
  | fuel + 1 => do
    let l ← Reading.one
    match l.token with
    | .symbol "(" =>
      let e ← read fuel 0
      Reading.expect (isSymbol ")")
      return e
    | .symbol "-" =>
      if ← Reading.accept (· = .number leastDigits) then return literal (.int Int64.minValue)
      else return unary .minus (← read fuel signLevel)
    | .symbol "~" => return unary .complement (← read fuel signLevel)
    | .symbol "+" => read fuel signLevel
    | .word s =>
      if l.token.isWord "NOT" then return unary .not (← read fuel notLevel)
      else if ← Reading.accept (isSymbol "(") then
        if l.token.isReserved then throw (.token l)
        let arguments ← readList fuel
        call s arguments
      else if ← Reading.accept (isSymbol ".") then readColumn l
      else ofWord l s
    | .quotedName _ =>
      if ← Reading.accept (isSymbol ".") then readColumn l else ofToken l
    | _ => ofToken l

/-- Reads expressions up to a closing parenthesis, with commas between them. -/
def readList : (fuel : Nat) → Reading (List Expression)
  | 0 => throw .ended
  | fuel + 1 => do
    if ← Reading.accept (isSymbol ")") then return []
    let e ← read fuel 0
    let rest ← readMore fuel
    return e :: rest

/-- Reads more expressions of a list, each after a comma. -/
def readMore : (fuel : Nat) → Reading (List Expression)
  | 0 => throw .ended
  | fuel + 1 => do
    if ← Reading.accept (isSymbol ",") then
      let e ← read fuel 0
      let rest ← readMore fuel
      return e :: rest
    else
      Reading.expect (isSymbol ")")
      return []

/-- Reads what goes on after `e` with operations that bind at least as tightly as
`level`. -/
def readOperations : (fuel level : Nat) → Expression → Reading Expression
  | 0, _, _ => throw .ended
  | fuel + 1, level, e => do
    match ← Reading.ahead with
    | none => return e
    | some t =>
      match operation? t with
      | some (op, own) =>
        if own < level then return e
        Reading.skip
        let f ← read fuel (own + 1)
        readOperations fuel level (binary op e f)
      | none =>
        if t.isWord "COLLATE" ∧ level ≤ collationLevel then
          Reading.skip
          let _ ← Reading.name
          readOperations fuel level e
        else if t.isWord "NOT" ∧ level ≤ notLevel then
          Reading.skip
          let f ← readNegated fuel e
          readOperations fuel level f
        else if ["IS", "ISNULL", "NOTNULL", "BETWEEN", "IN", "LIKE"].any t.isWord ∧
            level ≤ equalityLevel then
          let f ← readTest fuel e
          readOperations fuel level f
        else return e

/-- Reads what comes after `NOT` behind `e`. -/
def readNegated : (fuel : Nat) → Expression → Reading Expression
  | 0, _ => throw .ended
  | fuel + 1, e => do
    if ← Reading.accept (Token.isWord "NULL") then return binary .isNot e (literal .null)
    match ← Reading.ahead with
    | some t =>
      if ["BETWEEN", "IN", "LIKE"].any t.isWord then return unary .not (← readTest fuel e)
      else throw (.token (← Reading.one))
    | none => throw .ended

/-- Reads a test of `e`. -/
def readTest : (fuel : Nat) → Expression → Reading Expression
  | 0, _ => throw .ended
  | fuel + 1, e => do
    let l ← Reading.one
    if l.token.isWord "ISNULL" then return binary .is e (literal .null)
    else if l.token.isWord "NOTNULL" then return binary .isNot e (literal .null)
    else if l.token.isWord "IN" then
      Reading.expect (isSymbol "(")
      let members ← readList fuel
      return e.oneOf members
    else if l.token.isWord "BETWEEN" then
      let least ← read fuel notLevel
      Reading.expect (Token.isWord "AND")
      let most ← read fuel (equalityLevel + 1)
      return e.between least most
    else if l.token.isWord "LIKE" then
      return binary .like e (← read fuel (equalityLevel + 1))
    else
      let negated ← Reading.accept (Token.isWord "NOT")
      let distinct ← Reading.accept (Token.isWord "DISTINCT")
      if distinct then Reading.expect (Token.isWord "FROM")
      let f ← read fuel (equalityLevel + 1)
      return opposite (negated != distinct) (e.isSame f)

end

end Expression

end EntityStore.Sql
