import EntityStore.Value

/-!
# Predicates

A predicate is a condition on the rows of one table.  Nothing about it is checked
before it is translated: names of columns and helpers are texts.
-/

namespace EntityStore

/-- A comparison of two operands. -/
inductive CompareOp where
  | eq
  | ne
  | lt
  | le
  | gt
  | ge
  deriving DecidableEq, Repr

namespace CompareOp

/-- The operator in SQL. -/
def sql : CompareOp → String
  | eq => "="
  | ne => "!="
  | lt => "<"
  | le => "<="
  | gt => ">"
  | ge => ">="

/-- Every operator. -/
def all : List CompareOp :=
  [eq, ne, lt, le, gt, ge]

/-- The operator that is written so in SQL. -/
def ofSql? (text : String) : Option CompareOp :=
  all.find? (·.sql == text)

/-- The operator after its operands have changed sides. -/
def flipped : CompareOp → CompareOp
  | lt => gt
  | le => ge
  | gt => lt
  | ge => le
  | eq => eq
  | ne => ne

/-- The operator in SQL that also compares null. -/
def nullSafe? : CompareOp → Option String
  | eq => some "IS"
  | ne => some "IS NOT"
  | _ => none

theorem ofSql?_sql (op : CompareOp) :
  ofSql? op.sql = some op
  := by cases op <;> decide

theorem flipped_flipped (op : CompareOp) :
  op.flipped.flipped = op
  := by cases op <;> rfl

end CompareOp

/-- A connection of two conditions. -/
inductive Logic where
  | both
  | either
  deriving DecidableEq, Repr

/-- The connection in SQL. -/
def Logic.sql : Logic → String
  | .both => "AND"
  | .either => "OR"

/-- A side of a comparison, or an argument of a helper. -/
inductive Operand where
  | column (name : String)
  | value (v : Value)
  /-- A value that is worked out when the predicate is translated. -/
  | computed (v : Value)
  | call (helper : String) (args : List Operand)

namespace Operand

mutual

/-- The first column an operand mentions, if any. -/
def firstColumn? : Operand → Option String
  | column name => some name
  | value _ | computed _ => none
  | call _ args => firstColumnOf? args

/-- The first column a list of operands mentions, if any. -/
def firstColumnOf? : List Operand → Option String
  | [] => none
  | arg :: args => (firstColumn? arg).or (firstColumnOf? args)

end

/-- Whether a list of operands mentions a column. -/
def mentionColumn (args : List Operand) : Bool :=
  (firstColumnOf? args).isSome

end Operand

/-- A condition on the rows of a table. -/
inductive Predicate where
  | constant (b : Bool)
  /-- A column of truth values. -/
  | member (column : String)
  | compare (left : Operand) (op : CompareOp) (right : Operand)
  /-- A call of a helper that is a condition. -/
  | call (helper : String) (args : List Operand)
  | not (p : Predicate)
  | combine (logic : Logic) (left right : Predicate)

namespace Predicate

/-- Holds for every row. -/
def always : Predicate := constant true

/-- Holds for no row. -/
def never : Predicate := constant false

/-- Holds where both predicates hold. -/
def and (p q : Predicate) : Predicate := combine .both p q

/-- Holds where one of two predicates holds. -/
def or (p q : Predicate) : Predicate := combine .either p q

/-- A column compared with a value. -/
def against (column : String) (op : CompareOp) (v : Value) : Predicate :=
  compare (.column column) op (.value v)

/-- A column is null. -/
def isNull (column : String) : Predicate := against column .eq .null

/-- A column is not null. -/
def isNotNull (column : String) : Predicate := against column .ne .null

/-- A column of truth values is true. -/
def isTrue (column : String) : Predicate := member column

/-- A column of truth values is false. -/
def isFalse (column : String) : Predicate := not (member column)

/-- Two columns compared. -/
def columns (left : String) (op : CompareOp) (right : String) : Predicate :=
  compare (.column left) op (.column right)

/-- A column compared with a value that is worked out at translation. -/
def againstComputed (column : String) (op : CompareOp) (v : Value) : Predicate :=
  compare (.column column) op (.computed v)

/-- A helper called on a column and values. -/
def helper (name column : String) (values : List Value) : Predicate :=
  call name (.column column :: values.map .value)

/-- A column lies in a column of a table. -/
def equalsIn (column table other : String) : Predicate :=
  helper "equals_in" column [.text table, .text other]

end Predicate

/-- A column rounded to so many decimal places. -/
def Operand.round (column : String) (digits : Int64) : Operand :=
  .call "round" [.column column, .value (.int digits)]

/-- A column without its sign. -/
def Operand.abs (column : String) : Operand :=
  .call "abs" [.column column]

end EntityStore
