import EntityStore.Sql.Token

/-!
# Keywords of SQL

Most keywords are names where nothing else can be meant.  The reserved ones never are.
-/

namespace EntityStore.Sql

/-- The keywords that are never names. -/
def reservedWords : List String :=
  ["ADD", "ALL", "ALTER", "AND", "AS", "AUTOINCREMENT", "BETWEEN", "CASE", "CHECK", "COLLATE",
    "COMMIT", "CONSTRAINT", "CREATE", "DEFAULT", "DEFERRABLE", "DELETE", "DISTINCT", "DROP",
    "ELSE", "ESCAPE", "EXCEPT", "EXISTS", "FOREIGN", "FROM", "GROUP", "HAVING", "IN", "INDEX",
    "INSERT", "INTERSECT", "INTO", "IS", "ISNULL", "JOIN", "LIMIT", "NOT", "NOTHING", "NOTNULL",
    "NULL", "ON", "OR", "ORDER", "PRIMARY", "REFERENCES", "RETURNING", "SELECT", "SET", "TABLE",
    "THEN", "TO", "TRANSACTION", "UNION", "UNIQUE", "UPDATE", "USING", "VALUES", "WHEN", "WHERE"]

/-- The keywords that are names only where a name must be. -/
def joinWords : List String :=
  ["CROSS", "FULL", "INDEXED", "INNER", "LEFT", "NATURAL", "OUTER", "RIGHT"]

namespace Token

/-- Whether a token is a keyword that is never a name. -/
def isReserved (t : Token) : Bool :=
  reservedWords.any t.isWord

/-- The name that a token stands for where a name must be; a text literal is one, too. -/
def name? (t : Token) : Option String :=
  match t with
  | word s => if t.isReserved then none else some s
  | quotedName s | textLiteral s => some s
  | _ => none

/-- The name that a token stands for where a name may be. -/
def freeName? (t : Token) : Option String :=
  if joinWords.any t.isWord then none else t.name?

end Token

end EntityStore.Sql
