import EntityStore.Sql.Keyword

/-!
# Reading tokens

What is read of the tokens of a statement takes them away from the front, or is refused
with the token that could not be there.
-/

namespace EntityStore.Sql

/-- Why a statement cannot be read. -/
inductive Refusal where
  /-- It ends too early. -/
  | ended
  /-- A token cannot stand where it does. -/
  | token (l : Lexeme)
  | problem (text : String)
  deriving DecidableEq, Repr

/-- The refusal in words, for a statement that ends with a semicolon or with the text. -/
def Refusal.message (closed : Bool) : Refusal → String
  | ended => if closed then Lexeme.unexpected ⟨.symbol ";", ";", ""⟩ else "incomplete input"
  | token l => l.unexpected
  | problem text => text

/-- What is read from the front of tokens. -/
abbrev Reading := StateT (List Lexeme) (Except Refusal)

namespace Reading

/-- The next token, which stays. -/
def ahead : Reading (Option Token) := do
  return (← get).head?.map (·.token)

/-- Takes the next token. -/
def one : Reading Lexeme := do
  match ← get with
  | [] => throw .ended
  | l :: rest =>
    set rest
    return l

/-- Takes the next token away. -/
def skip : Reading Unit := do
  let _ ← one

/-- Takes the next token if it has a property. -/
def accept (p : Token → Bool) : Reading Bool := do
  match ← get with
  | [] => return false
  | l :: rest =>
    if p l.token then
      set rest
      return true
    else return false

/-- Takes the next token, which must have a property. -/
def expect (p : Token → Bool) : Reading Unit := do
  let l ← one
  if p l.token then return () else throw (.token l)

/-- Takes the next token, which must be a name. -/
def name : Reading String := do
  let l ← one
  match l.token.name? with
  | some s => return s
  | none => throw (.token l)

end Reading

end EntityStore.Sql
