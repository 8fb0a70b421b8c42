import EntityStore.Schema.Shape
import EntityStore.Text.Word

/-!
# Names of constraints

The database does not say what the constraints of a table are called.  Their names are
found in the text of the statement that made the table, wherever a named foreign key of
one column or a named unique constraint stands in it.
-/

namespace EntityStore

open Text

/-- What is recognised at the beginning of a text, with what follows. -/
abbrev Recognize (α : Type) := List Char → Option (α × List Char)

namespace Recognize

/-- Whether a character stands for a capital letter of a keyword.  Besides the small letter
there are two characters outside ASCII that do not differ from a letter but in case. -/
def isLetter (capital c : Char) : Bool :=
  c.toUpper = capital || (capital = 'S' && c.toNat = 0x17F) ||
    (capital = 'K' && c.toNat = 0x212A)

/-- What follows a keyword. -/
def afterKeyword : List Char → List Char → Option (List Char)
  | [], s => some s
  | _ :: _, [] => none
  | k :: keyword, c :: s => if isLetter k c then afterKeyword keyword s else none

/-- What follows a keyword given as a text. -/
def keyword (word : String) (s : List Char) : Option (List Char) :=
  afterKeyword word.toList s

/-- What follows one blank character or more. -/
def blanks : List Char → Option (List Char)
  | c :: s => if isBlank c then some (trimStart s) else none
  | [] => none

/-- What follows a character. -/
def char (c : Char) : List Char → Option (List Char)
  | d :: s => if c = d then some s else none
  | [] => none

/-- What follows one of some characters, if it is there. -/
def optional (chars : List Char) : List Char → List Char
  | c :: s => if chars.contains c then s else c :: s
  | [] => []

/-- The signs a name may begin with. -/
def openSigns : List Char := ['"', Char.ofNat 0x60, '[']

/-- The signs a name may end with. -/
def closeSigns : List Char := ['"', Char.ofNat 0x60, ']']

/-- A name, which may stand between signs. -/
def name : Recognize String := fun s =>
  let s := optional openSigns s
  let word := s.takeWhile isWord
  if word.isEmpty then none
  else some (String.ofList word, optional closeSigns (s.dropWhile isWord))

/-- The keyword and the name that a named constraint begins with. -/
def constraintName : Recognize String := fun s => do
  let s ← blanks (← keyword "CONSTRAINT" s)
  let (found, s) ← name s
  return (found, ← blanks s)

/-- A foreign key of one column: its name and the column. -/
def foreignKey : Recognize (String × String) := fun s => do
  let (found, s) ← constraintName s
  let s ← blanks (← keyword "FOREIGN" s)
  let s ← char '(' (trimStart (← keyword "KEY" s))
  let (column, s) ← name (trimStart s)
  return ((found, column), ← char ')' (trimStart s))

/-- A member of a unique constraint without blanks and signs around it. -/
def member (s : List Char) : String :=
  let isSign (c : Char) : Bool := openSigns.contains c || closeSigns.contains c
  String.ofList (((trim s).dropWhile isSign).reverse.dropWhile isSign).reverse

/-- A unique constraint: its name and its columns. -/
def unique : Recognize (String × List String) := fun s => do
  let (found, s) ← constraintName s
  let s ← char '(' (trimStart (← keyword "UNIQUE" s))
  let members := s.takeWhile (· ≠ ')')
  let s ← char ')' (s.dropWhile (· ≠ ')'))
  return ((found, (splitAt ',' members).map member), s)

/-- Everything that is recognised in a text from left to right, after `skip` characters.
What has been recognised is passed over. -/
def everywhere {α : Type} (recognize : Recognize α) : (skip : Nat) → List Char → List α
  | _, [] => []
  | skip + 1, _ :: s => everywhere recognize skip s
  | 0, c :: s =>
    match recognize (c :: s) with
    | some (a, rest) => a :: everywhere recognize (s.length - rest.length) s
    | none => everywhere recognize 0 s

end Recognize

/-- The named constraints of a table. -/
structure ConstraintNames where
  /-- The names of foreign keys, each under the name of the column in small letters. -/
  foreignKeys : List (String × String) := []
  /-- The names of unique constraints with their columns. -/
  uniques : List (String × List String) := []
  deriving DecidableEq, Repr

namespace ConstraintNames

/-- The names with that of the foreign key of a column, which replaces another. -/
def insertForeignKey (names : List (String × String)) (column name : String) :
    List (String × String) :=
  names.filter (fun entry => entry.1 ≠ lower column) ++ [(lower column, name)]

/-- The named constraints in the text of a statement. -/
def ofText (sql : String) : ConstraintNames where
  foreignKeys :=
    (Recognize.everywhere Recognize.foreignKey 0 sql.toList).foldl
      (fun names (name, column) => insertForeignKey names column name) []
  uniques := Recognize.everywhere Recognize.unique 0 sql.toList

/-- The name of the foreign key of a column. -/
def foreignKey? (n : ConstraintNames) (column : String) : Option String :=
  n.foreignKeys.lookup (lower column)

/-- Whether two lists of names are the same one by one. -/
def sameNames (as bs : List String) : Bool :=
  as.map lower = bs.map lower

/-- The name of the first unique constraint of columns. -/
def unique? (n : ConstraintNames) (columns : List String) : Option String :=
  (n.uniques.find? fun entry => sameNames entry.2 columns).map (·.1)

end ConstraintNames

end EntityStore
