import EntityStore.Text.Ascii

/-!
# Names and literals in SQL

A name that is an ASCII identifier can stand in SQL as it is.  Any other name, and
any text, stands between quotes, with the quote itself written twice inside.
-/

namespace EntityStore.Sql

/-- Whether a character may begin an identifier. -/
def startsIdentifier (c : Char) : Bool :=
  c.isAlpha || c == '_'

/-- Whether a character may continue an identifier. -/
def continuesIdentifier (c : Char) : Bool :=
  c.isAlphanum || c == '_'

/-- Whether a name is an identifier: a letter or underscore followed by letters,
digits and underscores, all of them ASCII. -/
def isIdentifier (name : String) : Bool :=
  match name.toList with
  | [] => false
  | c :: rest => startsIdentifier c && rest.all continuesIdentifier

/-- The characters with every quote written twice. -/
def doubled (quote : Char) : List Char → List Char
  | [] => []
  | c :: rest => if c = quote then quote :: quote :: doubled quote rest else c :: doubled quote rest

/-- The characters between quotes, quotes inside written twice. -/
def enclosed (quote : Char) (s : List Char) : List Char :=
  quote :: doubled quote s ++ [quote]

/-- The character around text literals. -/
def apostrophe : Char := Char.ofNat 39

/-- A name between double quotes. -/
def quoteName (name : String) : String :=
  String.ofList (enclosed '"' name.toList)

/-- A text literal. -/
def quoteText (text : String) : String :=
  String.ofList (enclosed apostrophe text.toList)

/-- Parts of a statement with commas between them. -/
def commaList (parts : List String) : String :=
  ", ".intercalate parts

/-- Quoted names with commas between them. -/
def quoteNames (names : List String) : String :=
  commaList (names.map quoteName)

end EntityStore.Sql
