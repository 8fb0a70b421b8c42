import EntityStore.Json
import EntityStore.Text.Ascii

/-!
# Writing JSON

A document with every item and member on a line of its own, indented by two spaces
for each level.
-/

namespace EntityStore.Json

open Text

/-- A character as it stands in a text. -/
def escaped (c : Char) : List Char :=
  match c with
  | '"' => ['\\', '"']
  | '\\' => ['\\', '\\']
  | '\x08' => ['\\', 'b']
  | '\x0c' => ['\\', 'f']
  | '\n' => ['\\', 'n']
  | '\r' => ['\\', 'r']
  | '\t' => ['\\', 't']
  | c =>
    if c.toNat < 0x20 then ['\\', 'u'] ++ padLeft 4 '0' (hexDigits c.toNat) else [c]

/-- A text between quotes. -/
def quoted (s : String) : List Char :=
  '"' :: s.toList.flatMap escaped ++ ['"']

/-- The beginning of a line at a level. -/
def newLine (level : Nat) : List Char :=
  '\n' :: List.replicate (2 * level) ' '

mutual

/-- A document whose first line has begun at a level. -/
def lines (level : Nat) : Json → List Char
  | null => "null".toList
  | bool b => if b then "true".toList else "false".toList
  | number literal => literal.toList
  | text s => quoted (s.getD "")
  | array [] => ['[', ']']
  | array (item :: items) =>
    '[' :: newLine (level + 1) ++ lines (level + 1) item ++ itemLines (level + 1) items ++
      newLine level ++ [']']
  | object [] => ['\x7b', '\x7d']
  | object ((key, item) :: members) =>
    '\x7b' :: newLine (level + 1) ++ quoted (key.getD "") ++ [':', ' '] ++
      lines (level + 1) item ++ memberLines (level + 1) members ++ newLine level ++ ['\x7d']

/-- The items after the first. -/
def itemLines (level : Nat) : List Json → List Char
  | [] => []
  | item :: items => ',' :: newLine level ++ lines level item ++ itemLines level items

/-- The members after the first. -/
def memberLines (level : Nat) : List (Option String × Json) → List Char
  | [] => []
  | (key, item) :: members =>
    ',' :: newLine level ++ quoted (key.getD "") ++ [':', ' '] ++ lines level item ++
      memberLines level members

end

/-- The text of a document. -/
def write (document : Json) : String :=
  String.ofList (lines 0 document)

end EntityStore.Json
