import EntityStore.Text.Printable

/-!
# Quoted text in messages

A text shown in a message stands between double quotes.  Characters that cannot be
shown, and the quote and the backslash, are written with a backslash.
-/

namespace EntityStore.Text

/-- A character as it stands between the quotes. -/
def shownChar (c : Char) : List Char :=
  match c with
  | '\x00' => ['\\', '0']
  | '\t' => ['\\', 't']
  | '\r' => ['\\', 'r']
  | '\n' => ['\\', 'n']
  | '\\' => ['\\', '\\']
  | '"' => ['\\', '"']
  | c =>
    if isPrintable c then [c]
    else ['\\', 'u', '\x7b'] ++ hexDigits c.toNat ++ ['\x7d']

/-- A text between quotes. -/
def shown (s : String) : String :=
  String.ofList ('"' :: s.toList.flatMap shownChar ++ ['"'])

end EntityStore.Text
