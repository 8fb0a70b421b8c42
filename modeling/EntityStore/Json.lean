/-!
# JSON documents

Documents of the JSON format.  A number is kept as it is written.  The escapes in a
text can name halves of characters that do not fit together; such a text has no
characters, and is an error only where the text is needed.
-/

namespace EntityStore

/-- A JSON document. -/
inductive Json where
  | null
  | bool (b : Bool)
  | number (literal : String)
  | text (s : Option String)
  | array (items : List Json)
  /-- The members in the order in which they are written, with repetitions. -/
  | object (members : List (Option String × Json))

end EntityStore
