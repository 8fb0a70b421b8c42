import EntityStore.Text.Ascii

/-!
# Capital letters

The capital form of a text, as far as it is needed to recognise words of ASCII
capitals: besides the small letters themselves, ten characters outside ASCII have
a capital form made of ASCII letters alone.
-/

namespace EntityStore.Text

/-- The characters outside ASCII whose capital form consists of ASCII letters. -/
def asciiCapitals : List (Nat × String) :=
  [(0xDF, "SS"), (0x131, "I"), (0x17F, "S"), (0xFB00, "FF"), (0xFB01, "FI"), (0xFB02, "FL"),
   (0xFB03, "FFI"), (0xFB04, "FFL"), (0xFB05, "ST"), (0xFB06, "ST")]

/-- The ASCII capitals a character stands for; a character whose capital form has
any other letter stands for itself. -/
def capitals (c : Char) : List Char :=
  if c.toNat < 0x80 then [c.toUpper]
  else match asciiCapitals.lookup c.toNat with
    | some form => form.toList
    | none => [c]

/-- The text with every character replaced by the capitals it stands for. -/
def capitalize (s : String) : String :=
  String.ofList (s.toList.flatMap capitals)

end EntityStore.Text
