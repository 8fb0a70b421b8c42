import EntityStore.Text.Ascii

/-!
# Blank characters

The characters with the White_Space property of Unicode, and the removal of them
from the ends and from the inside of a text.
-/

namespace EntityStore.Text

/-- The characters with the White_Space property, as ranges of code points. -/
def blankRanges : List (Nat × Nat) :=
  [(0x9, 0xD), (0x20, 0x20), (0x85, 0x85), (0xA0, 0xA0), (0x1680, 0x1680), (0x2000, 0x200A),
   (0x2028, 0x2029), (0x202F, 0x202F), (0x205F, 0x205F), (0x3000, 0x3000)]

/-- Whether a character is blank. -/
def isBlank (c : Char) : Bool :=
  blankRanges.any fun (first, last) => first ≤ c.toNat && c.toNat ≤ last

/-- The characters from the first that is not blank. -/
def trimStart (s : List Char) : List Char :=
  s.dropWhile isBlank

/-- The characters between the blank ones at both ends. -/
def trim (s : List Char) : List Char :=
  ((trimStart s).reverse.dropWhile isBlank).reverse

/-- The characters that are not blank, in order. -/
def squeeze (s : List Char) : List Char :=
  s.filter fun c => !isBlank c

/-- Whatever is white space among the ASCII characters is blank. -/
theorem isBlank_of_isWhitespace {c : Char} (h : c.isWhitespace = true) :
  isBlank c = true
  := by
  simp only [Char.isWhitespace, Bool.or_eq_true, decide_eq_true_eq] at h
  rcases h with ((h | h) | h) | h <;> subst h <;> decide

end EntityStore.Text
