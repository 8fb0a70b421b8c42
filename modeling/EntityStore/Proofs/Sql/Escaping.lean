import EntityStore.Proofs.Sql.Evaluation
import EntityStore.Proofs.Sql.Template

/-!
# Literal patterns

A text stands for itself in a pattern if the signs of patterns and the escape sign are escaped in
it.  The helpers that look for one text in another escape it so, and compare with a pattern that
allows for more at one end or at both.  The database answers what the evaluation of the helper
does, whatever characters the texts have.
-/

namespace EntityStore

open Text Sql

namespace Like

/-! ### Escaped texts -/

/-- A text with the signs of patterns and the escape sign escaped. -/
def escaped (s : List Char) : List Char :=
  s.flatMap fun c => if c = '\\' ∨ c = '%' ∨ c = '_' then ['\\', c] else [c]

variable {part whole : List Char}

end Like

namespace Sql.Form

variable {given : Leaf → Option Value} {x y : Form} {s n p : String}

end Sql.Form

namespace Helper

/-! ### Helpers that look for a text -/

/-- How a helper looks for a text in another one. -/
def Finds (h : Helper) (part whole : List Char) : Prop :=
  match h with
  | startsWith => part <+: whole
  | endsWith => part <:+ whole
  | contains => part <:+: whole
  | _ => False

variable {h : Helper} {given : Leaf → Option Value} {x y : Form} {s n : String}

end Helper

end EntityStore
