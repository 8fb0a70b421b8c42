/-!
# Pattern matching

A pattern is matched against a text with one cursor in each.  A percent sign in the
pattern is passed over at first; when a later character does not fit, matching goes
back to behind the last percent sign and to one character further in the text.
-/

namespace EntityStore.Like

/-- The positions in the text and in the pattern, and those to go back to: of a percent
sign, and of the text where it was met. -/
structure Cursor where
  text : Nat
  pattern : Nat
  retry : Option (Nat × Nat)
  deriving DecidableEq, Repr

/-- Where matching begins. -/
def start : Cursor := ⟨0, 0, none⟩

/-- Goes back to the last percent sign. -/
def goBack (cursor : Cursor) : Bool ⊕ Cursor :=
  match cursor.retry with
  | none => .inl false
  | some (p, t) => .inr ⟨t + 1, p + 1, some (p, t + 1)⟩

/-- One step of matching: the answer, or the next positions.  A character of the pattern
that is equal to that of the text fits it, also if it is a percent sign. -/
def step (text pattern : Array Char) (cursor : Cursor) : Bool ⊕ Cursor :=
  match text[cursor.text]? with
  | none => .inl ((pattern.extract cursor.pattern pattern.size).all (· == '%'))
  | some c =>
    match pattern[cursor.pattern]? with
    | none => goBack cursor
    | some d =>
      if d = '_' ∨ d = c then
        .inr { cursor with text := cursor.text + 1, pattern := cursor.pattern + 1 }
      else if d = '%' then
        .inr { cursor with
          pattern := cursor.pattern + 1, retry := some (cursor.pattern, cursor.text) }
      else goBack cursor

/-- Up to `fuel` steps of matching. -/
def run (text pattern : Array Char) : (fuel : Nat) → Cursor → Bool
  | 0, _ => false
  | fuel + 1, cursor =>
    match step text pattern cursor with
    | .inl answer => answer
    | .inr next => run text pattern fuel next

/-- Enough steps: between two that move the place to go back to, each step moves the
position in the pattern. -/
def enough (text pattern : Array Char) : Nat :=
  (text.size + 2) * (pattern.size + 2)

/-- Whether a text matches a pattern, in which a percent sign stands for any run of
characters and an underscore for any one. -/
def matchesPattern (text pattern : List Char) : Bool :=
  let t := text.toArray
  let p := pattern.toArray
  run t p (enough t p) start

end EntityStore.Like
