import EntityStore.Proofs.Predicate.Matching

/-!
# Bounds of matching

The steps of matching are taken once more with accesses that fail outside of the text and of
the pattern.  Single characters are only looked at under conditions that put them inside.  What is
left of the pattern is looked at under none, and it is not there if the cursor is behind the
pattern, but wherever matching comes, it is not.  Each step makes progress, so a run has fewer steps
than are enough, and matching ends with its answer before they are used up.
-/

namespace EntityStore.Like

variable {text pattern : List Char} {cursor : Cursor} {n : Nat}

/-! ### Checked accesses -/

/-- An access at a position beyond what is accessed. -/
structure OutOfBounds where
  position : Nat
  size : Nat
  deriving DecidableEq, Repr

/-- The character at a position. -/
def charAt (chars : Array Char) (position : Nat) : Except OutOfBounds Char :=
  match chars[position]? with
  | some c => .ok c
  | none => .error ⟨position, chars.size⟩

/-- What is left from a position on.  The end is such a position, and nothing is left there. -/
def restFrom (chars : Array Char) (position : Nat) : Except OutOfBounds (Array Char) :=
  if position ≤ chars.size then .ok (chars.extract position chars.size)
  else .error ⟨position, chars.size⟩

theorem charAt_eq {chars : Array Char} {position : Nat} (h : position < chars.size) :
  charAt chars position = .ok chars[position]
  := by
  rw [charAt, Array.getElem?_eq_getElem h]

/-- Whether a character of the pattern is taken for one of the text.  That of the text is only
looked at if that of the pattern is no underscore. -/
def checkTaken (text pattern : Array Char) (cursor : Cursor) : Except OutOfBounds Bool := do
  if cursor.pattern < pattern.size then
    if (← charAt pattern cursor.pattern) = '_' then
      return true
    else
      return (← charAt pattern cursor.pattern) = (← charAt text cursor.text)
  else
    return false

/-- Whether the pattern has a percent sign at the cursor. -/
def checkPercent (pattern : Array Char) (cursor : Cursor) : Except OutOfBounds Bool := do
  if cursor.pattern < pattern.size then
    return (← charAt pattern cursor.pattern) = '%'
  else
    return false

/-- One step of matching whose accesses are checked. -/
def checkedStep (text pattern : Array Char) (cursor : Cursor) :
    Except OutOfBounds (Bool ⊕ Cursor) := do
  if cursor.text < text.size then
    if ← checkTaken text pattern cursor then
      return .inr { cursor with text := cursor.text + 1, pattern := cursor.pattern + 1 }
    else if ← checkPercent pattern cursor then
      return .inr { cursor with
        pattern := cursor.pattern + 1, retry := some (cursor.pattern, cursor.text) }
    else
      return goBack cursor
  else
    return .inl ((← restFrom pattern cursor.pattern).all (· == '%'))

/-- Where there is a character of the text, the first condition looks at nothing outside. -/
theorem checkTaken_eq {text pattern : Array Char} (ht : cursor.text < text.size) :
  checkTaken text pattern cursor =
    .ok (pattern[cursor.pattern]?.any fun d => d = '_' ∨ d = text[cursor.text])
  := by
  unfold checkTaken
  by_cases hp : cursor.pattern < pattern.size
  · rw [if_pos hp, charAt_eq hp, charAt_eq ht, Array.getElem?_eq_getElem hp, Option.any_some]
    by_cases hone : pattern[cursor.pattern] = '_' <;>
      simp [hone, bind, Except.bind, pure, Except.pure]
  · rw [if_neg hp, Array.getElem?_eq_none (Nat.le_of_not_lt hp)]
    rfl

/-- The second condition never looks at anything outside. -/
theorem checkPercent_eq (pattern : Array Char) (cursor : Cursor) :
  checkPercent pattern cursor = .ok (pattern[cursor.pattern]?.any (· = '%'))
  := by
  unfold checkPercent
  by_cases hp : cursor.pattern < pattern.size
  · rw [if_pos hp, charAt_eq hp, Array.getElem?_eq_getElem hp]
    rfl
  · rw [if_neg hp, Array.getElem?_eq_none (Nat.le_of_not_lt hp)]
    rfl

/-- Where there is a character of the text, a step makes no access outside. -/
theorem checkedStep_of_lt {text pattern : Array Char} (ht : cursor.text < text.size) :
  checkedStep text pattern cursor = .ok (step text pattern cursor)
  := by
  unfold checkedStep step
  rw [if_pos ht, checkTaken_eq ht, checkPercent_eq, Array.getElem?_eq_getElem ht]
  cases pattern[cursor.pattern]? with
  | none => rfl
  | some d =>
      rw [Option.any_some, Option.any_some]
      dsimp only
      by_cases hsame : d = '_' ∨ d = text[cursor.text]
      · rw [decide_eq_true hsame, if_pos hsame]
        rfl
      · rw [decide_eq_false hsame, if_neg hsame]
        by_cases hpercent : d = '%'
        · rw [decide_eq_true hpercent, if_pos hpercent]
          rfl
        · rw [decide_eq_false hpercent, if_neg hpercent]
          rfl

/-- A step makes an access outside exactly if the text is exhausted and the cursor is behind the
pattern. -/
theorem checkedStep_eq (text pattern : Array Char) (cursor : Cursor) :
  checkedStep text pattern cursor =
    if cursor.text < text.size ∨ cursor.pattern ≤ pattern.size then
      .ok (step text pattern cursor)
    else .error ⟨cursor.pattern, pattern.size⟩
  := by
  by_cases ht : cursor.text < text.size
  · rw [if_pos (.inl ht), checkedStep_of_lt ht]
  · have hend := Array.getElem?_eq_none (Nat.le_of_not_lt ht)
    by_cases hp : cursor.pattern ≤ pattern.size
    · rw [if_pos (.inr hp), checkedStep, if_neg ht, restFrom, if_pos hp, step, hend]
      rfl
    · rw [if_neg (not_or.mpr ⟨ht, hp⟩), checkedStep, if_neg ht, restFrom, if_neg hp]
      rfl

/-! ### Where matching comes -/

/-- The cursors that matching comes to, with the number of steps that it takes. -/
inductive Reaches (text pattern : List Char) : Nat → Cursor → Prop where
  | start : Reaches text pattern 0 start
  | step {n : Nat} {cursor next : Cursor} (h : Reaches text pattern n cursor)
    (hstep : step text.toArray pattern.toArray cursor = .inr next) :
    Reaches text pattern (n + 1) next

/-- What a step of a run does. -/
theorem steps_of_eq {result : Bool ⊕ Cursor}
    (h : step text.toArray pattern.toArray cursor = result) :
  Steps text pattern cursor result
  := h ▸ steps_step text pattern cursor

/-- Wherever matching comes, the positions of the cursor are in the text and in the pattern. -/
theorem Reaches.within (h : Reaches text pattern n cursor) :
  Within text pattern cursor
  := by
  induction h with
  | start => exact within_start text pattern
  | step h hstep ih => exact ih.step (steps_of_eq hstep)

/-- Matching has made at least as much progress as it has taken steps. -/
theorem Reaches.le_progress (h : Reaches text pattern n cursor) :
  n ≤ progress pattern cursor
  := by
  induction h with
  | start => exact Nat.zero_le _
  | step h hstep ih =>
      have hprogress := h.within.progress_step (steps_of_eq hstep)
      exact Nat.lt_of_le_of_lt ih hprogress

/-- Matching never takes as many steps as are enough. -/
theorem Reaches.lt_enough (h : Reaches text pattern n cursor) :
  n < enough text.toArray pattern.toArray
  := Nat.lt_of_le_of_lt h.le_progress h.within.progress_lt

/-- Wherever matching comes, the next step makes no access outside. -/
theorem Reaches.checkedStep_eq_ok (h : Reaches text pattern n cursor) :
  checkedStep text.toArray pattern.toArray cursor =
    .ok (Like.step text.toArray pattern.toArray cursor)
  := by
  rw [checkedStep_eq, if_pos]
  exact .inr h.within.pattern_le

/-- Matching comes to its answer, if the steps that were taken and those that are left are enough
together. -/
theorem Reaches.exists_last (fuel : Nat) (h : Reaches text pattern n cursor)
    (hfuel : enough text.toArray pattern.toArray ≤ n + fuel) :
  ∃ m last, Reaches text pattern m last ∧
    Like.step text.toArray pattern.toArray last =
      .inl (run text.toArray pattern.toArray fuel cursor)
  := by
  induction fuel generalizing n cursor with
  -- all steps are used up, but no run is that long
  | zero => exact absurd h.lt_enough (Nat.not_lt_of_le hfuel)
  | succ fuel ih =>
      unfold run
      split
      · next answer hanswer => exact ⟨n, cursor, h, hanswer⟩
      · next next hnext =>
          apply ih (h.step hnext)
          omega

/-- Matching comes to its answer.  Wherever it comes, it has taken fewer steps than are enough, the
positions of the cursor are in the text and in the pattern, and the next step makes no access
outside of them. -/
theorem ends_within_bounds (text pattern : List Char) :
  (∃ n last, Reaches text pattern n last ∧
    checkedStep text.toArray pattern.toArray last = .ok (.inl (matchesPattern text pattern))) ∧
  ∀ n cursor, Reaches text pattern n cursor →
    n < enough text.toArray pattern.toArray ∧ Within text pattern cursor ∧
    checkedStep text.toArray pattern.toArray cursor =
      .ok (step text.toArray pattern.toArray cursor)
  := by
  constructor
  · obtain ⟨n, last, hlast, hanswer⟩ := Reaches.start.exists_last
      (enough text.toArray pattern.toArray) (Nat.le_add_left _ 0)
    refine ⟨n, last, hlast, ?_⟩
    rw [hlast.checkedStep_eq_ok, hanswer]
    rfl
  · intro n cursor h
    exact ⟨h.lt_enough, h.within, h.checkedStep_eq_ok⟩

/-- A character that does not fit after two that did: matching goes back in both the text and the
pattern. -/
theorem bounds_after_going_back :
  Reaches ['a', 'a', 'a', 'b'] ['%', 'a', 'a', 'b'] 4 ⟨1, 1, some (0, 1)⟩ ∧
    4 < enough #['a', 'a', 'a', 'b'] #['%', 'a', 'a', 'b'] ∧
    Within ['a', 'a', 'a', 'b'] ['%', 'a', 'a', 'b'] ⟨1, 1, some (0, 1)⟩ ∧
    checkedStep #['a', 'a', 'a', 'b'] #['%', 'a', 'a', 'b'] ⟨1, 1, some (0, 1)⟩ =
      .ok (step #['a', 'a', 'a', 'b'] #['%', 'a', 'a', 'b'] ⟨1, 1, some (0, 1)⟩)
  := by
  have hback : Reaches ['a', 'a', 'a', 'b'] ['%', 'a', 'a', 'b'] 4 ⟨1, 1, some (0, 1)⟩ :=
    (((Reaches.start.step rfl).step rfl).step rfl).step rfl
  exact ⟨hback, (ends_within_bounds _ _).2 _ _ hback⟩

end EntityStore.Like
