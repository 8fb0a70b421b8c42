import Mathlib.Data.List.Infix

/-!
# Patterns

A pattern of `LIKE` is a list of signs, each of which stands for characters of a text.  A
percent sign stands for any run of them, an underscore for any one, and every other character
for itself, as does each that comes after the escape sign if there is one.
-/

namespace EntityStore.Like

/-- What a character of a pattern stands for. -/
inductive Sign where
  /-- Any run of characters. -/
  | run
  /-- Any one character. -/
  | one
  /-- A character itself. -/
  | char (c : Char)
  deriving DecidableEq, Repr

namespace Sign

/-- The sign that a character is. -/
def ofChar (c : Char) : Sign :=
  if c = '%' then run else if c = '_' then one else char c

/-- The sign with its character changed. -/
def map (change : Char → Char) : Sign → Sign
  | run => run
  | one => one
  | char c => char (change c)

/-- The signs of a pattern. -/
def ofPattern (pattern : List Char) : List Sign :=
  pattern.map ofChar

/-- The signs of a pattern with an escape sign.  There are none if it escapes nothing. -/
def ofEscaped? (escape : Char) : (pattern : List Char) → Option (List Sign)
  | [] => some []
  | [c] => if c = escape then none else some [ofChar c]
  | c :: d :: rest =>
    if c = escape then (ofEscaped? escape rest).map (char d :: ·)
    else (ofEscaped? escape (d :: rest)).map (ofChar c :: ·)

/-- Only a percent sign is a run. -/
@[simp] theorem ofChar_eq_run_iff {c : Char} :
  ofChar c = run ↔ c = '%'
  := by
  unfold ofChar
  split
  · simp_all
  · split <;> simp_all

end Sign

/-- Whether signs stand for a text as a whole. -/
inductive Fits : (signs : List Sign) → (text : List Char) → Prop where
  | nil : Fits [] []
  | run {signs : List Sign} {rest text : List Char} (hrest : rest <:+ text) (h : Fits signs rest) :
    Fits (.run :: signs) text
  | one {signs : List Sign} {text : List Char} (c : Char) (h : Fits signs text) :
    Fits (.one :: signs) (c :: text)
  | char {signs : List Sign} {text : List Char} (c : Char) (h : Fits signs text) :
    Fits (.char c :: signs) (c :: text)

variable {signs : List Sign} {text : List Char}

/-! ### Signs one by one -/

@[simp] theorem fits_nil_iff :
  Fits [] text ↔ text = []
  := by
  constructor
  · rintro ⟨⟩
    rfl
  · rintro rfl
    exact .nil

theorem fits_run_iff :
  Fits (.run :: signs) text ↔ ∃ rest, rest <:+ text ∧ Fits signs rest
  := by
  constructor
  · rintro (_ | ⟨hrest, h⟩)
    exact ⟨_, hrest, h⟩
  · rintro ⟨rest, hrest, h⟩
    exact .run hrest h

@[simp] theorem not_fits_one_nil :
  ¬ Fits (.one :: signs) []
  := nofun

@[simp] theorem fits_one_cons_iff {c : Char} :
  Fits (.one :: signs) (c :: text) ↔ Fits signs text
  := by
  constructor
  · rintro ⟨⟩
    assumption
  · intro h
    exact .one c h

@[simp] theorem not_fits_char_nil {d : Char} :
  ¬ Fits (.char d :: signs) []
  := nofun

@[simp] theorem fits_char_cons_iff {c d : Char} :
  Fits (.char d :: signs) (c :: text) ↔ d = c ∧ Fits signs text
  := by
  constructor
  · rintro ⟨⟩
    exact ⟨rfl, by assumption⟩
  · rintro ⟨rfl, h⟩
    exact .char d h

/-! ### Several signs -/

/-- Only runs stand for nothing. -/
theorem fits_empty_iff :
  Fits signs [] ↔ ∀ s ∈ signs, s = .run
  := by
  induction signs with
  | nil => simp
  | cons s signs ih =>
      rw [List.forall_mem_cons, ← ih]
      cases s with
      | run => simp [fits_run_iff]
      | one => simp
      | char => simp

/-- A run can be left out for any beginning of a text. -/
theorem Fits.run_append (h : Fits signs text) (skipped : List Char) :
  Fits (.run :: signs) (skipped ++ text)
  := .run (List.suffix_append skipped text) h

/-- Signs one after the other stand for texts one after the other. -/
theorem Fits.append {signs' : List Sign} {text' : List Char} (h : Fits signs text)
    (h' : Fits signs' text') :
  Fits (signs ++ signs') (text ++ text')
  := by
  induction h with
  | nil => exact h'
  | run hrest _ ih =>
      obtain ⟨skipped, rfl⟩ := hrest
      rw [List.append_assoc]
      exact ih.run_append skipped
  | one c _ ih => exact .one c ih
  | char c _ ih => exact .char c ih

/-- Signs that are no runs stand for one character each. -/
theorem fits_drop_of_append {passed : List Sign} (hpassed : .run ∉ passed)
    (h : Fits (passed ++ signs) text) :
  passed.length ≤ text.length ∧ Fits signs (text.drop passed.length)
  := by
  induction passed generalizing text with
  | nil => exact ⟨Nat.zero_le _, h⟩
  | cons s passed ih =>
      have hs : Sign.run ≠ s := List.ne_of_not_mem_cons hpassed
      cases text with
      | nil =>
          have hruns := fits_empty_iff.mp h s (List.mem_cons_self ..)
          exact absurd hruns.symm hs
      | cons c text =>
          have hrest : Fits (passed ++ signs) text := by
            cases s with
            | run => exact absurd rfl hs
            | one => exact fits_one_cons_iff.mp h
            | char => exact (fits_char_cons_iff.mp h).2
          obtain ⟨hlength, hfits⟩ := ih (List.not_mem_of_not_mem_cons hpassed) hrest
          exact ⟨Nat.succ_le_succ hlength, hfits⟩

/-- A text fits itself as a pattern. -/
theorem fits_self (text : List Char) :
  Fits (Sign.ofPattern text) text
  := by
  induction text with
  | nil => exact .nil
  | cons c text ih =>
      rw [Sign.ofPattern, List.map_cons, Sign.ofChar]
      split
      · exact .run (List.suffix_cons c text) ih
      · split
        · exact .one c ih
        · exact .char c ih

/-! ### Computing whether a text fits -/

/-- Whether signs stand for a text, computed by the signs. -/
def fits : (signs : List Sign) → (text : List Char) → Bool
  | [], text => text.isEmpty
  | .run :: signs, text => text.tails.any (fits signs)
  | .one :: _, [] => false
  | .one :: signs, _ :: text => fits signs text
  | .char _ :: _, [] => false
  | .char d :: signs, c :: text => d = c && fits signs text

/-- What is computed is whether the signs stand for the text. -/
theorem fits_eq_true_iff :
  fits signs text = true ↔ Fits signs text
  := by
  induction signs generalizing text with
  | nil => simp [fits]
  | cons s signs ih =>
      cases s with
      | run => simp [fits, fits_run_iff, ih]
      | one => cases text <;> simp [fits, ih]
      | char d => cases text <;> simp [fits, ih]

instance : Decidable (Fits signs text) :=
  decidable_of_iff _ fits_eq_true_iff

end EntityStore.Like
