import EntityStore.Proofs.Sql.Lexing
import EntityStore.Proofs.Schema.Recognition

/-!
# What is found in a text

Recognising goes over a text from left to right.  What it finds in texts that follow each
other is what it finds in each of them, as long as nothing that begins in one of them can
reach into the next.  Named constraints begin with a keyword and a blank character.  So none
begins inside a quoted name, even one that is spelled like the keyword.
-/

namespace EntityStore

open Text Sql

namespace Recognize

variable {α : Type} {r : Recognize α} {s t : List Char} {as bs : List α}

/-! ### Findings -/

/-- Whether recognising finds some things in a text, and goes on behind it, whatever follows. -/
def Finds (r : Recognize α) (s : List Char) (as : List α) : Prop :=
  ∀ t, everywhere r 0 (s ++ t) = as ++ everywhere r 0 t

/-- What is found in a text on its own. -/
theorem Finds.everywhere_eq (h : Finds r s as) :
  everywhere r 0 s = as
  := by simpa [everywhere] using h []

/-- Nothing is found in no text. -/
theorem Finds.nil :
  Finds r [] []
  := fun _ => rfl

/-- What is found in two texts is found in the one behind the other. -/
theorem Finds.append (hs : Finds r s as) (ht : Finds r t bs) :
  Finds r (s ++ t) (as ++ bs)
  := by
  intro u
  rw [List.append_assoc, hs, ht, List.append_assoc]

/-- A text in which nothing is found changes nothing before another. -/
theorem Finds.lead (hs : Finds r s []) (ht : Finds r t bs) :
  Finds r (s ++ t) bs
  := hs.append ht

/-- A text in which nothing is found changes nothing behind another. -/
theorem Finds.trail (hs : Finds r s as) (ht : Finds r t []) :
  Finds r (s ++ t) as
  := by
  rw [← as.append_nil]
  apply hs.append ht

/-- What has been recognised is passed over. -/
theorem everywhere_length (s t : List Char) :
  everywhere r s.length (s ++ t) = everywhere r 0 t
  := by
  induction s with
  | nil => rfl
  | cons c s ih => exact ih

/-- Where a text begins with what is recognised, that is found first, and then whatever is found
behind it. -/
theorem everywhere_append {a : α} (hs : s ≠ []) (h : r (s ++ t) = some (a, t)) :
  everywhere r 0 (s ++ t) = a :: everywhere r 0 t
  := by
  cases s with
  | nil => cases hs rfl
  | cons c s =>
      have hlength : (s ++ t).length - t.length = s.length := by simp
      have hrest : r (c :: (s ++ t)) = some (a, t) := h
      rw [List.cons_append, everywhere, hrest]
      show a :: everywhere r ((s ++ t).length - t.length) (s ++ t) = _
      rw [hlength, everywhere_length]

/-- A text is found as a whole if it is recognised whatever follows. -/
theorem finds_singleton {a : α} (hs : s ≠ []) (h : ∀ t, r (s ++ t) = some (a, t)) :
  Finds r s [a]
  := fun t => everywhere_append hs (h t)

/-- Nothing is found at a character where nothing is recognised. -/
theorem Finds.cons {c : Char} (hs : Finds r s as) (h : ∀ t, r (c :: s ++ t) = none) :
  Finds r (c :: s) as
  := by
  intro t
  have hnone : r (c :: (s ++ t)) = none := h t
  rw [List.cons_append, everywhere, hnone]
  apply hs

/-- What is found in texts with separators between them is what is found in each of them. -/
theorem Finds.intercalate {separator : String} {parts : List (String × List α)}
    (hseparator : Finds r separator.toList [])
    (hparts : ∀ x ∈ parts, Finds r x.1.toList x.2) :
  Finds r (separator.intercalate (parts.map (·.1))).toList (parts.flatMap (·.2))
  := by
  induction parts with
  | nil => exact Finds.nil
  | cons x rest ih =>
      rw [List.forall_mem_cons] at hparts
      cases rest with
      | nil => simpa using hparts.1
      | cons y rest =>
          rw [List.map_cons, List.map_cons, String.intercalate_cons_cons, List.flatMap_cons,
            String.toList_append, String.toList_append]
          apply (hparts.1.trail hseparator).append (ih hparts.2)

/-! ### Texts without constraints -/

/-- Texts in which no named constraint begins, whatever follows them. -/
inductive Silent : List Char → Prop
  | nil : Silent []
  | cons {c : Char} {s : List Char} (hc : ∀ t, constraintName (c :: s ++ t) = none)
      (hs : Silent s) : Silent (c :: s)

/-- No constraint begins in a text that follows another if none begins in either. -/
theorem Silent.append (hs : Silent s) (ht : Silent t) :
  Silent (s ++ t)
  := by
  induction hs with
  | nil => exact ht
  | cons hc hs ih =>
      apply Silent.cons _ ih
      intro u
      have hu := hc (t ++ u)
      rwa [List.cons_append, ← List.append_assoc, ← List.cons_append] at hu

/-- Nothing is found where no constraint begins. -/
theorem Silent.finds (hr : ∀ s, constraintName s = none → r s = none) (hs : Silent s) :
  Finds r s []
  := by
  induction hs with
  | nil => exact Finds.nil
  | cons hc hs ih =>
      apply ih.cons
      intro t
      apply hr _ (hc t)

/-- A named constraint begins with the first letter of the keyword. -/
theorem constraintName_cons {c : Char} (hc : isLetter 'C' c = false) (s : List Char) :
  constraintName (c :: s) = none
  := by
  have hkeyword : keyword "CONSTRAINT" (c :: s) = none := by
    show afterKeyword ('C' :: "ONSTRAINT".toList) (c :: s) = none
    rw [afterKeyword, hc]
    rfl
  rw [constraintName, hkeyword]
  rfl

/-- A named constraint goes on with the second letter of the keyword. -/
theorem constraintName_cons_cons {d : Char} (hd : isLetter 'O' d = false) (c : Char)
    (s : List Char) :
  constraintName (c :: d :: s) = none
  := by
  have hkeyword : keyword "CONSTRAINT" (c :: d :: s) = none := by
    show afterKeyword ('C' :: 'O' :: "NSTRAINT".toList) (c :: d :: s) = none
    rw [afterKeyword, afterKeyword, hd]
    simp
  rw [constraintName, hkeyword]
  rfl

/-- Whether no two characters in a row begin the keyword, and the last one does not either. -/
def calm : List Char → Bool
  | [] => true
  | [c] => !isLetter 'C' c
  | c :: d :: s => (!isLetter 'C' c || !isLetter 'O' d) && calm (d :: s)

/-- No constraint begins in a text without the first two letters of the keyword. -/
theorem silent_of_calm (h : calm s = true) :
  Silent s
  := by
  induction s with
  | nil => exact Silent.nil
  | cons c s ih =>
      cases s with
      | nil =>
          rw [calm, Bool.not_eq_true'] at h
          exact Silent.cons (constraintName_cons h) Silent.nil
      | cons d s =>
          simp only [calm, Bool.and_eq_true, Bool.or_eq_true, Bool.not_eq_true'] at h
          apply Silent.cons _ (ih h.2)
          intro t
          obtain hc | hd := h.1
          · apply constraintName_cons hc
          · apply constraintName_cons_cons hd

/-- No constraint begins in a text without the first letter of the keyword. -/
theorem silent_of_forall (h : ∀ c ∈ s, isLetter 'C' c = false) :
  Silent s
  := by
  induction s with
  | nil => exact Silent.nil
  | cons c s ih =>
      rw [List.forall_mem_cons] at h
      apply Silent.cons _ (ih h.2)
      intro t
      apply constraintName_cons h.1

/-! ### Identifiers -/

/-- The characters of identifiers are ASCII characters from the digits on. -/
theorem toNat_of_continuesIdentifier {c : Char} (h : continuesIdentifier c = true) :
  48 ≤ c.toNat ∧ c.toNat < 128
  := by
  change ((decide (c.val ≥ 'A'.val ∧ c.val ≤ 'Z'.val) ||
    decide (c.val ≥ 'a'.val) && decide (c.val ≤ 'z'.val)) ||
    decide (c.val ≥ '0'.val) && decide (c.val ≤ '9'.val) || c == '_') = true at h
  simp only [Bool.or_eq_true, Bool.and_eq_true, decide_eq_true_eq, UInt32.le_iff_toNat_le,
    ge_iff_le, beq_iff_eq] at h
  change ((('A'.toNat ≤ c.toNat ∧ c.toNat ≤ 'Z'.toNat) ∨ ('a'.toNat ≤ c.toNat ∧
    c.toNat ≤ 'z'.toNat)) ∨ ('0'.toNat ≤ c.toNat ∧ c.toNat ≤ '9'.toNat)) ∨ c = '_' at h
  simp only [Char.reduceToNat] at h
  obtain ((h | h) | h) | rfl := h
  · omega
  · omega
  · omega
  · decide

/-- An identifier is a word. -/
theorem isWord_of_continuesIdentifier {c : Char} (h : continuesIdentifier c = true) :
  isWord c = true
  := by
  rw [isWord, if_pos (toNat_of_continuesIdentifier h).2]
  exact h

/-- What is written twice between quotes does not occur in an identifier. -/
theorem toList_quoteName {name : String} (h : isIdentifier name = true) :
  (quoteName name).toList = '"' :: name.toList ++ ['"']
  := by
  have hdoubled : ∀ s : List Char, (∀ c ∈ s, continuesIdentifier c = true) →
      doubled '"' s = s := by
    intro s hs
    induction s with
    | nil => rfl
    | cons c s ih =>
        rw [List.forall_mem_cons] at hs
        have hc : c ≠ '"' := ne_of_kind hs.1 (by decide)
        rw [doubled, if_neg hc, ih hs.2]
  rw [quoteName, String.toList_ofList, enclosed, hdoubled _ (chars_of_isIdentifier h).2]

/-- A quoted identifier is a name. -/
theorem named_quoteName {name : String} (h : isIdentifier name = true) :
  Named name.toList (quoteName name).toList
  := by
  obtain ⟨hne, hchars⟩ := chars_of_isIdentifier h
  rw [toList_quoteName h]
  refine ⟨['"'], ['"'], rfl, .inr ⟨'"', by decide, rfl⟩, .inr ⟨'"', by decide, rfl⟩, hne, ?_⟩
  intro c hc
  apply isWord_of_continuesIdentifier (hchars c hc)

/-- No character of an identifier is blank. -/
theorem isBlank_of_continuesIdentifier {c : Char} (h : continuesIdentifier c = true) :
  isBlank c = false
  := by
  rw [← Bool.not_eq_true]
  intro hblank
  have hnot := isWord_of_isBlank hblank
  rw [isWord_of_continuesIdentifier h] at hnot
  cases hnot

/-- A keyword that is taken from an identifier before a quote leaves no blank character to
follow it. -/
theorem blanks_afterKeyword {word : List Char} (hword : ∀ k ∈ word, isLetter k '"' = false)
    (hs : ∀ c ∈ s, continuesIdentifier c = true) (t : List Char) :
  (afterKeyword word (s ++ '"' :: t)).bind blanks = none
  := by
  induction word generalizing s with
  | nil =>
      cases s with
      | nil => rfl
      | cons c s =>
          have hc := isBlank_of_continuesIdentifier (hs c (by simp))
          simp [afterKeyword, blanks, hc]
  | cons k word ih =>
      rw [List.forall_mem_cons] at hword
      cases s with
      | nil => simp [afterKeyword, hword.1]
      | cons c s =>
          rw [List.forall_mem_cons] at hs
          rw [List.cons_append, afterKeyword]
          split
          · apply ih hword.2 hs.2
          · rfl

/-- No constraint begins with a part of an identifier before a quote. -/
theorem constraintName_word (hs : ∀ c ∈ s, continuesIdentifier c = true) (t : List Char) :
  constraintName (s ++ '"' :: t) = none
  := by
  have hnone : (keyword "CONSTRAINT" (s ++ '"' :: t)).bind blanks = none :=
    blanks_afterKeyword (eq_false_of_any (by decide)) hs t
  simp only [constraintName, Option.bind_eq_bind, ← Option.bind_assoc, hnone, Option.bind_none]

/-- No constraint begins in a quoted identifier. -/
theorem silent_quoteName {name : String} (h : isIdentifier name = true) :
  Silent (quoteName name).toList
  := by
  have hwords : ∀ s : List Char, (∀ c ∈ s, continuesIdentifier c = true) →
      Silent (s ++ ['"']) := by
    intro s hs
    induction s with
    | nil => exact silent_of_calm (by decide)
    | cons c s ih =>
        apply Silent.cons _ (ih (List.forall_mem_cons.mp hs).2)
        intro t
        have hnone := constraintName_word hs t
        simpa using hnone
  rw [toList_quoteName h]
  apply Silent.cons _ (hwords _ (chars_of_isIdentifier h).2)
  intro t
  apply constraintName_cons (by decide)

end Recognize

end EntityStore
