import EntityStore.Predicate.Like
import EntityStore.Proofs.Sql.Pattern
import Mathlib.Data.List.Forall2

/-!
# Matching and patterns

A cursor is hopeful if the rest of the pattern stands for the rest of the text, or would after
going back.  A step from a cursor that is not hopeful never leads to one that is, so only texts
that fit are matched.  A hopeful cursor stays so unless a percent sign of the pattern is taken
for one of the text.  If the text or the pattern has no percent sign, then no fit is missed,
and otherwise one is missed with another pattern or another text.
-/

namespace EntityStore.Like

variable {text pattern : List Char} {cursor next : Cursor}

/-! ### Steps -/

/-- What a step does. -/
inductive Steps (text pattern : List Char) (cursor : Cursor) : Bool ⊕ Cursor → Prop where
  /-- The text is exhausted, and only percent signs may be left of the pattern. -/
  | finished {answer : Bool} (hend : text[cursor.text]? = none)
    (hanswer : answer = (pattern.drop cursor.pattern).all (· == '%')) :
    Steps text pattern cursor (.inl answer)
  /-- A character of the pattern is taken for one of the text. -/
  | taken {c d : Char} (hc : text[cursor.text]? = some c) (hd : pattern[cursor.pattern]? = some d)
    (hsame : d = '_' ∨ d = c) :
    Steps text pattern cursor
      (.inr { cursor with text := cursor.text + 1, pattern := cursor.pattern + 1 })
  /-- A percent sign is taken for nothing at first. -/
  | passed {c : Char} (hc : text[cursor.text]? = some c)
    (hd : pattern[cursor.pattern]? = some '%') :
    Steps text pattern cursor
      (.inr { cursor with
        pattern := cursor.pattern + 1, retry := some (cursor.pattern, cursor.text) })
  /-- A character does not fit, and there is no percent sign to go back to. -/
  | failed {c : Char} (hc : text[cursor.text]? = some c)
    (hstuck : ∀ d, pattern[cursor.pattern]? = some d → d ≠ '%' ∧ d ≠ '_' ∧ d ≠ c)
    (hretry : cursor.retry = none) :
    Steps text pattern cursor (.inl false)
  /-- A character does not fit, and the last percent sign is taken for one character more. -/
  | back {c : Char} {p t : Nat} (hc : text[cursor.text]? = some c)
    (hstuck : ∀ d, pattern[cursor.pattern]? = some d → d ≠ '%' ∧ d ≠ '_' ∧ d ≠ c)
    (hretry : cursor.retry = some (p, t)) :
    Steps text pattern cursor (.inr ⟨t + 1, p + 1, some (p, t + 1)⟩)

/-- Going back is what is done where a character does not fit. -/
theorem steps_goBack {c : Char} (hc : text[cursor.text]? = some c)
    (hstuck : ∀ d, pattern[cursor.pattern]? = some d → d ≠ '%' ∧ d ≠ '_' ∧ d ≠ c) :
  Steps text pattern cursor (goBack cursor)
  := by
  unfold goBack
  split
  · next hretry => exact .failed hc hstuck hretry
  · next p t hretry => exact .back hc hstuck hretry

/-- A step does one of these things. -/
theorem steps_step (text pattern : List Char) (cursor : Cursor) :
  Steps text pattern cursor (step text.toArray pattern.toArray cursor)
  := by
  unfold step
  rw [List.getElem?_toArray, List.getElem?_toArray]
  split
  · next hend =>
      apply Steps.finished hend
      rw [List.extract_toArray, List.all_toArray, List.extract_eq_take_drop, List.size_toArray,
        ← List.length_drop, List.take_length]
  · next c hc =>
      split
      · next hd => exact steps_goBack hc (by simp [hd])
      · next d hd =>
          split
          · next hsame => exact .taken hc hd hsame
          · next hother =>
              obtain ⟨hone, hchar⟩ := not_or.mp hother
              split
              · next hpercent =>
                  rw [hpercent] at hd
                  exact .passed hc hd
              · next hpercent =>
                  apply steps_goBack hc
                  intro d' hd'
                  cases hd.symm.trans hd'
                  exact ⟨hpercent, hone, hchar⟩

/-! ### Where cursors are -/

/-- The positions of a cursor are in the text and in the pattern, and those to go back to come
before them. -/
structure Within (text pattern : List Char) (cursor : Cursor) : Prop where
  text_le : cursor.text ≤ text.length
  pattern_le : cursor.pattern ≤ pattern.length
  retry_le : ∀ p t, cursor.retry = some (p, t) → p < cursor.pattern ∧ t ≤ cursor.text

theorem within_start (text pattern : List Char) :
  Within text pattern start
  := ⟨Nat.zero_le _, Nat.zero_le _, nofun⟩

/-- A step leads to a cursor whose positions are right. -/
theorem Within.step (h : Within text pattern cursor)
    (hstep : Steps text pattern cursor (.inr next)) :
  Within text pattern next
  := by
  cases hstep with
  | taken hc hd hsame =>
      have ht := (List.getElem?_eq_some_iff.mp hc).1
      have hp := (List.getElem?_eq_some_iff.mp hd).1
      refine ⟨ht, hp, ?_⟩
      intro p t hretry
      have hbefore := h.retry_le p t hretry
      dsimp only
      omega
  | passed hc hd =>
      have hp := (List.getElem?_eq_some_iff.mp hd).1
      refine ⟨h.text_le, hp, ?_⟩
      intro p t hretry
      cases hretry
      exact ⟨Nat.lt_succ_self _, Nat.le_refl _⟩
  | back hc hstuck hretry =>
      have ht := (List.getElem?_eq_some_iff.mp hc).1
      have hpattern := h.pattern_le
      obtain ⟨hbefore, hat⟩ := h.retry_le _ _ hretry
      refine ⟨by dsimp only; omega, by dsimp only; omega, ?_⟩
      intro p t hnext
      cases hnext
      exact ⟨Nat.lt_succ_self _, Nat.le_refl _⟩

/-- How often matching went back, and how far it has come in the pattern since. -/
def progress (pattern : List Char) (cursor : Cursor) : Nat :=
  (cursor.retry.elim 0 (·.2 + 1)) * (pattern.length + 2) + cursor.pattern

/-- There are fewer such than there are steps. -/
theorem Within.progress_lt (h : Within text pattern cursor) :
  progress pattern cursor < enough text.toArray pattern.toArray
  := by
  have hpattern := h.pattern_le
  have hback : (cursor.retry.elim 0 (·.2 + 1)) ≤ text.length + 1 := by
    cases hretry : cursor.retry with
    | none => exact Nat.zero_le _
    | some pt =>
        have hat := (h.retry_le pt.1 pt.2 hretry).2
        have htext := h.text_le
        simp only [Option.elim_some]
        omega
  have hmul := Nat.mul_le_mul_right (pattern.length + 2) hback
  unfold progress enough
  rw [List.size_toArray, List.size_toArray]
  calc _ ≤ (text.length + 1) * (pattern.length + 2) + pattern.length := Nat.add_le_add hmul hpattern
    _ < (text.length + 1) * (pattern.length + 2) + (pattern.length + 2) := by omega
    _ = (text.length + 2) * (pattern.length + 2) := (Nat.succ_mul _ _).symm

/-- Each step makes progress. -/
theorem Within.progress_step (h : Within text pattern cursor)
    (hstep : Steps text pattern cursor (.inr next)) :
  progress pattern cursor < progress pattern next
  := by
  have hpattern := h.pattern_le
  cases hstep with
  | taken hc hd hsame => exact Nat.lt_succ_self _
  | passed hc hd =>
      have hback : (cursor.retry.elim 0 (·.2 + 1)) ≤ cursor.text + 1 := by
        cases hretry : cursor.retry with
        | none => exact Nat.zero_le _
        | some pt =>
            have hat := (h.retry_le pt.1 pt.2 hretry).2
            simp only [Option.elim_some]
            omega
      exact Nat.lt_succ_of_le (Nat.add_le_add_right (Nat.mul_le_mul_right _ hback) _)
  | back hc hstuck hretry =>
      unfold progress
      rw [hretry, Option.elim_some, Option.elim_some, Nat.succ_mul (_ + 1)]
      dsimp only
      omega

/-! ### Fits of what is left -/

/-- The pattern from one position on stands for the text from another on. -/
def FitsFrom (text pattern : List Char) (p t : Nat) : Prop :=
  Fits (Sign.ofPattern (pattern.drop p)) (text.drop t)

/-- What is left from a position on begins with what is there. -/
theorem drop_eq_cons {α : Type} {as : List α} {a : α} {n : Nat} (h : as[n]? = some a) :
  as.drop n = a :: as.drop (n + 1)
  := by
  obtain ⟨hn, rfl⟩ := List.getElem?_eq_some_iff.mp h
  exact List.drop_eq_getElem_cons hn

/-- A percent sign stands for what comes before any later position. -/
theorem fitsFrom_percent_iff {p t : Nat} (hd : pattern[p]? = some '%') (ht : t ≤ text.length) :
  FitsFrom text pattern p t ↔ ∃ k, t ≤ k ∧ k ≤ text.length ∧ FitsFrom text pattern (p + 1) k
  := by
  unfold FitsFrom
  rw [drop_eq_cons hd]
  change Fits (.run :: _) _ ↔ _
  rw [fits_run_iff]
  constructor
  · rintro ⟨rest, hrest, hfits⟩
    have hlength := hrest.length_le
    rw [List.length_drop] at hlength
    refine ⟨text.length - rest.length, by omega, by omega, ?_⟩
    rwa [← List.suffix_iff_eq_drop.mp (hrest.trans (List.drop_suffix ..))]
  · rintro ⟨k, hk, -, hfits⟩
    refine ⟨_, ?_, hfits⟩
    rw [← Nat.add_sub_cancel' hk, ← List.drop_drop]
    apply List.drop_suffix

/-- Any other character stands for one of the text at most. -/
theorem fitsFrom_char_iff {p t : Nat} {c d : Char} (hc : text[t]? = some c)
    (hd : pattern[p]? = some d) (hpercent : d ≠ '%') :
  FitsFrom text pattern p t ↔ (d = '_' ∨ d = c) ∧ FitsFrom text pattern (p + 1) (t + 1)
  := by
  unfold FitsFrom
  rw [drop_eq_cons hd, drop_eq_cons hc]
  change Fits (.ofChar d :: _) _ ↔ _
  by_cases hone : d = '_'
  · simp [Sign.ofChar, hone, Sign.ofPattern]
  · simp [Sign.ofChar, hone, hpercent, Sign.ofPattern]

/-- The rest does not fit where a character does not. -/
theorem not_fitsFrom {p t : Nat} {c : Char} (hc : text[t]? = some c)
    (hstuck : ∀ d, pattern[p]? = some d → d ≠ '%' ∧ d ≠ '_' ∧ d ≠ c) :
  ¬ FitsFrom text pattern p t
  := by
  intro hfits
  cases hd : pattern[p]? with
  | none =>
      unfold FitsFrom at hfits
      rw [drop_eq_cons hc, List.drop_eq_nil_of_le (List.getElem?_eq_none_iff.mp hd)] at hfits
      cases hfits
  | some d =>
      obtain ⟨hpercent, hone, hchar⟩ := hstuck d hd
      obtain ⟨hone' | hchar', -⟩ := (fitsFrom_char_iff hc hd hpercent).mp hfits
      · exact hone hone'
      · exact hchar hchar'

/-- Only percent signs stand for nothing. -/
theorem fitsFrom_end_iff {p t : Nat} (hend : text[t]? = none) :
  FitsFrom text pattern p t ↔ (pattern.drop p).all (· == '%') = true
  := by
  unfold FitsFrom
  rw [List.drop_eq_nil_of_le (List.getElem?_eq_none_iff.mp hend), fits_empty_iff, Sign.ofPattern,
    List.forall_mem_map, List.all_eq_true]
  simp

/-- The rest fits, or what comes after the percent sign to go back to fits what comes after at
least one more character. -/
def Hopeful (text pattern : List Char) (cursor : Cursor) : Prop :=
  FitsFrom text pattern cursor.pattern cursor.text ∨
    ∃ p t k, cursor.retry = some (p, t) ∧ t < k ∧ k ≤ text.length ∧ FitsFrom text pattern (p + 1) k

theorem hopeful_start_iff :
  Hopeful text pattern start ↔ Fits (Sign.ofPattern pattern) text
  := by
  constructor
  · rintro (h | ⟨p, t, k, hretry, -⟩)
    · exact h
    · cases hretry
  · intro h
    exact .inl h

/-- Where a character does not fit, it is a matter of going back. -/
theorem hopeful_back_iff {c : Char} {p t : Nat} (h : Within text pattern cursor)
    (hc : text[cursor.text]? = some c)
    (hstuck : ∀ d, pattern[cursor.pattern]? = some d → d ≠ '%' ∧ d ≠ '_' ∧ d ≠ c)
    (hretry : cursor.retry = some (p, t)) :
  Hopeful text pattern cursor ↔ Hopeful text pattern ⟨t + 1, p + 1, some (p, t + 1)⟩
  := by
  have hlt := (List.getElem?_eq_some_iff.mp hc).1
  have hat := (h.retry_le p t hretry).2
  constructor
  · rintro (hfits | ⟨p', t', k, hretry', htk, hk, hfits⟩)
    · exact absurd hfits (not_fitsFrom hc hstuck)
    · cases hretry.symm.trans hretry'
      obtain rfl | hlater := Nat.eq_or_lt_of_le htk
      · exact .inl hfits
      · exact .inr ⟨p, t + 1, k, rfl, hlater, hk, hfits⟩
  · rintro (hfits | ⟨p', t', k, hretry', htk, hk, hfits⟩)
    · exact .inr ⟨p, t, t + 1, hretry, Nat.lt_succ_self t, by omega, hfits⟩
    · cases hretry'
      exact .inr ⟨p, t, k, hretry, by omega, hk, hfits⟩

/-! ### What is matched fits -/

/-- A step leads to a hopeful cursor from hopeful ones only. -/
theorem Hopeful.of_step (h : Within text pattern cursor)
    (hstep : Steps text pattern cursor (.inr next)) (hnext : Hopeful text pattern next) :
  Hopeful text pattern cursor
  := by
  cases hstep with
  | @taken c d hc hd hsame =>
      have hlt := (List.getElem?_eq_some_iff.mp hc).1
      obtain hfits | hback := hnext
      · left
        by_cases hpercent : d = '%'
        · rw [hpercent] at hd
          exact (fitsFrom_percent_iff hd h.text_le).mpr ⟨_, Nat.le_succ _, hlt, hfits⟩
        · exact (fitsFrom_char_iff hc hd hpercent).mpr ⟨hsame, hfits⟩
      · exact .inr hback
  | passed hc hd =>
      left
      apply (fitsFrom_percent_iff hd h.text_le).mpr
      obtain hfits | ⟨p, t, k, hretry, htk, hk, hfits⟩ := hnext
      · exact ⟨_, Nat.le_refl _, h.text_le, hfits⟩
      · cases hretry
        exact ⟨k, Nat.le_of_lt htk, hk, hfits⟩
  | back hc hstuck hretry => exact (hopeful_back_iff h hc hstuck hretry).mpr hnext

/-- Only from a hopeful cursor is the text matched. -/
theorem hopeful_of_run (fuel : Nat) (h : Within text pattern cursor)
    (hrun : run text.toArray pattern.toArray fuel cursor = true) :
  Hopeful text pattern cursor
  := by
  induction fuel generalizing cursor with
  | zero => cases hrun
  | succ fuel ih =>
      have hsteps := steps_step text pattern cursor
      unfold run at hrun
      split at hrun
      · next answer hanswer =>
          rw [hanswer, hrun] at hsteps
          cases hsteps with
          | finished hend hall => exact .inl ((fitsFrom_end_iff hend).mpr hall.symm)
      · next next hnext =>
          rw [hnext] at hsteps
          exact (ih (h.step hsteps) hrun).of_step h hsteps

/-! ### What fits is matched -/

/-- Since the percent sign to go back to, each character of the pattern was taken for one of the
text, and none of them was a percent sign. -/
structure Aligned (text pattern : List Char) (cursor : Cursor) : Prop
    extends Within text pattern cursor where
  passed : ∀ p t, cursor.retry = some (p, t) → ∃ passed,
    pattern.drop (p + 1) = passed ++ pattern.drop cursor.pattern ∧ '%' ∉ passed ∧
    cursor.text = t + passed.length

theorem aligned_start (text pattern : List Char) :
  Aligned text pattern start
  := ⟨within_start text pattern, nofun⟩

/-- What is taken for a character is no percent sign, if the text or the pattern has none. -/
theorem ne_percent (hplain : '%' ∉ text ∨ '%' ∉ pattern) {p t : Nat} {c d : Char}
    (hc : text[t]? = some c) (hd : pattern[p]? = some d) (hsame : d = '_' ∨ d = c) :
  d ≠ '%'
  := by
  rintro rfl
  obtain hone | rfl := hsame
  · cases hone
  · obtain htext | hpattern := hplain
    · exact htext (List.mem_of_getElem? hc)
    · exact hpattern (List.mem_of_getElem? hd)

/-- A step keeps the pattern and the text in line, if either has no percent sign. -/
theorem Aligned.step (hplain : '%' ∉ text ∨ '%' ∉ pattern) (h : Aligned text pattern cursor)
    (hstep : Steps text pattern cursor (.inr next)) :
  Aligned text pattern next
  := by
  refine ⟨h.toWithin.step hstep, ?_⟩
  intro p t hretry
  cases hstep with
  | @taken c d hc hd hsame =>
      obtain ⟨passed, hpassed, hpercent, hlength⟩ := h.passed p t hretry
      refine ⟨passed ++ [d], ?_, ?_, ?_⟩
      · rw [hpassed, drop_eq_cons hd, List.append_assoc, List.singleton_append]
      · have hother := ne_percent hplain hc hd hsame
        simp [hpercent, hother.symm]
      · rw [List.length_append, List.length_singleton]
        dsimp only
        omega
  | passed hc hd =>
      cases hretry
      exact ⟨[], rfl, List.not_mem_nil, rfl⟩
  | back hc hstuck hback =>
      cases hretry
      exact ⟨[], rfl, List.not_mem_nil, rfl⟩

/-- A fit found by going back passes the pattern up to the cursor with the text further on. -/
theorem Aligned.fitsFrom_later (h : Aligned text pattern cursor) {p t k : Nat}
    (hretry : cursor.retry = some (p, t)) (htk : t < k) (hk : k ≤ text.length)
    (hfits : FitsFrom text pattern (p + 1) k) :
  ∃ later, cursor.text < later ∧ later ≤ text.length ∧
    FitsFrom text pattern cursor.pattern later
  := by
  obtain ⟨passed, hpassed, hpercent, hlength⟩ := h.passed p t hretry
  unfold FitsFrom at hfits
  rw [hpassed, Sign.ofPattern, List.map_append] at hfits
  have hruns : Sign.run ∉ passed.map Sign.ofChar := by
    intro hmem
    obtain ⟨c, hc, hrun⟩ := List.mem_map.mp hmem
    rw [Sign.ofChar_eq_run_iff] at hrun
    exact hpercent (hrun ▸ hc)
  obtain ⟨hle, hrest⟩ := fits_drop_of_append hruns hfits
  rw [List.length_map, List.length_drop] at hle
  rw [List.length_map, List.drop_drop] at hrest
  exact ⟨k + passed.length, by omega, by omega, hrest⟩

/-- A step from a hopeful cursor leads to one, if the text or the pattern has no percent
sign. -/
theorem Hopeful.step (hplain : '%' ∉ text ∨ '%' ∉ pattern) (h : Aligned text pattern cursor)
    (hstep : Steps text pattern cursor (.inr next)) (hhope : Hopeful text pattern cursor) :
  Hopeful text pattern next
  := by
  cases hstep with
  | taken hc hd hsame =>
      obtain hfits | hback := hhope
      · have hother := ne_percent hplain hc hd hsame
        exact .inl ((fitsFrom_char_iff hc hd hother).mp hfits).2
      · exact .inr hback
  | passed hc hd =>
      have hfits : ∃ k, cursor.text ≤ k ∧ k ≤ text.length ∧
          FitsFrom text pattern cursor.pattern k := by
        obtain hfits | ⟨p, t, k, hretry, htk, hk, hfits⟩ := hhope
        · exact ⟨_, Nat.le_refl _, h.text_le, hfits⟩
        · obtain ⟨later, hlater, hle, hfits⟩ := h.fitsFrom_later hretry htk hk hfits
          exact ⟨later, Nat.le_of_lt hlater, hle, hfits⟩
      obtain ⟨k, hk, hle, hfits⟩ := hfits
      obtain ⟨k', hk', hle', hfits⟩ := (fitsFrom_percent_iff hd hle).mp hfits
      obtain rfl | hlt := Nat.eq_or_lt_of_le (Nat.le_trans hk hk')
      · exact .inl hfits
      · exact .inr ⟨_, _, k', rfl, hlt, hle', hfits⟩
  | back hc hstuck hretry => exact (hopeful_back_iff h.toWithin hc hstuck hretry).mp hhope

/-- Where matching ends at a hopeful cursor, the text is matched. -/
theorem Hopeful.answer (h : Aligned text pattern cursor) {answer : Bool}
    (hstep : Steps text pattern cursor (.inl answer)) (hhope : Hopeful text pattern cursor) :
  answer = true
  := by
  cases hstep with
  | finished hend hanswer =>
      rw [hanswer]
      obtain hfits | ⟨p, t, k, hretry, htk, hk, hfits⟩ := hhope
      · exact (fitsFrom_end_iff hend).mp hfits
      · have hover := List.getElem?_eq_none_iff.mp hend
        obtain ⟨later, hlater, hle, -⟩ := h.fitsFrom_later hretry htk hk hfits
        omega
  | failed hc hstuck hretry =>
      obtain hfits | ⟨p, t, k, hsome, -⟩ := hhope
      · exact absurd hfits (not_fitsFrom hc hstuck)
      · cases hretry.symm.trans hsome

/-- From a hopeful cursor the text is matched within the steps that are left, if the text or the
pattern has no percent sign. -/
theorem run_of_hopeful (hplain : '%' ∉ text ∨ '%' ∉ pattern) (fuel : Nat)
    (h : Aligned text pattern cursor) (hhope : Hopeful text pattern cursor)
    (hfuel : enough text.toArray pattern.toArray ≤ progress pattern cursor + fuel) :
  run text.toArray pattern.toArray fuel cursor = true
  := by
  induction fuel generalizing cursor with
  | zero => exact absurd h.progress_lt (Nat.not_lt_of_le hfuel)
  | succ fuel ih =>
      have hsteps := steps_step text pattern cursor
      unfold run
      split
      · next answer hanswer =>
          rw [hanswer] at hsteps
          exact hhope.answer h hsteps
      · next next hnext =>
          rw [hnext] at hsteps
          have hprogress := h.progress_step hsteps
          apply ih (h.step hplain hsteps) (hhope.step hplain h hsteps)
          omega

/-- A text that is matched with a pattern is one that it stands for. -/
theorem fits_of_matchesPattern (h : matchesPattern text pattern = true) :
  Fits (Sign.ofPattern pattern) text
  := hopeful_start_iff.mp (hopeful_of_run _ (within_start text pattern) h)

/-- A text that a pattern stands for is matched with it, if either has no percent sign. -/
theorem matchesPattern_of_fits (hplain : '%' ∉ text ∨ '%' ∉ pattern)
    (h : Fits (Sign.ofPattern pattern) text) :
  matchesPattern text pattern = true
  := by
  apply run_of_hopeful hplain _ (aligned_start text pattern) (hopeful_start_iff.mpr h)
  apply Nat.le_add_left

/-! ### What is missed -/

/-- Whether a character of a pattern is taken for one of the text at once. -/
def Takes (d c : Char) : Prop :=
  d = '_' ∨ d = c

/-- Where characters are taken one by one, matching comes to the same place in both. -/
theorem run_taken {p t : List Char} (htaken : List.Forall₂ Takes p t) (p' t' : List Char)
    (hfails : step (t ++ t').toArray (p ++ p').toArray ⟨t.length, t.length, none⟩ = .inl false)
    (fuel : Nat) {i : Nat} (hi : i ≤ t.length) :
  run (t ++ t').toArray (p ++ p').toArray fuel ⟨i, i, none⟩ = false
  := by
  induction fuel generalizing i with
  | zero => rfl
  | succ fuel ih =>
      unfold run
      obtain rfl | hlt := Nat.eq_or_lt_of_le hi
      · rw [hfails]
      · obtain ⟨hlength, hget⟩ := List.forall₂_iff_get.mp htaken
        have hd : i < p.length := hlength ▸ hlt
        have hsame : p[i] = '_' ∨ p[i] = t[i] := hget i hd hlt
        have hstep : step (t ++ t').toArray (p ++ p').toArray ⟨i, i, none⟩ =
            .inr ⟨i + 1, i + 1, none⟩ := by
          simp [step, List.getElem?_append_left, hlt, hd, hsame]
        rw [hstep]
        exact ih hlt

/-- A text is not matched if it is exhausted before the pattern is. -/
theorem not_matched_of_short {p t p' : List Char} (htaken : List.Forall₂ Takes p t)
    (hrest : ∃ d ∈ p', d ≠ '%') :
  matchesPattern t (p ++ p') = false
  := by
  have hfails : step (t ++ []).toArray (p ++ p').toArray ⟨t.length, t.length, none⟩ =
      .inl false := by
    simpa [step, ← htaken.length_eq] using hrest
  have hrun := run_taken htaken p' [] hfails (enough (t ++ []).toArray (p ++ p').toArray)
    (Nat.zero_le _)
  rwa [List.append_nil] at hrun

/-- A text is not matched if the pattern is exhausted before it is. -/
theorem not_matched_of_long {p t : List Char} (htaken : List.Forall₂ Takes p t) (c : Char)
    (t' : List Char) :
  matchesPattern (t ++ c :: t') p = false
  := by
  have hfails : step (t ++ c :: t').toArray (p ++ []).toArray ⟨t.length, t.length, none⟩ =
      .inl false := by
    simp [step, goBack, ← htaken.length_eq]
  have hrun := run_taken htaken [] (c :: t') hfails
    (enough (t ++ c :: t').toArray (p ++ []).toArray) (Nat.zero_le _)
  rwa [List.append_nil] at hrun

/-- As many underscores as a text has characters stand for it, and are taken for them. -/
theorem fits_underscores (text : List Char) :
  Fits (Sign.ofPattern (text.map fun _ => '_')) text
  := by
  induction text with
  | nil => exact .nil
  | cons c text ih => exact .one c ih

theorem takes_underscores (text : List Char) :
  List.Forall₂ Takes (text.map fun _ => '_') text
  := by
  rw [List.forall₂_map_left_iff]
  exact List.forall₂_same.mpr fun _ _ => .inl rfl

/-- A text with a percent sign fits a pattern that it is not matched with: a percent sign in the
place of its own, and underscores for all characters. -/
theorem exists_missed_pattern (h : '%' ∈ text) :
  ∃ pattern, Fits (Sign.ofPattern pattern) text ∧ matchesPattern text pattern = false
  := by
  obtain ⟨before, after, rfl⟩ := List.append_of_mem h
  let ones (cs : List Char) := cs.map fun _ => '_'
  use (ones before ++ '%' :: ones after) ++ ['_']
  constructor
  · have hones : ones after ++ ['_'] = ones ('%' :: after) := by
      simp [ones, ← List.replicate_succ', List.replicate_succ]
    rw [List.append_assoc, List.cons_append, hones, Sign.ofPattern, List.map_append]
    apply (fits_underscores before).append
    exact .run (List.suffix_refl _) (fits_underscores ('%' :: after))
  · have htaken : List.Forall₂ Takes (ones before ++ '%' :: ones after) (before ++ '%' :: after) :=
      List.rel_append (takes_underscores before) (.cons (.inr rfl) (takes_underscores after))
    exact not_matched_of_short htaken ⟨'_', List.mem_singleton_self _, by decide⟩

/-- A pattern with a percent sign stands for a text that is not matched with it: the pattern
itself, with one more character and the last part once more. -/
theorem exists_missed_text (h : '%' ∈ pattern) :
  ∃ text, Fits (Sign.ofPattern pattern) text ∧ matchesPattern text pattern = false
  := by
  obtain ⟨before, after, rfl⟩ := List.append_of_mem h
  use (before ++ '%' :: after) ++ 'a' :: after
  constructor
  · rw [Sign.ofPattern, List.map_append, List.append_assoc]
    apply (fits_self before).append
    exact .run ⟨'%' :: after ++ ['a'], by simp⟩ (fits_self after)
  · exact not_matched_of_long (List.forall₂_same.mpr fun _ _ => .inr rfl) 'a' after

/-- A text is only matched with a pattern that stands for it.  The text is matched with exactly
the patterns that stand for it if and only if it has no percent sign, and the pattern is matched
with exactly the texts that it stands for if and only if it has none. -/
theorem matchesPattern_exact_iff (text pattern : List Char) :
  (matchesPattern text pattern = true → Fits (Sign.ofPattern pattern) text) ∧
  ((∀ other, matchesPattern text other = true ↔ Fits (Sign.ofPattern other) text) ↔
    '%' ∉ text) ∧
  ((∀ other, matchesPattern other pattern = true ↔ Fits (Sign.ofPattern pattern) other) ↔
    '%' ∉ pattern)
  := by
  refine ⟨fits_of_matchesPattern, ?_, ?_⟩
  · constructor
    · intro hexact hpercent
      obtain ⟨other, hfits, hmissed⟩ := exists_missed_pattern hpercent
      rw [(hexact other).mpr hfits] at hmissed
      cases hmissed
    · intro hplain other
      exact ⟨fits_of_matchesPattern, matchesPattern_of_fits (.inl hplain)⟩
  · constructor
    · intro hexact hpercent
      obtain ⟨other, hfits, hmissed⟩ := exists_missed_text hpercent
      rw [(hexact other).mpr hfits] at hmissed
      cases hmissed
    · intro hplain other
      exact ⟨fits_of_matchesPattern, matchesPattern_of_fits (.inr hplain)⟩

/-- A text that is matched by going back, and that the pattern stands for. -/
theorem fits_after_going_back :
  matchesPattern ['a', 'b', 'c', 'b'] ['a', '%', 'b'] = true ∧
    Fits (Sign.ofPattern ['a', '%', 'b']) ['a', 'b', 'c', 'b']
  := by
  have hmatched : matchesPattern ['a', 'b', 'c', 'b'] ['a', '%', 'b'] = true := by decide +kernel
  exact ⟨hmatched, (matchesPattern_exact_iff _ _).1 hmatched⟩

/-- A percent sign stands for two characters, but is taken for the first one if that is a percent
sign too. -/
theorem percent_taken_for_percent :
  Fits (Sign.ofPattern ['%']) ['%', 'a'] ∧ matchesPattern ['%', 'a'] ['%'] = false
  := by decide

end EntityStore.Like
