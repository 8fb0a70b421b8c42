import EntityStore.Predicate
import EntityStore.Proofs.Sql.Phrase

/-!
# Formulas and how they are read

A formula is built from atoms by negation, conjunction and disjunction.  In SQL a negation
binds more tightly than a conjunction, and a conjunction more tightly than a disjunction;
parentheses stand around a formula that would be taken apart otherwise.  If the atoms are
comparisons, tokens are read as one formula at most.
-/

namespace EntityStore

open Sql

/-- A formula over atoms. -/
inductive Formula (α : Type) where
  | atom (a : α)
  | not (f : Formula α)
  | combine (logic : Logic) (f g : Formula α)

namespace Formula

variable {α β : Type}

/-- The formula with each atom changed. -/
def map (change : α → β) : Formula α → Formula β
  | atom a => atom (change a)
  | not f => not (f.map change)
  | combine logic f g => combine logic (f.map change) (g.map change)

/-- Two formulas of one form whose atoms are related. -/
inductive Alike (related : α → β → Prop) : Formula α → Formula β → Prop
  | atom {a : α} {b : β} (h : related a b) : Alike related (atom a) (atom b)
  | not {f : Formula α} {g : Formula β} (h : Alike related f g) : Alike related f.not g.not
  | combine (logic : Logic) {f f' : Formula α} {g g' : Formula β} (hf : Alike related f g)
      (hf' : Alike related f' g') : Alike related (combine logic f f') (combine logic g g')

/-- Whether all atoms of a formula have a property. -/
def All (has : α → Prop) : Formula α → Prop
  | atom a => has a
  | not f => f.All has
  | combine _ f g => f.All has ∧ g.All has

/-- The conjunction of formulas, if there are any. -/
def conjunction? : List (Formula α) → Option (Formula α)
  | [] => none
  | f :: fs => some (fs.foldl (combine .both) f)

/-- What is related to something may have a property for it. -/
theorem Alike.all {related : α → β → Prop} {has : β → Prop} {f : Formula α} {g : Formula β}
    (h : Alike related f g) (hhas : ∀ a b, related a b → has b) :
  g.All has
  := by
  induction h with
  | atom h => apply hhas _ _ h
  | not _ ih => apply ih
  | combine _ _ _ ihf ihg => use ihf, ihg

end Formula

namespace Sql

/-- What a formula can stand in without parentheses. -/
inductive Level where
  | negation
  | conjunction
  | disjunction

/-- How tokens are read as a formula with given atoms. -/
inductive Reads (isAtom : List Token → Prop) : Level → List Token → Formula (List Token) → Prop
  | atom {ts : List Token} (h : isAtom ts) : Reads isAtom .negation ts (.atom ts)
  | group {ts : List Token} {f : Formula (List Token)} (h : Reads isAtom .disjunction ts f) :
      Reads isAtom .negation (.symbol "(" :: (ts ++ [.symbol ")"])) f
  | not {t : Token} {ts : List Token} {f : Formula (List Token)} (ht : t.isWord "NOT" = true)
      (h : Reads isAtom .negation ts f) : Reads isAtom .negation (t :: ts) f.not
  | factor {ts : List Token} {f : Formula (List Token)} (h : Reads isAtom .negation ts f) :
      Reads isAtom .conjunction ts f
  | and {t : Token} {ts us : List Token} {f g : Formula (List Token)}
      (hf : Reads isAtom .conjunction ts f) (ht : t.isWord "AND" = true)
      (hg : Reads isAtom .negation us g) :
      Reads isAtom .conjunction (ts ++ t :: us) (.combine .both f g)
  | term {ts : List Token} {f : Formula (List Token)} (h : Reads isAtom .conjunction ts f) :
      Reads isAtom .disjunction ts f
  | or {t : Token} {ts us : List Token} {f g : Formula (List Token)}
      (hf : Reads isAtom .disjunction ts f) (ht : t.isWord "OR" = true)
      (hg : Reads isAtom .conjunction us g) :
      Reads isAtom .disjunction (ts ++ t :: us) (.combine .either f g)

/-- The tokens that join operands to what can stand at a level. -/
def Level.Joins : Level → Token → Prop
  | negation => Token.Compares
  | conjunction => fun t => t.isWord "OR" = false
  | disjunction => fun _ => True

namespace Reads

variable {isAtom : List Token → Prop} {level : Level} {ts : List Token}
  {f g : Formula (List Token)}

/-- What is read as a formula is an operand. -/
theorem phrase (hatom : ∀ ts, isAtom ts → Comparison ts) (h : Reads isAtom level ts f) :
  Phrase level.Joins ts
  := by
  induction h with
  | atom h => apply (hatom _ h).phrase
  | group _ ih => apply ih.group
  | not ht _ ih =>
      apply Phrase.lead _ ih
      rw [Token.role_of_isWord ht]
      decide
  | factor _ ih =>
      apply ih.mono
      intro t ht
      apply ht.2
  | and _ ht _ ihf ihg =>
      apply Phrase.join ihf
      · rw [Token.role_of_isWord ht]
        decide
      · show _ = false
        rw [Token.isWord_of_isWord ht]
        decide
      · apply ihg.mono
        intro t ht
        apply ht.2
  | term _ ih =>
      apply ih.mono
      intro t _
      trivial
  | or _ ht _ ihf ihg =>
      apply Phrase.join ihf
      · rw [Token.role_of_isWord ht]
        decide
      · trivial
      · apply ihg.mono
        intro t _
        trivial

/-- What is read as a conjunction cannot be taken apart at a disjunction. -/
theorem whole_or (hatom : ∀ ts, isAtom ts → Comparison ts) (h : Reads isAtom .conjunction ts f) :
  Whole (fun t => t.isWord "OR" = true) .start ts
  := by
  apply (h.phrase hatom).whole
  intro t ht
  constructor
  · rw [Token.role_of_isWord ht]
    decide
  · simp [Level.Joins, ht]

/-- What is read as a negation or more tightly cannot be taken apart at a conjunction. -/
theorem whole_and (hatom : ∀ ts, isAtom ts → Comparison ts) (h : Reads isAtom .negation ts f) :
  Whole (fun t => t.isWord "AND" = true) .start ts
  := by
  apply (h.phrase hatom).whole
  intro t ht
  constructor
  · rw [Token.role_of_isWord ht]
    decide
  · simp [Level.Joins, Token.Compares, ht]

/-- What is read behind a token that joins is an operand. -/
theorem after_start (hatom : ∀ ts, isAtom ts → Comparison ts) (h : Reads isAtom level ts f) :
  Scan.start.after ts = .operand
  := (h.phrase hatom).after 0

/-! ### One reading -/

/-- A formula in parentheses is read as no atom. -/
theorem not_atom_group (hatom : ∀ ts, isAtom ts → Comparison ts)
    (h : Reads isAtom .disjunction ts f) :
  ¬ isAtom (.symbol "(" :: (ts ++ [.symbol ")"]))
  := by
  intro hgroup
  apply (hatom _ hgroup).not_whole
  apply (h.phrase hatom).whole_group

/-- A negation is read as no atom. -/
theorem not_atom_not (hatom : ∀ ts, isAtom ts → Comparison ts) {t : Token}
    (ht : t.isWord "NOT" = true) (h : Reads isAtom .negation ts f) :
  ¬ isAtom (t :: ts)
  := by
  intro hnot
  apply (hatom _ hnot).plain t ts rfl ht
  apply h.after_start hatom

/-- What is read as a negation or more tightly is an atom, a formula in parentheses or the
negation of a formula. -/
theorem negation_cases (h : Reads isAtom .negation ts f) :
  (isAtom ts ∧ f = .atom ts) ∨
    (∃ us, ts = .symbol "(" :: (us ++ [.symbol ")"]) ∧ Reads isAtom .disjunction us f) ∨
    ∃ t us g, ts = t :: us ∧ f = .not g ∧ t.isWord "NOT" = true ∧ Reads isAtom .negation us g
  := by
  cases h with
  | atom h => left; use h
  | group h => right; left; exact ⟨_, rfl, h⟩
  | not ht h => right; right; exact ⟨_, _, _, rfl, rfl, ht, h⟩

/-- What is read as a conjunction is read more tightly, or is one of two formulas. -/
theorem conjunction_cases (h : Reads isAtom .conjunction ts f) :
  Reads isAtom .negation ts f ∨
    ∃ t us vs g g', ts = us ++ t :: vs ∧ f = .combine .both g g' ∧ t.isWord "AND" = true ∧
      Reads isAtom .conjunction us g ∧ Reads isAtom .negation vs g'
  := by
  cases h with
  | factor h => left; apply h
  | and hf ht hg => right; exact ⟨_, _, _, _, _, rfl, rfl, ht, hf, hg⟩

/-- What is read as a disjunction is read more tightly, or is one of two formulas. -/
theorem disjunction_cases (h : Reads isAtom .disjunction ts f) :
  Reads isAtom .conjunction ts f ∨
    ∃ t us vs g g', ts = us ++ t :: vs ∧ f = .combine .either g g' ∧ t.isWord "OR" = true ∧
      Reads isAtom .disjunction us g ∧ Reads isAtom .conjunction vs g'
  := by
  cases h with
  | term h => left; apply h
  | or hf ht hg => right; exact ⟨_, _, _, _, _, rfl, rfl, ht, hf, hg⟩

/-- Tokens are read as one formula at most. -/
theorem unique (hatom : ∀ ts, isAtom ts → Comparison ts) (h : Reads isAtom level ts f)
    (h' : Reads isAtom level ts g) :
  f = g
  := by
  -- Two readings are taken apart at the same token: it is the last one that joins at the level.
  induction h generalizing g with
  | atom h =>
      obtain ⟨-, rfl⟩ | ⟨us, rfl, hus⟩ | ⟨t, us, f', rfl, rfl, ht, hus⟩ := h'.negation_cases
      · rfl
      · cases hus.not_atom_group hatom h
      · cases hus.not_atom_not hatom ht h
  | group h ih =>
      obtain ⟨hgroup, -⟩ | ⟨us, heq, hus⟩ | ⟨t, us, f', heq, rfl, ht, hus⟩ := h'.negation_cases
      · cases h.not_atom_group hatom hgroup
      · obtain rfl := List.append_cancel_right (List.cons.inj heq).2
        apply ih hus
      · obtain ⟨rfl, -⟩ := List.cons.inj heq
        cases ht
  | not ht h ih =>
      obtain ⟨hnot, -⟩ | ⟨us, heq, hus⟩ | ⟨t, us, f', heq, rfl, ht', hus⟩ := h'.negation_cases
      · cases h.not_atom_not hatom ht hnot
      · obtain ⟨rfl, -⟩ := List.cons.inj heq
        cases ht
      · obtain ⟨rfl, rfl⟩ := List.cons.inj heq
        rw [ih hus]
  | factor h ih =>
      obtain hg | ⟨t, us, vs, f', g', rfl, rfl, ht, hus, hvs⟩ := h'.conjunction_cases
      · apply ih hg
      · cases (h.whole_and hatom).after_ne ht (hvs.after_start hatom)
  | and hf ht hg ihf ihg =>
      obtain hg' | ⟨t, us, vs, f', g', heq, rfl, ht', hus, hvs⟩ := h'.conjunction_cases
      · cases (hg'.whole_and hatom).after_ne ht (hg.after_start hatom)
      · obtain ⟨rfl, rfl⟩ := split_unique heq ht ht' (hg.after_start hatom)
          (hvs.after_start hatom) (hg.whole_and hatom) (hvs.whole_and hatom)
        rw [ihf hus, ihg hvs]
  | term h ih =>
      obtain hg | ⟨t, us, vs, f', g', rfl, rfl, ht, hus, hvs⟩ := h'.disjunction_cases
      · apply ih hg
      · cases (h.whole_or hatom).after_ne ht (hvs.after_start hatom)
  | or hf ht hg ihf ihg =>
      obtain hg' | ⟨t, us, vs, f', g', heq, rfl, ht', hus, hvs⟩ := h'.disjunction_cases
      · cases (hg'.whole_or hatom).after_ne ht (hg.after_start hatom)
      · obtain ⟨rfl, rfl⟩ := split_unique heq ht ht' (hg.after_start hatom)
          (hvs.after_start hatom) (hg.whole_or hatom) (hvs.whole_or hatom)
        rw [ihf hus, ihg hvs]

end Reads

end Sql

end EntityStore
