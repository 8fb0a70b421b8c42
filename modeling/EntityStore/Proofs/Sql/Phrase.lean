import EntityStore.Sql.Token
import Mathlib.Tactic.Common

/-!
# Where conditions can be taken apart

Tokens are scanned from the last to the first.  The scan counts parentheses and knows
whether an operand has begun, so that a name is told from a keyword by its place.  A list
of tokens can be taken apart at a token if what follows it is an operand.
-/

namespace EntityStore.Sql

open Text

/-- How a token behind which an operand begins stands to it. -/
inductive Role where
  | opening
  | closing
  /-- It belongs to the operand. -/
  | leading
  /-- It joins the operand to what is before it. -/
  | joint
  deriving DecidableEq

/-- The words before an operand that belong to it. -/
def leadingWords : List String :=
  ["NOT", "SELECT", "REPLACE", "ROUND", "ABS", "MIN", "MAX", "DATE", "JULIANDAY"]

/-- The role of a token. -/
def Token.role (t : Token) : Role :=
  if t = .symbol "(" then .opening
  else if t = .symbol ")" then .closing
  else if t = .symbol "-" ∨ leadingWords.any t.isWord then .leading
  else .joint

/-- How far a scan has come. -/
structure Scan where
  /-- Whether an operand has begun. -/
  begun : Bool
  /-- The number of parentheses that are open. -/
  depth : Nat
  deriving DecidableEq

namespace Scan

/-- The scan after one more token. -/
def step (s : Scan) (t : Token) : Scan :=
  match s.begun, t.role with
  | true, .opening => ⟨true, s.depth - 1⟩
  | true, .leading => s
  | true, _ => ⟨false, s.depth⟩
  | false, .closing => ⟨false, s.depth + 1⟩
  | false, _ => ⟨true, s.depth⟩

/-- The scan after all tokens, of which the last comes first. -/
def after (s : Scan) (ts : List Token) : Scan :=
  ts.foldr (fun t s => s.step t) s

/-- Before the scan. -/
def start : Scan := ⟨false, 0⟩

/-- An operand has begun outside parentheses. -/
def operand : Scan := ⟨true, 0⟩

@[simp] theorem after_nil (s : Scan) :
  s.after [] = s
  := rfl

@[simp] theorem after_cons (s : Scan) (t : Token) (ts : List Token) :
  s.after (t :: ts) = (s.after ts).step t
  := rfl

@[simp] theorem after_append (s : Scan) (ts us : List Token) :
  s.after (ts ++ us) = (s.after us).after ts
  := by simp [after, List.foldr_append]

end Scan

/-- Tokens cannot be taken apart at one of those that `p` tells of, if the scan stands at
`s` behind them. -/
def Whole (p : Token → Prop) (s : Scan) : List Token → Prop
  | [] => True
  | t :: ts => (p t → s.after ts ≠ .operand) ∧ Whole p s ts

/-- Tokens cannot be taken apart if neither part of them can. -/
theorem whole_append {p : Token → Prop} {s : Scan} {ts us : List Token} :
  Whole p s (ts ++ us) ↔ Whole p (s.after us) ts ∧ Whole p s us
  := by
  induction ts with
  | nil => simp [Whole]
  | cons t ts ih => simp [Whole, ih, and_assoc]

/-- What cannot be taken apart has no operand behind a token that is told of. -/
theorem Whole.after_ne {p : Token → Prop} {s : Scan} {ts us : List Token} {t : Token}
    (h : Whole p s (ts ++ t :: us)) (ht : p t) :
  s.after us ≠ .operand
  := by
  rw [whole_append] at h
  apply h.2.1 ht

/-- Tokens are taken apart in one way at the last place where they can be. -/
theorem split_unique {p : Token → Prop} {ts us ts' us' : List Token} {t t' : Token}
    (h : ts ++ t :: us = ts' ++ t' :: us') (ht : p t) (ht' : p t')
    (hus : Scan.start.after us = .operand) (hus' : Scan.start.after us' = .operand)
    (hwhole : Whole p .start us) (hwhole' : Whole p .start us') :
  ts = ts' ∧ us = us'
  := by
  -- If one place were before the other, the part behind it could be taken apart.
  obtain ⟨vs, hbefore, hbehind⟩ | ⟨vs, hbefore, hbehind⟩ := List.append_eq_append_iff.mp h
  · cases vs with
    | nil =>
        cases hbehind
        simp [hbefore]
    | cons v vs =>
        cases hbehind
        cases hwhole.after_ne ht' hus'
  · cases vs with
    | nil =>
        cases hbehind
        simp [hbefore]
    | cons v vs =>
        cases hbehind
        cases hwhole'.after_ne ht hus

/-! ### Operands -/

/-- Tokens that are an operand: the scan finds it begun behind them, and their parentheses
closed.  Outside parentheses, operands are joined only by the tokens that `joins` tells of. -/
inductive Phrase : (joins : Token → Prop) → List Token → Prop
  | token {joins : Token → Prop} {t : Token} (h : ∀ s, t ≠ .symbol s) : Phrase joins [t]
  | join {joins : Token → Prop} {ts us : List Token} {t : Token} (hts : Phrase joins ts)
      (ht : t.role = .joint) (hjoins : joins t) (hus : Phrase joins us) :
      Phrase joins (ts ++ t :: us)
  | lead {joins : Token → Prop} {t : Token} {ts : List Token} (ht : t.role = .leading)
      (h : Phrase joins ts) : Phrase joins (t :: ts)
  | group {joins within : Token → Prop} {ts : List Token} (h : Phrase within ts) :
      Phrase joins (.symbol "(" :: (ts ++ [.symbol ")"]))

@[simp] theorem role_opening :
  (Token.symbol "(").role = .opening
  := by decide

@[simp] theorem role_closing :
  (Token.symbol ")").role = .closing
  := by decide

/-- Only symbols close parentheses. -/
theorem Token.role_ne_closing {t : Token} (h : ∀ s, t ≠ .symbol s) :
  t.role ≠ .closing
  := by
  unfold role
  split
  · simp
  · split
    · rename_i hclosing
      cases h _ hclosing
    · split <;> simp

/-- A keyword is the same words in either case of its letters. -/
theorem Token.isWord_of_isWord {t : Token} {keyword : String} (h : t.isWord keyword = true)
    (other : String) :
  t.isWord other = (word keyword).isWord other
  := by
  cases t with
  | word s =>
      have hname : lower s = lower keyword := sameName_iff.mp h
      simp [isWord, sameName, hname]
  | _ => cases h

/-- A keyword has the same role in either case of its letters. -/
theorem Token.role_of_isWord {t : Token} {keyword : String} (h : t.isWord keyword = true) :
  t.role = (word keyword).role
  := by
  have hwords := isWord_of_isWord h
  cases t with
  | word s => simp [role, hwords]
  | _ => cases h

namespace Phrase

variable {joins joins' p : Token → Prop} {ts : List Token}

/-- More tokens may join operands. -/
theorem mono (hjoins : ∀ t, joins t → joins' t) (h : Phrase joins ts) :
  Phrase joins' ts
  := by
  induction h with
  | token h => apply token h
  | join _ ht hj _ ihts ihus => apply join (ihts hjoins) ht (hjoins _ hj) (ihus hjoins)
  | lead ht _ ih => apply lead ht (ih hjoins)
  | group h => apply group h

/-- The scan finds an operand, at the depth at which it was. -/
theorem after (h : Phrase joins ts) (n : Nat) :
  (Scan.mk false n).after ts = ⟨true, n⟩
  := by
  induction h generalizing n with
  | @token _ t h =>
      have hclosing := Token.role_ne_closing h
      cases hrole : t.role <;> simp_all [Scan.step]
  | join _ ht _ _ ihts ihus => simp [ihus, Scan.step, ht, ihts]
  | lead ht _ ih => simp [ih, Scan.step, ht]
  | group _ ih => simp [Scan.step, ih]

/-- An operand between parentheses cannot be taken apart. -/
theorem whole_within (h : Phrase joins ts) (n : Nat) :
  Whole p ⟨false, n + 1⟩ ts
  := by
  induction h generalizing n with
  | token h => simp [Whole, Scan.operand]
  | join hts ht _ hus ihts ihus =>
      rw [whole_append]
      constructor
      · simp [hus.after, Scan.step, ht, ihts]
      · simp [Whole, hus.after, ihus, Scan.operand]
  | lead ht hts ih => simp [Whole, hts.after, ih, Scan.operand]
  | group h ih =>
      simp [Whole, whole_append, Scan.step, h.after, ih, Scan.operand]

/-- An operand in parentheses cannot be taken apart. -/
theorem whole_group (h : Phrase joins ts) :
  Whole p .start (.symbol "(" :: (ts ++ [.symbol ")"]))
  := by
  simp [Whole, whole_append, Scan.start, Scan.step, h.after, h.whole_within, Scan.operand]

/-- An operand can be taken apart only at tokens that join. -/
theorem whole (h : Phrase joins ts) (hp : ∀ t, p t → t.role = .joint ∧ ¬ joins t) :
  Whole p .start ts
  := by
  induction h with
  | token h => simp [Whole, Scan.start, Scan.operand]
  | join _ ht hj hus ihts ihus =>
      rw [whole_append]
      constructor
      · simp [Scan.start, hus.after, Scan.step, ht]
        apply ihts hp
      · constructor
        · intro hpt
          cases (hp _ hpt).2 hj
        · apply ihus hp
  | lead ht _ ih =>
      constructor
      · intro hpt
        rw [(hp _ hpt).1] at ht
        cases ht
      · apply ih hp
  | group h => apply h.whole_group

end Phrase

/-- There is no operand of no tokens. -/
theorem Phrase.ne_nil {joins : Token → Prop} {ts : List Token} (h : Phrase joins ts) :
  ts ≠ []
  := by cases h <;> simp

/-! ### Comparisons -/

/-- Whether a token joins operands to one that is no condition. -/
def Token.Compares (t : Token) : Prop :=
  t.isWord "AND" = false ∧ t.isWord "OR" = false

instance (t : Token) : Decidable t.Compares :=
  inferInstanceAs (Decidable (_ ∧ _))

/-- Whether tokens do not begin with the negation of an operand. -/
def Plain (ts : List Token) : Prop :=
  ∀ t us, ts = t :: us → t.isWord "NOT" = true → Scan.start.after us ≠ .operand

/-- Operands that are joined to a condition. -/
inductive Comparison : List Token → Prop
  | intro {ts us : List Token} {t : Token} (hts : Phrase Token.Compares ts) (hplain : Plain ts)
      (ht : t.role = .joint) (hjoins : t.Compares) (hus : Phrase Token.Compares us) :
      Comparison (ts ++ t :: us)

/-- What is behind the beginning of a text that is plain is plain. -/
theorem Plain.join {joins : Token → Prop} {ts us : List Token} {t : Token} (h : Plain ts)
    (hts : ts ≠ []) (ht : t.role = .joint) (hus : Phrase joins us) :
  Plain (ts ++ t :: us)
  := by
  cases ts with
  | nil => cases hts rfl
  | cons v vs =>
      intro t' us' heq hnot
      rw [List.cons_append] at heq
      obtain ⟨rfl, rfl⟩ := List.cons.inj heq
      have hafter : Scan.start.after (t :: us) = .start := by
        simp [Scan.start, hus.after, Scan.step, ht]
      rw [Scan.after_append, hafter]
      apply h v vs rfl hnot

namespace Comparison

variable {ts : List Token}

/-- A comparison is an operand of logic. -/
theorem phrase (h : Comparison ts) :
  Phrase Token.Compares ts
  := by
  cases h with
  | intro hts _ ht hjoins hus => apply Phrase.join hts ht hjoins hus

/-- A comparison does not begin with the negation of an operand. -/
theorem plain (h : Comparison ts) :
  Plain ts
  := by
  cases h with
  | intro hts hplain ht _ hus => apply hplain.join hts.ne_nil ht hus

/-- A comparison can be taken apart. -/
theorem not_whole (h : Comparison ts) :
  ¬ Whole (fun _ => True) .start ts
  := by
  cases h with
  | intro _ _ _ _ hus =>
      intro hwhole
      apply hwhole.after_ne trivial
      apply hus.after

end Comparison

end EntityStore.Sql
