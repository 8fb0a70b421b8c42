import EntityStore.Proofs.Sql.Tree

/-!
# Expressions as they are written

A form is an expression with the parentheses that are written in it.  It is tight if every
operand binds at least as tightly as its place asks for.  The tokens of a form are read as
the tree that is meant exactly if the form is tight.
-/

namespace EntityStore.Sql

/-- An expression with the parentheses that are written in it. -/
inductive Form where
  | leaf (l : Leaf)
  | group (x : Form)
  | call (f : Function) (arguments : Form)
  | binary (op : Operator) (a b : Form)
  deriving DecidableEq

/-- Whether a token is a parenthesis. -/
def Token.isParenthesis (t : Token) : Bool :=
  t = .symbol "(" ∨ t = .symbol ")"

/-- The number of tokens that are no parentheses. -/
def solid (ts : List Token) : Nat :=
  ts.countP fun t => !t.isParenthesis

theorem solid_append (ts us : List Token) :
  solid (ts ++ us) = solid ts + solid us
  := List.countP_append

/-- Parentheses do not count. -/
theorem solid_group (ts : List Token) :
  solid (.symbol "(" :: (ts ++ [.symbol ")"])) = solid ts
  := by
  have hopening : (Token.symbol "(").isParenthesis = true := by decide
  have hclosing : (Token.symbol ")").isParenthesis = true := by decide
  simp [solid, List.countP_append, hopening, hclosing]

/-- Words and the heads of operators count. -/
theorem solid_cons {t : Token} (h : t.isParenthesis = false) (ts : List Token) :
  solid (t :: ts) = solid ts + 1
  := by simp [solid, h]

theorem Operator.isParenthesis_head (op : Operator) :
  op.head.isParenthesis = false
  := by cases op <;> decide

/-- Tokens are taken apart at one place if as many that are no parentheses are before it. -/
theorem split_of_solid {ts us ts' us' : List Token} {t : Token}
    (h : ts ++ t :: us = ts' ++ t :: us') (ht : t.isParenthesis = false)
    (hsolid : solid ts = solid ts') :
  ts = ts' ∧ us = us'
  := by
  -- If one place were before the other, the token there would count before the other only.
  obtain ⟨vs, hbefore, hbehind⟩ | ⟨vs, hbefore, hbehind⟩ := List.append_eq_append_iff.mp h
  · cases vs with
    | nil =>
        cases hbehind
        simp [hbefore]
    | cons v vs =>
        cases hbehind
        rw [hbefore, solid_append, solid_cons ht] at hsolid
        omega
  · cases vs with
    | nil =>
        cases hbehind
        simp [hbefore]
    | cons v vs =>
        cases hbehind
        rw [hbefore, solid_append, solid_cons ht] at hsolid
        omega

/-- The number of tokens that are no parentheses in whatever is read as a tree. -/
def Tree.weight : Tree → Nat
  | leaf l => solid l.tokens
  | call _ T => T.weight + 1
  | binary op A B => A.weight + (solid op.tail + B.weight + 1)

/-- Parentheses aside, the tokens that are read as a tree are those of the tree. -/
theorem Parses.solid_eq {level : Nat} {ts : List Token} {T : Tree} (h : Parses level ts T) :
  solid ts = T.weight
  := by
  induction h with
  | leaf l => rfl
  | group _ ih => rw [solid_group, ih]
  | call f _ ih => rw [solid_cons rfl, solid_group, ih, Tree.weight]
  | @binary _ op _ _ _ _ _ _ _ iha ihb =>
      rw [solid_append, solid_cons op.isParenthesis_head, solid_append, iha, ihb, Tree.weight]

namespace Form

/-- The tokens of a form. -/
def tokens : Form → List Token
  | leaf l => l.tokens
  | group x => .symbol "(" :: (x.tokens ++ [.symbol ")"])
  | call f x => .word f.name :: .symbol "(" :: (x.tokens ++ [.symbol ")"])
  | binary op a b => a.tokens ++ op.head :: (op.tail ++ b.tokens)

/-- The tree that is meant by a form. -/
def tree : Form → Tree
  | leaf l => .leaf l
  | group x => x.tree
  | call f x => .call f x.tree
  | binary op a b => .binary op a.tree b.tree

/-- How tightly a form binds. -/
def strength : Form → Nat
  | binary op _ _ => op.level
  | _ => Operator.tightest

/-- Whether every operand in a form binds as tightly as it has to. -/
def Tight : Form → Prop
  | leaf _ => True
  | group x => 1 ≤ x.strength ∧ x.Tight
  | call _ x => x.Tight
  | binary op a b => (op.level ≤ a.strength ∧ a.Tight) ∧ op.level < b.strength ∧ b.Tight

/-- Whether a form is tight can be decided. -/
def decideTight : (x : Form) → Decidable x.Tight
  | leaf _ => isTrue trivial
  | group x =>
    have := decideTight x
    inferInstanceAs (Decidable (_ ∧ _))
  | call _ x => decideTight x
  | binary _ a b =>
    have := decideTight a
    have := decideTight b
    inferInstanceAs (Decidable ((_ ∧ _) ∧ _ ∧ _))

instance (x : Form) : Decidable x.Tight :=
  decideTight x

variable {x : Form} {level : Nat}

/-- The tokens of a form are an operand. -/
theorem phrase (x : Form) :
  Phrase (fun _ => True) x.tokens
  := by
  induction x with
  | leaf l => apply (l.phrase 0).mono fun _ _ => trivial
  | group x ih => apply ih.group
  | call f x ih => apply Phrase.lead f.isFunction_name.2.1 ih.group
  | binary op a b iha ihb => apply Phrase.join iha op.head_role trivial (op.phrase_tail ihb)

/-- Parentheses aside, the tokens of a form are those of its tree. -/
theorem solid_tokens (x : Form) :
  solid x.tokens = x.tree.weight
  := by
  induction x with
  | leaf l => rfl
  | group x ih => rw [tokens, solid_group, ih, tree]
  | call f x ih => rw [tokens, solid_cons rfl, solid_group, ih, tree, Tree.weight]
  | binary op a b iha ihb =>
      rw [tokens, solid_append, solid_cons op.isParenthesis_head, solid_append, iha, ihb, tree,
        Tree.weight]

/-- A form that stands for a leaf has at least the tokens of the leaf. -/
theorem length_le_of_tree {l : Leaf} (h : x.tree = .leaf l) :
  l.tokens.length ≤ x.tokens.length
  := by
  induction x with
  | leaf m =>
      cases h
      apply Nat.le_refl
  | group x ih =>
      have := ih h
      simp only [tokens, List.length_cons, List.length_append]
      omega
  | call f x => cases h
  | binary op a b => cases h

/-- No leaf is a form for it between parentheses. -/
theorem tokens_group_ne {l : Leaf} (h : x.tree = .leaf l) :
  (group x).tokens ≠ l.tokens
  := by
  intro htokens
  have hle := length_le_of_tree h
  rw [← htokens] at hle
  simp only [tokens, List.length_cons, List.length_append] at hle
  omega

/-- A tight form is read as its tree. -/
theorem Tight.parses (h : x.Tight) (hlevel : level ≤ x.strength) :
  Parses level x.tokens x.tree
  := by
  induction x generalizing level with
  | leaf l => apply Parses.leaf
  | group x ih => apply Parses.group (ih h.2 h.1)
  | call f x ih => apply Parses.call f (ih h (Nat.zero_le _))
  | binary op a b iha ihb =>
      obtain ⟨⟨hleft, ha⟩, hright, hb⟩ := h
      apply Parses.binary hlevel (iha ha hleft) (ihb hb hright)

/-- A form that is read as its tree is tight. -/
theorem tight_of_parses (h : Parses level x.tokens x.tree) (hlevel : level ≤ Operator.tightest) :
  level ≤ x.strength ∧ x.Tight
  := by
  -- What is read is put together as the form is: no part of it can be read in another way.
  induction x generalizing level with
  | leaf l => exact ⟨hlevel, trivial⟩
  | group x ih =>
      obtain ⟨l, hl, htree⟩ | ⟨us, hus, h⟩ | ⟨f, us, U, hcall, -⟩ |
        ⟨op, us, vs, A, B, hsplit, -, -, -, hvs⟩ := h.shape
      · cases tokens_group_ne (x := x) htree hl
      · obtain rfl := List.append_cancel_right (List.cons.inj hus).2
        use hlevel
        apply ih h (by decide)
      · cases hcall
      · have hwhole : Whole (fun _ => True) .start (group x).tokens := x.phrase.whole_group
        rw [hsplit] at hwhole
        cases hwhole.after_ne trivial (hvs.after_start op)
  | call f x ih =>
      obtain ⟨l, -, htree⟩ | ⟨us, hus, -⟩ | ⟨g, us, U, hcall, htree, h⟩ |
        ⟨op, us, vs, A, B, -, htree, -⟩ := h.shape
      · cases htree
      · cases hus
      · cases htree
        obtain rfl := List.append_cancel_right (List.cons.inj (List.cons.inj hcall).2).2
        use hlevel, (ih h (Nat.zero_le _)).2
      · cases htree
  | binary op a b iha ihb =>
      obtain ⟨l, -, htree⟩ | ⟨us, hus, h⟩ | ⟨f, us, U, -, htree, -⟩ |
        ⟨op', us, vs, A, B, hsplit, htree, hop, hus, hvs⟩ := h.shape
      · cases htree
      · have hwhole : Whole (fun _ => True) .start (.symbol "(" :: (us ++ [.symbol ")"])) :=
          h.phrase.whole_group
        rw [← hus] at hwhole
        cases hwhole.after_ne trivial ((op.phrase_tail b.phrase).after 0)
      · cases htree
      · cases htree
        have hsolid : solid a.tokens = solid us := by rw [a.solid_tokens, hus.solid_eq]
        obtain ⟨rfl, htails⟩ := split_of_solid hsplit op.isParenthesis_head hsolid
        obtain rfl := List.append_cancel_left htails
        have htightest := op.level_lt_tightest
        have hleft := iha hus (by omega)
        have hright := ihb hvs (by omega)
        use hop, hleft
        apply hright

/-- Nothing binds more tightly than a leaf. -/
theorem strength_le (x : Form) :
  x.strength ≤ Operator.tightest
  := by
  cases x with
  | binary op a b => apply Nat.le_of_lt op.level_lt_tightest
  | _ => apply Nat.le_refl

/-- A form that binds tightly enough is read as its tree exactly if it is tight. -/
theorem parses_iff (hlevel : level ≤ x.strength) :
  Parses level x.tokens x.tree ↔ x.Tight
  := by
  constructor
  · intro h
    apply (tight_of_parses h (Nat.le_trans hlevel x.strength_le)).2
  · intro h
    apply h.parses hlevel

/-- Whether a form is tight and can stand in any place. -/
def Firm (x : Form) : Prop :=
  x.Tight ∧ x.strength = Operator.tightest

theorem firm_leaf (l : Leaf) :
  (leaf l).Firm
  := ⟨trivial, rfl⟩

/-- A call with a tight argument is firm. -/
theorem Tight.call (h : x.Tight) (f : Function) :
  (Form.call f x).Firm
  := ⟨h, rfl⟩

/-- A firm form can be joined to what binds tightly enough. -/
theorem Tight.binary {a b : Form} (ha : a.Tight) {op : Operator} (hleft : op.level ≤ a.strength)
    (hb : b.Firm) :
  (Form.binary op a b).Tight
  := by
  obtain ⟨htight, hstrength⟩ := hb
  refine ⟨⟨hleft, ha⟩, ?_, htight⟩
  rw [hstrength]
  apply op.level_lt_tightest

/-- Firm forms can be joined by any operator. -/
theorem Firm.binary {a b : Form} (ha : a.Firm) (op : Operator) (hb : b.Firm) :
  (Form.binary op a b).Tight
  := by
  obtain ⟨htight, hstrength⟩ := ha
  apply htight.binary _ hb
  rw [hstrength]
  apply Nat.le_of_lt op.level_lt_tightest

/-- Firm forms that are joined in parentheses are firm. -/
theorem Firm.group {a b : Form} (ha : a.Firm) {op : Operator} (hop : 1 ≤ op.level) (hb : b.Firm) :
  (Form.group (.binary op a b)).Firm
  := ⟨⟨hop, ha.binary op hb⟩, rfl⟩

end Form

end EntityStore.Sql
