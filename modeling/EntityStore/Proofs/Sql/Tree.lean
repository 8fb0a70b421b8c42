import EntityStore.Proofs.Sql.Term

/-!
# Trees of operators

Tokens are read as a tree of operators by how tightly these bind.  Operators that bind
equally tightly are taken from left to right, and parentheses stand around what is to be
read on its own.  Whatever the tokens are, they are read as one tree at most.
-/

namespace EntityStore.Sql

/-! ### Operators -/

/-- What stands between two operands.  A comma joins the arguments of a function, and
`ESCAPE` a pattern of `LIKE` to its escape sign. -/
inductive Operator where
  | comma
  | equal
  | unequal
  | is
  | isNot
  | like
  | within
  | escape
  | less
  | atMost
  | greater
  | atLeast
  | add
  | divide
  | join
  deriving DecidableEq

namespace Operator

/-- Every operator. -/
def all : List Operator :=
  [comma, equal, unequal, is, isNot, like, within, escape, less, atMost, greater, atLeast, add,
    divide, join]

/-- The first token of an operator. -/
def head : Operator → Token
  | comma => .symbol ","
  | equal => .symbol "="
  | unequal => .symbol "!="
  | is | isNot => .word "IS"
  | like => .word "LIKE"
  | within => .word "IN"
  | escape => .word "ESCAPE"
  | less => .symbol "<"
  | atMost => .symbol "<="
  | greater => .symbol ">"
  | atLeast => .symbol ">="
  | add => .symbol "+"
  | divide => .symbol "/"
  | join => .symbol "||"

/-- The tokens of an operator after the first one. -/
def tail : Operator → List Token
  | isNot => [.word "NOT"]
  | _ => []

/-- How tightly an operator binds.  Between `LIKE` and `ESCAPE`, and behind that, stands what
binds more tightly than `LIKE`. -/
def level : Operator → Nat
  | comma => 0
  | equal | unequal | is | isNot | like | within => 1
  | escape => 2
  | less | atMost | greater | atLeast => 3
  | add => 4
  | divide => 5
  | join => 6

/-- What binds more tightly than every operator. -/
def tightest : Nat := 7

theorem level_lt_tightest (op : Operator) :
  op.level < tightest
  := by cases op <;> decide

theorem head_role (op : Operator) :
  op.head.role = .joint
  := by cases op <;> decide

/-- Only the negation of an identity begins as another operator does. -/
theorem head_inj {op op' : Operator} (h : op.head = op'.head) :
  op = op' ∨ (op = is ∧ op' = isNot) ∨ (op = isNot ∧ op' = is)
  := by
  revert h
  cases op <;> cases op' <;> decide

end Operator

/-- How tightly the operator that begins with a token binds, if one does. -/
def Token.level? (t : Token) : Option Nat :=
  (Operator.all.find? (·.head = t)).map Operator.level

theorem Operator.level?_head (op : Operator) :
  op.head.level? = some op.level
  := by cases op <;> decide

/-- Whether a token can join operands at a level. -/
def Token.Binds (level : Nat) (t : Token) : Prop :=
  ∀ own ∈ t.level?, level ≤ own

theorem Operator.binds_head {level : Nat} {op : Operator} :
  op.head.Binds level ↔ level ≤ op.level
  := by simp [Token.Binds, op.level?_head]

/-- Whether a token joins operands exactly as tightly as a level says. -/
def Token.IsAt (level : Nat) (t : Token) : Prop :=
  t.role = .joint ∧ t.level? = some level

theorem Operator.isAt_head (op : Operator) :
  op.head.IsAt op.level
  := ⟨op.head_role, op.level?_head⟩

/-- What is joined tightly enough cannot be taken apart where tokens bind less tightly. -/
theorem Phrase.whole_of_lt {level own : Nat} {ts : List Token} (h : Phrase (Token.Binds level) ts)
    (hown : own < level) :
  Whole (Token.IsAt own) .start ts
  := by
  apply h.whole
  rintro t ⟨hrole, hlevel⟩
  use hrole
  intro hbinds
  have := hbinds own hlevel
  omega

/-- What joins at a level joins at a looser one. -/
theorem Token.Binds.mono {t : Token} {level level' : Nat} (hlevel : level ≤ level')
    (h : t.Binds level') :
  t.Binds level
  := by
  intro own hown
  have := h own hown
  omega

/-! ### Trees -/

/-- The functions that are called in conditions. -/
inductive Function where
  | replace
  | round
  | abs
  | min
  | max
  | date
  | julianday
  deriving DecidableEq

namespace Function

/-- The name of a function. -/
def name : Function → String
  | replace => "replace"
  | round => "ROUND"
  | abs => "ABS"
  | min => "MIN"
  | max => "MAX"
  | date => "date"
  | julianday => "julianday"

theorem name_inj {f g : Function} (h : f.name = g.name) :
  f = g
  := by
  revert h
  cases f <;> cases g <;> decide

theorem isFunction_name (f : Function) :
  IsFunction f.name
  := by cases f <;> decide

end Function

/-- What an expression is made of in the end. -/
inductive Leaf where
  | word (s : String)
  | number (digits : String)
  | negative (digits : String)
  | textLiteral (s : String)
  | parameter (slot : String)
  | quotedName (s : String)
  | qualified (tableAlias column : String)
  /-- The values of a column of a table. -/
  | selection (column table : String)
  deriving DecidableEq

/-- The tokens of a leaf. -/
def Leaf.tokens : Leaf → List Token
  | word s => [.word s]
  | number digits => [.number digits]
  | negative digits => [.symbol "-", .number digits]
  | textLiteral s => [.textLiteral s]
  | parameter slot => [.parameter slot]
  | quotedName s => [.quotedName s]
  | qualified tableAlias column => [.word tableAlias, .symbol ".", .word column]
  | selection column table =>
    [.symbol "(", .word "SELECT", .quotedName column, .word "FROM", .quotedName table,
      .symbol ")"]

/-- An expression by its operators and functions. -/
inductive Tree where
  | leaf (l : Leaf)
  | call (f : Function) (arguments : Tree)
  | binary (op : Operator) (a b : Tree)
  deriving DecidableEq

/-- How tokens are read as a tree whose operators outside parentheses bind at least as tightly
as `level`.  Behind an operator stand only those that bind more tightly. -/
inductive Parses : (level : Nat) → List Token → Tree → Prop
  | leaf {level : Nat} (l : Leaf) : Parses level l.tokens (.leaf l)
  | group {level : Nat} {ts : List Token} {T : Tree} (h : Parses 1 ts T) :
      Parses level (.symbol "(" :: (ts ++ [.symbol ")"])) T
  | call {level : Nat} (f : Function) {ts : List Token} {T : Tree} (h : Parses 0 ts T) :
      Parses level (.word f.name :: .symbol "(" :: (ts ++ [.symbol ")"])) (.call f T)
  | binary {level : Nat} {op : Operator} {ts us : List Token} {A B : Tree}
      (hlevel : level ≤ op.level) (ha : Parses op.level ts A) (hb : Parses (op.level + 1) us B) :
      Parses level (ts ++ op.head :: (op.tail ++ us)) (.binary op A B)

namespace Leaf

/-- A leaf is an operand, whatever joins operands. -/
theorem phrase (l : Leaf) (level : Nat) :
  Phrase (Token.Binds level) l.tokens
  := by
  have hpoint : (Token.symbol ".").Binds level := by
    have hnone : (Token.symbol ".").level? = none := by decide
    simp [Token.Binds, hnone]
  cases l with
  | negative digits => apply Phrase.lead (by decide) (.token (by simp))
  | qualified tableAlias column =>
      apply Phrase.join (.token (by simp)) (by decide) hpoint (.token (by simp))
  | selection column table =>
      have hcolumn : Phrase (fun _ => True)
          ([.quotedName column] ++ .word "FROM" :: [.quotedName table]) :=
        .join (.token (by simp)) (by decide) trivial (.token (by simp))
      have hselect : Phrase (fun _ => True)
          (.word "SELECT" :: [.quotedName column, .word "FROM", .quotedName table]) :=
        .lead (by decide) hcolumn
      apply hselect.group
  | _ => apply Phrase.token (by simp)

/-- A leaf does not begin with the negation of an operand. -/
theorem plain (l : Leaf) :
  Plain l.tokens
  := by
  cases l with
  | negative digits => apply plain_cons rfl
  | selection column table => apply plain_cons rfl
  | qualified tableAlias column =>
      have hcolumn : Phrase (Token.Binds 0) [.word column] := .token (by simp)
      apply (plain_token (.word tableAlias)).join (by simp) (by decide) hcolumn
  | _ => apply plain_token

theorem tokens_inj {l m : Leaf} (h : l.tokens = m.tokens) :
  l = m
  := by cases l <;> cases m <;> simp_all [tokens]

/-- A leaf that begins with a parenthesis is a selection. -/
theorem eq_selection {l : Leaf} {ts : List Token} (h : l.tokens = .symbol "(" :: ts) :
  ∃ column table, l = .selection column table
  := by
  cases l with
  | selection column table => use column, table
  | _ => simp [tokens] at h

/-- No leaf is a call. -/
theorem ne_call (l : Leaf) (f : Function) (ts : List Token) :
  l.tokens ≠ .word f.name :: .symbol "(" :: ts
  := by cases l <;> simp [tokens]

end Leaf

namespace Operator

/-- What stands behind an operand goes with the rest of the operator. -/
theorem phrase_tail {joins : Token → Prop} {ts : List Token} (op : Operator)
    (h : Phrase joins ts) :
  Phrase joins (op.tail ++ ts)
  := by
  cases op with
  | isNot => apply Phrase.lead (by decide) h
  | _ => apply h

end Operator

namespace Parses

variable {level level' : Nat} {ts us vs : List Token} {T T' : Tree}

/-- What is read is an operand, joined by operators that bind tightly enough. -/
theorem phrase (h : Parses level ts T) :
  Phrase (Token.Binds level) ts
  := by
  induction h with
  | leaf l => apply l.phrase
  | group _ ih => apply ih.group
  | call f _ ih => apply Phrase.lead f.isFunction_name.2.1 ih.group
  | @binary level op ts us A B hlevel _ _ iha ihb =>
      have hbehind : level ≤ op.level + 1 := by omega
      apply Phrase.join (iha.mono fun t => Token.Binds.mono hlevel) op.head_role
      · apply Operator.binds_head.mpr hlevel
      · apply op.phrase_tail
        apply ihb.mono fun t => Token.Binds.mono hbehind

/-- What is read does not begin with the negation of an operand. -/
theorem plain (h : Parses level ts T) :
  Plain ts
  := by
  induction h with
  | leaf l => apply l.plain
  | group _ _ => apply plain_cons rfl
  | call f _ _ => apply plain_cons f.isFunction_name.2.2
  | @binary _ op _ _ _ _ _ ha hb iha _ =>
      apply iha.join ha.phrase.ne_nil op.head_role (op.phrase_tail hb.phrase)

/-- The scan finds an operand behind an operator. -/
theorem after_start (op : Operator) (h : Parses level ts T) :
  Scan.start.after (op.tail ++ ts) = .operand
  := (op.phrase_tail h.phrase).after 0

/-- Where what is read can be taken apart at an operator, that binds tightly enough. -/
theorem le_level {op : Operator} (h : Parses level (us ++ op.head :: (op.tail ++ vs)) T)
    (hvs : Parses level' vs T') :
  level ≤ op.level
  := by
  by_contra hlevel
  apply (h.phrase.whole_of_lt (Nat.lt_of_not_le hlevel)).after_ne op.isAt_head
  apply hvs.after_start op

/-- What is read however tightly operators have to bind cannot be taken apart at one. -/
theorem ne_binary (h : Parses Operator.tightest ts T) (op : Operator) (us : List Token)
    (hvs : Parses level' vs T') :
  ts ≠ us ++ op.head :: (op.tail ++ vs)
  := by
  rintro rfl
  have := h.le_level hvs
  have := op.level_lt_tightest
  omega

/-! ### One reading -/

/-- What is read is a leaf, stands in parentheses, is a call, or can be taken apart. -/
theorem shape (h : Parses level ts T) :
  (∃ l, ts = l.tokens ∧ T = .leaf l) ∨
    (∃ us, ts = .symbol "(" :: (us ++ [.symbol ")"]) ∧ Parses 1 us T) ∨
    (∃ f us U, ts = .word f.name :: .symbol "(" :: (us ++ [.symbol ")"]) ∧ T = .call f U ∧
      Parses 0 us U) ∨
    ∃ op us vs A B, ts = us ++ op.head :: (op.tail ++ vs) ∧ T = .binary op A B ∧
      level ≤ op.level ∧ Parses op.level us A ∧ Parses (op.level + 1) vs B
  := by
  cases h with
  | leaf l => left; use l
  | group h => right; left; exact ⟨_, rfl, h⟩
  | call f h => right; right; left; exact ⟨f, _, _, rfl, rfl, h⟩
  | binary hlevel ha hb => right; right; right; exact ⟨_, _, _, _, _, rfl, rfl, hlevel, ha, hb⟩

/-- What stands in the parentheses of a selection is no expression. -/
theorem not_selection {column table : String}
    (h : Parses level [.word "SELECT", .quotedName column, .word "FROM", .quotedName table] T) :
  False
  := by
  obtain ⟨l, hl, -⟩ | ⟨us, hgroup, -⟩ | ⟨f, us, U, hcall, -⟩ | ⟨op, us, vs, A, B, hbinary, -⟩ :=
    h.shape
  · cases l <;> simp [Leaf.tokens] at hl
  · simp at hgroup
  · simp at hcall
  · have hmem : op.head ∈ us ++ op.head :: (op.tail ++ vs) := by simp
    rw [← hbinary] at hmem
    cases op <;> simp [Operator.head] at hmem

/-- No leaf is an expression in parentheses. -/
theorem ne_leaf (h : Parses level us T) (l : Leaf) :
  l.tokens ≠ .symbol "(" :: (us ++ [.symbol ")"])
  := by
  intro hl
  obtain ⟨column, table, rfl⟩ := Leaf.eq_selection hl
  have hus : [.word "SELECT", .quotedName column, .word "FROM", .quotedName table] = us := by
    apply List.append_cancel_right (List.cons.inj hl).2
  rw [← hus] at h
  apply h.not_selection

/-- Two trees whose tokens are taken apart at operators are taken apart at the same one. -/
theorem split {op op' : Operator} {ts ts' us us' : List Token} {A A' B B' : Tree}
    (h : ts ++ op.head :: (op.tail ++ us) = ts' ++ op'.head :: (op'.tail ++ us'))
    (ha : Parses op.level ts A) (hb : Parses (op.level + 1) us B)
    (ha' : Parses op'.level ts' A') (hb' : Parses (op'.level + 1) us' B') :
  op = op' ∧ ts = ts' ∧ us = us'
  := by
  have hle : op.level ≤ op'.level := by
    have hread := Parses.binary (Nat.le_refl _) ha hb
    rw [h] at hread
    apply hread.le_level hb'
  have hle' : op'.level ≤ op.level := by
    have hread := Parses.binary (Nat.le_refl _) ha' hb'
    rw [← h] at hread
    apply hread.le_level hb
  have hlevel : op.level = op'.level := Nat.le_antisymm hle hle'
  -- Both operators are the last one that binds so loosely.
  have hat' : op'.head.IsAt op.level := by
    rw [hlevel]
    apply op'.isAt_head
  have hwhole := (op.phrase_tail hb.phrase).whole_of_lt (Nat.lt_succ_self _)
  have hwhole' := (op'.phrase_tail hb'.phrase).whole_of_lt (Nat.lt_succ_self _)
  rw [← hlevel] at hwhole'
  obtain ⟨rfl, htails⟩ := split_unique h op.isAt_head hat' (hb.after_start op)
    (hb'.after_start op') hwhole hwhole'
  have hheads : op.head = op'.head := (List.cons.inj (List.append_cancel_left h)).1
  obtain rfl | ⟨rfl, rfl⟩ | ⟨rfl, rfl⟩ := Operator.head_inj hheads
  · use rfl, rfl, List.append_cancel_left htails
  · cases hb.plain _ _ htails (by decide) (hb'.phrase.after 0)
  · cases hb'.plain _ _ htails.symm (by decide) (hb.phrase.after 0)

/-- Tokens are read as one tree at most. -/
theorem unique (h : Parses level ts T) (h' : Parses level' ts T') :
  T = T'
  := by
  induction h generalizing level' T' with
  | leaf l =>
      obtain ⟨m, hm, rfl⟩ | ⟨us, hgroup, hus⟩ | ⟨f, us, U, hcall, -⟩ |
        ⟨op, us, vs, A, B, hsplit, -, -, -, hvs⟩ := h'.shape
      · rw [Leaf.tokens_inj hm]
      · cases hus.ne_leaf l hgroup
      · cases l.ne_call f _ hcall
      · cases (Parses.leaf l).ne_binary op us hvs hsplit
  | group h ih =>
      obtain ⟨m, hm, rfl⟩ | ⟨us, hgroup, hus⟩ | ⟨f, us, U, hcall, -⟩ |
        ⟨op, us, vs, A, B, hsplit, -, -, -, hvs⟩ := h'.shape
      · cases h.ne_leaf m hm.symm
      · obtain rfl := List.append_cancel_right (List.cons.inj hgroup).2
        apply ih hus
      · cases hcall
      · cases h.group.ne_binary op us hvs hsplit
  | call f h ih =>
      obtain ⟨m, hm, rfl⟩ | ⟨us, hgroup, hus⟩ | ⟨g, us, U, hcall, rfl, hus⟩ |
        ⟨op, us, vs, A, B, hsplit, -, -, -, hvs⟩ := h'.shape
      · cases m.ne_call f _ hm.symm
      · cases hgroup
      · obtain ⟨hname, harguments⟩ := List.cons.inj hcall
        obtain rfl := Function.name_inj (Token.word.inj hname)
        obtain rfl := List.append_cancel_right (List.cons.inj harguments).2
        rw [ih hus]
      · cases (Parses.call f h).ne_binary op us hvs hsplit
  | binary hlevel ha hb iha ihb =>
      obtain ⟨m, hm, rfl⟩ | ⟨us, hgroup, hus⟩ | ⟨f, us, U, hcall, rfl, hus⟩ |
        ⟨op, us, vs, A, B, hsplit, rfl, -, hus, hvs⟩ := h'.shape
      · cases (Parses.leaf m).ne_binary _ _ hb hm.symm
      · cases hus.group.ne_binary _ _ hb hgroup.symm
      · cases (Parses.call f hus).ne_binary _ _ hb hcall.symm
      · obtain ⟨rfl, rfl, rfl⟩ := Parses.split hsplit ha hb hus hvs
        rw [iha hus, ihb hvs]

end Parses

end EntityStore.Sql
