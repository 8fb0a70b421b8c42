import EntityStore.Proofs.Sql.Lexing

/-!
# Texts put together

Texts that are read as tokens are put together with blanks, commas, parentheses and other
symbols.  The text that results is read as the tokens of its parts and those between them.
-/

namespace EntityStore.Sql

open Text

variable {a b : String} {ts us : List Token}

/-- Nothing ends a text in a wrong way. -/
theorem ends_cons {c : Char} (h : c = ' ' ∨ c = ')' ∨ c = ',') (rest : List Char) :
  Ends (c :: rest)
  := by
  intro d hd
  cases hd
  apply h

/-- A parenthesis or a comma is a token wherever it stands. -/
theorem tokensOf_mark {c : Char} (h : c = '(' ∨ c = ')' ∨ c = ',') (rest : List Char) :
  tokensOf (c :: rest) = .symbol (String.singleton c) :: tokensOf rest
  := by
  have hopens : Opens [c] := by obtain rfl | rfl | rfl := h <;> apply opens_cons <;> decide
  have htokens := hopens.tokensOf_cons rest
  obtain rfl | rfl | rfl := h <;> apply htokens

/-- Two texts with a blank between them. -/
theorem Lexes.blank (ha : Lexes a ts) (hb : Lexes b us) :
  Lexes (a ++ " " ++ b) (ts ++ us)
  := by
  constructor
  · simp only [String.toList_append, List.append_assoc]
    apply ha.opens.append
  · intro rest hrest
    have hparts : (a ++ " " ++ b).toList ++ rest = a.toList ++ ' ' :: (b.toList ++ rest) := by
      simp
    rw [hparts, ha.reads _ (ends_cons (by simp) _), hb.opens.tokensOf_blank, hb.reads rest hrest,
      List.append_assoc]

/-- Two texts with a word between them. -/
theorem Lexes.between {word : String} (hword : isIdentifier word = true) (ha : Lexes a ts)
    (hb : Lexes b us) :
  Lexes (a ++ " " ++ word ++ " " ++ b) (ts ++ .word word :: us)
  := by
  have h := (ha.blank (lexes_word hword)).blank hb
  rw [List.append_assoc] at h
  apply h

/-- Two texts with a comma between them. -/
theorem Lexes.comma (ha : Lexes a ts) (hb : Lexes b us) :
  Lexes (a ++ ", " ++ b) (ts ++ .symbol "," :: us)
  := by
  constructor
  · simp only [String.toList_append, List.append_assoc]
    apply ha.opens.append
  · intro rest hrest
    have hparts :
        (a ++ ", " ++ b).toList ++ rest = a.toList ++ ',' :: ' ' :: (b.toList ++ rest) := by simp
    rw [hparts, ha.reads _ (ends_cons (by simp) _), tokensOf_mark (by simp),
      hb.opens.tokensOf_blank, hb.reads rest hrest, List.append_assoc]
    rfl

/-- A text between parentheses. -/
theorem Lexes.group (ha : Lexes a ts) :
  Lexes ("(" ++ a ++ ")") (.symbol "(" :: (ts ++ [.symbol ")"]))
  := by
  constructor
  · have hparts : ("(" ++ a ++ ")").toList = '(' :: (a.toList ++ [')']) := by simp
    rw [hparts]
    apply opens_cons <;> decide
  · intro rest hrest
    have hparts : ("(" ++ a ++ ")").toList ++ rest = '(' :: (a.toList ++ ')' :: rest) := by simp
    rw [hparts, tokensOf_mark (by simp), ha.reads _ (ends_cons (by simp) _),
      tokensOf_mark (by simp), List.cons_append, List.append_assoc]
    rfl

/-- A text in parentheses behind the word that negates it. -/
theorem Lexes.negation (ha : Lexes a ts) :
  Lexes ("NOT (" ++ a ++ ")") (.word "NOT" :: .symbol "(" :: (ts ++ [.symbol ")"]))
  := by
  have hword : Lexes "NOT" [.word "NOT"] := lexes_word (by decide)
  have hnot := hword.blank ha.group
  have hopening : "NOT (" = "NOT" ++ " " ++ "(" := by decide
  rw [hopening]
  simp only [String.append_assoc] at hnot ⊢
  apply hnot

/-- A name with a text behind it that does not go on with the name. -/
theorem Lexes.behind {name : String} (hname : isIdentifier name = true)
    (hends : ∀ d ∈ a.toList.head?, isWordChar d = false ∧ d ≠ apostrophe) (ha : Lexes a ts) :
  Lexes (name ++ a) (.word name :: ts)
  := by
  constructor
  · rw [String.toList_append]
    apply (opens_of_isIdentifier hname).append
  · intro rest hrest
    rw [String.toList_append, List.append_assoc, tokensOf_word hname, ha.reads rest hrest]
    · rfl
    · cases hchars : a.toList with
      | nil => cases ha.opens.nonempty hchars
      | cons c cs =>
          rw [hchars] at hends
          apply hends

/-- A call of a function. -/
theorem Lexes.call {name : String} (hname : isIdentifier name = true) (ha : Lexes a ts) :
  Lexes (name ++ ("(" ++ a ++ ")")) (.word name :: .symbol "(" :: (ts ++ [.symbol ")"]))
  := by
  apply Lexes.behind hname _ ha.group
  have hparts : ("(" ++ a ++ ")").toList = '(' :: (a.toList ++ [')']) := by simp
  rw [hparts]
  rintro d ⟨⟩
  decide

/-- A point is a token unless it begins a number. -/
theorem next_point {c : Char} (h : c.isDigit = false) (rest : List Char) :
  Token.next '.' (c :: rest) = (.symbol ".", 0)
  := by
  have hfraction : ¬ ('.'.isDigit ∨ '.' = '.' ∧ (c :: rest).head?.any Char.isDigit) := by
    simp [h]
  unfold Token.next
  dsimp only
  rw [if_neg hfraction]
  rfl

/-- A column of a table. -/
theorem lexes_qualified {tableAlias column : String} (halias : isIdentifier tableAlias = true)
    (hcolumn : isIdentifier column = true) :
  Lexes (tableAlias ++ ("." ++ column)) [.word tableAlias, .symbol ".", .word column]
  := by
  obtain ⟨c, cs, hchars, hc, -⟩ := exists_of_isIdentifier hcolumn
  have hparts : ("." ++ column).toList = '.' :: c :: cs := by simp [hchars]
  have hopens : Opens ('.' :: c :: cs) := by apply opens_cons <;> decide
  have hpoint : Lexes ("." ++ column) [.symbol ".", .word column] := by
    constructor
    · rw [hparts]
      apply hopens
    · intro rest hrest
      have hword := (lexes_word hcolumn).reads rest hrest
      rw [hchars] at hword
      rw [hparts, List.cons_append, hopens.tokensOf_cons, List.cons_append,
        next_point (isDigit_of_startsIdentifier hc), List.drop_zero, ← List.cons_append, hword]
      rfl
  apply Lexes.behind halias _ hpoint
  rw [hparts]
  rintro d ⟨⟩
  decide

/-- Two texts with the sign of a quotient between them. -/
theorem Lexes.quotient (ha : Lexes a ts) (hb : Lexes b us) :
  Lexes (a ++ " / " ++ b) (ts ++ .symbol "/" :: us)
  := by
  constructor
  · simp only [String.toList_append, List.append_assoc]
    apply ha.opens.append
  · intro rest hrest
    have hopens : Opens ['/', ' '] := by
      constructor
      · simp
      · intro rest
        rfl
      · intro rest
        rfl
    have hparts : (a ++ " / " ++ b).toList ++ rest =
        a.toList ++ ' ' :: (['/', ' '] ++ (b.toList ++ rest)) := by simp
    have hnext : tokensOf (['/', ' '] ++ (b.toList ++ rest)) =
        .symbol "/" :: tokensOf (' ' :: (b.toList ++ rest)) :=
      hopens.tokensOf_cons (b.toList ++ rest)
    rw [hparts, ha.reads _ (ends_cons (by simp) _), hopens.tokensOf_blank, hnext,
      hb.opens.tokensOf_blank, hb.reads rest hrest, List.append_assoc]
    rfl

/-- A sign is a token before what is no part of a symbol. -/
theorem next_minus {c : Char} (h : c ≠ '>') (rest : List Char) :
  Token.next '-' (c :: rest) = (.symbol "-", 0)
  := by
  have hbeq : ('>' == c) = false := by simpa using h.symm
  have hsign : Token.sign ('-' :: c :: rest) = (.symbol "-", "-".length) := by
    simp [Token.sign, Token.symbols, List.isPrefixOf, hbeq]
  show ((Token.sign ('-' :: c :: rest)).1, (Token.sign ('-' :: c :: rest)).2 - 1) = _
  rw [hsign]
  rfl

/-- A sign begins a token before what begins no comment. -/
theorem opens_minus {c : Char} (h : c ≠ '-') (s : List Char) :
  Opens ('-' :: c :: s)
  := by
  constructor
  · simp
  · intro rest
    simp [Gap.length, h, isSpace, byteOrderMark]
  · intro rest
    simp [Gap.length, h, isSpace, byteOrderMark]

/-- A number behind its sign. -/
theorem lexes_negative (n : Nat) :
  Lexes (String.ofList ('-' :: decimalDigits n))
    [.symbol "-", .number (String.ofList (decimalDigits n))]
  := by
  obtain ⟨c, cs, hdigits⟩ : ∃ c cs, decimalDigits n = c :: cs :=
    List.exists_cons_of_length_pos Nat.length_toDigits_pos
  have hc : c.isDigit = true := by
    apply isDigit_of_mem_decimalDigits (n := n)
    simp [hdigits]
  have hopens := opens_minus (ne_of_kind hc (by decide)) cs
  constructor
  · rw [String.toList_ofList, hdigits]
    apply hopens
  · intro rest hrest
    have hnumber := (lexes_decimalDigits n).reads rest hrest
    rw [String.toList_ofList, hdigits] at hnumber
    rw [String.toList_ofList, hdigits, List.cons_append, hopens.tokensOf_cons, List.cons_append,
      next_minus (ne_of_kind hc (by decide)), List.drop_zero, ← List.cons_append, hnumber]
    rfl

/-- The text of an integer, which may have a sign. -/
theorem lexes_decimalText (n : Int) :
  ∃ ds, Lexes (decimalText n) [.number ds] ∨ Lexes (decimalText n) [.symbol "-", .number ds]
  := by
  use String.ofList (decimalDigits n.natAbs)
  unfold decimalText
  split
  · right
    apply lexes_negative
  · left
    apply lexes_decimalDigits

end EntityStore.Sql
