import EntityStore.Proofs.Sql.Lexing

/-!
# Quotes that keep what they enclose

A name or a text between quotes is one token, however many quotes it contains and wherever
they stand.  The token takes what was written and no character more, unless one more quote
follows directly, and its value is what was enclosed.  So a name can be told from its
quotation, even where something is written behind it.

All of this is about characters.  A statement with a null character in it is refused before
any of it is read.
-/

namespace EntityStore.Sql

open Text

/-- The blanks and comments that a text begins with. -/
def leadingGap (s : List Char) : String :=
  String.ofList (s.take (Gap.nothing.length s))

/-- A text that begins with a token has it in front of what its other characters have. -/
theorem Opens.lexemes_cons {c : Char} {s : List Char} (h : Opens (c :: s)) :
  lexemes (c :: s) =
    let after := s.drop (Token.next c s).2
    ⟨(Token.next c s).1, String.ofList (c :: s.take (Token.next c s).2), leadingGap after⟩ ::
      lexemes after
  := by
  have hgap := h.nothing []
  rw [List.append_nil] at hgap
  unfold lexemes
  rw [hgap, List.drop_zero, lexemesFrom]
  rfl

/-! ### Where quotes close -/

/-- Quotes that are written twice close nothing, whatever follows them. -/
theorem closing?_doubled_append (quote : Char) (s rest : List Char) :
  closing? quote (doubled quote s ++ rest) =
    (closing? quote rest).map (· + (doubled quote s).length)
  := by
  induction s with
  | nil => simp [doubled]
  | cons c s ih =>
      by_cases hc : c = quote
      · subst hc
        simp [doubled, closing?, ih, Function.comp_def, Nat.add_assoc]
      · -- a character that is no quote is passed over alone, so what follows it is named
        cases htail : doubled quote s ++ rest with
        | nil =>
            obtain ⟨hs, rfl⟩ := List.append_eq_nil_iff.mp htail
            simp [doubled, hc, hs, closing?]
        | cons d more =>
            rw [htail] at ih
            simp [doubled, hc, htail, closing?, ih, Function.comp_def, Nat.add_assoc]

/-- A closing quote is one of the characters that are searched. -/
theorem closing?_le_length {quote : Char} {s : List Char} {n : Nat}
    (h : closing? quote s = some n) :
  n ≤ s.length
  := by
  induction s using closing?.induct quote generalizing n with
  | case1 => cases h
  | case2 =>
      obtain rfl : 1 = n := by simpa [closing?] using h
      simp
  | case3 c hc => simp [closing?, hc] at h
  | case4 c d rest hc ih =>
      rw [closing?, if_pos hc] at h
      obtain ⟨m, hm, rfl⟩ := Option.map_eq_some_iff.mp h
      have := ih hm
      simp only [List.length_cons] at *
      omega
  | case5 c rest hc ih =>
      rw [closing?, if_neg hc, if_pos rfl] at h
      obtain ⟨m, hm, rfl⟩ := Option.map_eq_some_iff.mp h
      have := ih hm
      simp only [List.length_cons]
      omega
  | case6 c d rest hc hd =>
      obtain rfl : 1 = n := by simpa [closing?, hc, hd] using h
      simp

/-- With one more quote behind the closing one, a token of quotes takes that too, whether it
is closed later or never. -/
theorem length_lt_enclosed (kind : String → Token) (quote : Char) (s : List Char)
    {rest : List Char} (hrest : rest.head? = some quote) :
  let text := doubled quote s ++ [quote] ++ rest
  (doubled quote s ++ [quote]).length < (Token.enclosed kind quote text).2 ∧
    (Token.enclosed kind quote text).2 ≤ text.length
  := by
  cases rest with
  | nil => cases hrest
  | cons d more =>
      obtain rfl : d = quote := by simpa using hrest
      have hclosing : closing? d (doubled d s ++ [d] ++ d :: more) =
          (closing? d more).map (· + ((doubled d s).length + 2)) := by
        rw [List.append_assoc, closing?_doubled_append]
        simp [closing?, Function.comp_def, Nat.add_assoc, Nat.add_comm]
      unfold Token.enclosed
      dsimp only
      cases hmore : closing? d more with
      | none =>
          rw [hmore, Option.map_none] at hclosing
          rw [hclosing]
          simp
      | some n =>
          rw [hmore, Option.map_some] at hclosing
          rw [hclosing]
          have := closing?_le_length hclosing
          simp only [List.length_append, List.length_cons, List.length_nil] at *
          omega

/-! ### One token -/

section

variable {quote : Char} {kind : String → Token} {s rest : List Char}

/-- What is enclosed in quotes is one token, which takes what was written, exactly if no
more quote follows. -/
theorem lexemes_enclosed_iff (hopens : ∀ more, Opens (quote :: more))
    (hnext : ∀ more, Token.next quote more = Token.enclosed kind quote more) :
  lexemes (enclosed quote s ++ rest) =
      ⟨kind (String.ofList s), String.ofList (enclosed quote s), leadingGap rest⟩ ::
        lexemes rest ↔
    rest.head? ≠ some quote
  := by
  have hwritten : enclosed quote s ++ rest = quote :: (doubled quote s ++ [quote] ++ rest) := by
    simp [enclosed]
  rw [hwritten, (hopens _).lexemes_cons, hnext]
  constructor
  · intro hread hrest
    injection hread with hlexeme
    injection hlexeme with _ htext
    obtain ⟨hlong, hfits⟩ := length_lt_enclosed kind quote s hrest
    have hlength := congrArg List.length (String.ofList_injective htext)
    simp only [enclosed, List.cons_append, List.length_cons, List.length_take] at hlength
    omega
  · intro hrest
    rw [enclosed_doubled kind quote s hrest]
    dsimp only
    rw [List.take_left, List.drop_left]
    rfl

end

/-! ### Quotations -/

/-- Whether `q` puts quotes around texts so that each is one token of a kind, which ends
where the quotation does unless one more quote follows it. -/
structure Quotes (q : String → String) (quote : Char) (kind : String → Token) : Prop where
  /-- The token has the text for its value and takes all of the quotation and nothing
  else. -/
  reads : ∀ s rest : String,
    lexemes (q s ++ rest).toList =
        ⟨kind s, q s, leadingGap rest.toList⟩ :: lexemes rest.toList ↔
      rest.toList.head? ≠ some quote
  /-- No text ends its quotation early: it can be told from what follows it. -/
  separates : ∀ s t rest more : String, rest.toList.head? ≠ some quote →
    more.toList.head? ≠ some quote → q s ++ rest = q t ++ more → s = t ∧ rest = more
  /-- Different texts have different quotations. -/
  injective : Function.Injective q

/-- Enclosing texts in quotes makes quotations of them. -/
theorem quotes_enclosed {quote : Char} {kind : String → Token} (hkind : Function.Injective kind)
    (hopens : ∀ more, Opens (quote :: more))
    (hnext : ∀ more, Token.next quote more = Token.enclosed kind quote more) :
  Quotes (fun s => String.ofList (enclosed quote s.toList)) quote kind
  := by
  have hreads (s rest : String) :
      lexemes (String.ofList (enclosed quote s.toList) ++ rest).toList =
          ⟨kind s, String.ofList (enclosed quote s.toList), leadingGap rest.toList⟩ ::
            lexemes rest.toList ↔
        rest.toList.head? ≠ some quote := by
    have hiff := @lexemes_enclosed_iff quote kind s.toList rest.toList hopens hnext
    rw [String.ofList_toList] at hiff
    rw [String.toList_append, String.toList_ofList]
    apply hiff
  have hseparates (s t rest more : String) (hrest : rest.toList.head? ≠ some quote)
      (hmore : more.toList.head? ≠ some quote)
      (heq : String.ofList (enclosed quote s.toList) ++ rest =
        String.ofList (enclosed quote t.toList) ++ more) :
      s = t ∧ rest = more := by
    have hs := (hreads s rest).mpr hrest
    have ht := (hreads t more).mpr hmore
    rw [heq, ht] at hs
    injection hs with hlexeme
    injection hlexeme with htoken
    obtain rfl := hkind htoken
    use rfl
    have hchars := congrArg String.toList heq
    rw [String.toList_append, String.toList_append] at hchars
    apply String.toList_inj.mp (List.append_cancel_left hchars)
  constructor
  · apply hreads
  · apply hseparates
  · intro s t heq
    apply (hseparates s t "" "" (by simp) (by simp) (congrArg (· ++ "") heq)).left

/-- Names and texts are kept by their quotes, whatever quotes they contain or end with: one
token of the lexer takes the quotation, has the name or the text for its value and leaves
what follows. -/
theorem quotations_read_back :
  Quotes quoteName '"' .quotedName ∧ Quotes quoteText apostrophe .textLiteral
  := by
  constructor
  · apply quotes_enclosed
    · intro s t heq
      injection heq
    · intro more
      apply opens_cons <;> decide
    · intro more
      rfl
  · apply quotes_enclosed
    · intro s t heq
      injection heq
    · intro more
      apply opens_cons <;> decide
    · intro more
      rfl

end EntityStore.Sql
