import EntityStore.Proofs.Number.Decimal
import EntityStore.Sql.Token

/-!
# Reading tokens back

Texts that are put together from names, parameters, numbers, quoted texts and symbols are
read as these tokens again, provided that something between them keeps them apart.
`Lexes s ts` says so of a text that a blank, a comma or a closing parenthesis may follow.
-/

namespace EntityStore.Sql

open Text

/-- The tokens of characters. -/
def tokensOf (s : List Char) : List Token :=
  (lexemes s).map (·.token)

/-- The tokens of a text. -/
def tokens (s : String) : List Token :=
  tokensOf s.toList

/-- There are no tokens in nothing. -/
@[simp] theorem tokensOf_nil :
  tokensOf [] = []
  := by simp [tokensOf, lexemes, lexemesFrom]

/-- Whether a token begins at once, whatever follows. -/
structure Opens (s : List Char) : Prop where
  nonempty : s ≠ []
  nothing : ∀ rest, Gap.nothing.length (s ++ rest) = 0
  blanks : ∀ rest, Gap.blanks.length (s ++ rest) = 0

/-- What begins with a token still does if there is more. -/
theorem Opens.append {s : List Char} (h : Opens s) (more : List Char) :
  Opens (s ++ more)
  := by
  constructor
  · simp [h.nonempty]
  · intro rest
    rw [List.append_assoc]
    apply h.nothing
  · intro rest
    rw [List.append_assoc]
    apply h.blanks

/-- A blank before a token is passed over. -/
theorem Opens.tokensOf_blank {s : List Char} (h : Opens s) (rest : List Char) :
  tokensOf (' ' :: (s ++ rest)) = tokensOf (s ++ rest)
  := by
  have hgap : Gap.nothing.length (' ' :: (s ++ rest)) = 1 := by
    show Gap.blanks.length (s ++ rest) + 1 = 1
    rw [h.blanks]
  unfold tokensOf lexemes
  rw [hgap, h.nothing]
  rfl

/-- What begins with a token is read as it and what follows it. -/
theorem Opens.tokensOf_cons {c : Char} {s : List Char} (h : Opens (c :: s)) (rest : List Char) :
  tokensOf (c :: (s ++ rest)) =
    (Token.next c (s ++ rest)).1 :: tokensOf ((s ++ rest).drop (Token.next c (s ++ rest)).2)
  := by
  have hgap := h.nothing rest
  rw [List.cons_append] at hgap
  unfold tokensOf lexemes
  rw [hgap, List.drop_zero, lexemesFrom]
  rfl

/-- Whether nothing follows, or something that no token goes on with. -/
def Ends (rest : List Char) : Prop :=
  ∀ c ∈ rest.head?, c = ' ' ∨ c = ')' ∨ c = ','

/-- A text is read as tokens, with any text after it that does not go on with them. -/
structure Lexes (s : String) (ts : List Token) : Prop where
  opens : Opens s.toList
  reads : ∀ rest, Ends rest → tokensOf (s.toList ++ rest) = ts ++ tokensOf rest

/-- A text that is read as tokens has them. -/
theorem Lexes.tokens_eq {s : String} {ts : List Token} (h : Lexes s ts) :
  tokens s = ts
  := by
  have hreads := h.reads [] (by simp [Ends])
  rw [List.append_nil, tokensOf_nil, List.append_nil] at hreads
  apply hreads

/-- A text is read as a token that begins with its first character and ends with its last. -/
theorem lexes_of_next {c : Char} {cs : List Char} {t : Token} (hopens : Opens (c :: cs))
    (hnext : ∀ rest, Ends rest → Token.next c (cs ++ rest) = (t, cs.length)) :
  Lexes (String.ofList (c :: cs)) [t]
  := by
  constructor
  · rw [String.toList_ofList]
    apply hopens
  · intro rest hrest
    rw [String.toList_ofList, List.cons_append, hopens.tokensOf_cons, hnext rest hrest,
      List.drop_left]
    rfl

/-- What ends a text is nothing or one of three characters. -/
theorem Ends.cases {rest : List Char} (h : Ends rest) :
  rest = [] ∨ ∃ c more, rest = c :: more ∧ (c = ' ' ∨ c = ')' ∨ c = ',')
  := by
  cases rest with
  | nil => left; rfl
  | cons c more =>
      right
      use c, more, rfl
      apply h c rfl

/-! ### Names and parameters -/

/-- A character of a kind is none that is not of the kind. -/
theorem ne_of_kind {kind : Char → Bool} {c d : Char} (hc : kind c = true)
    (hd : kind d = false) :
  c ≠ d
  := by
  rintro rfl
  rw [hc] at hd
  cases hd

/-- A character of a kind marks no parameter if none of the kind does. -/
theorem not_mem_marks {kind : Char → Bool} {c : Char} (hc : kind c = true)
    (h : (Token.marks.all fun d => !kind d) = true) :
  c ∉ Token.marks
  := by
  intro hmem
  have hnot := List.all_eq_true.mp h c hmem
  rw [hc] at hnot
  cases hnot

/-- A character that is neither blank nor the sign of a comment begins a token. -/
theorem opens_cons {c : Char} (hspace : isSpace c = false) (hmark : c ≠ byteOrderMark)
    (hminus : c ≠ '-') (hslash : c ≠ '/') (s : List Char) :
  Opens (c :: s)
  := by
  constructor
  · simp
  · intro rest
    simp [Gap.length, *]
  · intro rest
    simp [Gap.length, *]

/-- A character of an identifier begins a token. -/
theorem opens_of_continuesIdentifier {c : Char} (h : continuesIdentifier c = true)
    (s : List Char) :
  Opens (c :: s)
  := by
  have hne (d : Char) (hd : continuesIdentifier d = false) : c ≠ d := ne_of_kind h hd
  apply opens_cons
  · have htab := hne '\t' (by decide)
    have hline := hne '\n' (by decide)
    have hvertical := hne '\x0b' (by decide)
    have hform := hne '\x0c' (by decide)
    have hreturn := hne '\r' (by decide)
    have hblank := hne ' ' (by decide)
    simp [isSpace, *]
  · apply hne _ (by decide)
  · apply hne _ (by decide)
  · apply hne _ (by decide)

/-- The characters of an identifier, the first of which is no digit. -/
theorem exists_of_isIdentifier {name : String} (h : isIdentifier name = true) :
  ∃ c cs, name.toList = c :: cs ∧ startsIdentifier c = true ∧
    ∀ d ∈ cs, continuesIdentifier d = true
  := by
  unfold isIdentifier at h
  cases hname : name.toList with
  | nil => simp [hname] at h
  | cons c cs =>
      rw [hname] at h
      simp only [Bool.and_eq_true, List.all_eq_true] at h
      use c, cs, rfl, h.1, h.2

/-- What begins an identifier can also continue one. -/
theorem continuesIdentifier_of_startsIdentifier {c : Char} (h : startsIdentifier c = true) :
  continuesIdentifier c = true
  := by
  unfold startsIdentifier at h
  unfold continuesIdentifier Char.isAlphanum
  simp only [Bool.or_eq_true] at h ⊢
  obtain h | h := h
  · left; left; apply h
  · right; apply h

/-- No digit begins an identifier. -/
theorem isDigit_of_startsIdentifier {c : Char} (h : startsIdentifier c = true) :
  c.isDigit = false
  := by
  cases hdigit : c.isDigit with
  | false => rfl
  | true =>
      obtain ⟨-, hmost⟩ := Char.isDigit_iff_toNat.mp hdigit
      have hnine : '9'.toNat = 57 := rfl
      have hletter : 65 ≤ c.toNat := by
        change (decide (c.val ≥ 'A'.val ∧ c.val ≤ 'Z'.val) ||
          decide (c.val ≥ 'a'.val) && decide (c.val ≤ 'z'.val) || c == '_') = true at h
        simp only [Bool.or_eq_true, Bool.and_eq_true, decide_eq_true_eq,
          UInt32.le_iff_toNat_le, ge_iff_le, beq_iff_eq] at h
        obtain (⟨h, -⟩ | ⟨h, -⟩) | rfl := h
        · apply h
        · apply Nat.le_trans _ h
          decide
        · decide
      omega

/-- What belongs to an identifier belongs to a word. -/
theorem isWordChar_of_continuesIdentifier {c : Char} (h : continuesIdentifier c = true) :
  isWordChar c = true
  := by simp [isWordChar, h]

/-- The characters of a word are taken from what follows only if they belong to words. -/
theorem takeWhile_isWordChar {cs rest : List Char}
    (hcs : ∀ d ∈ cs, continuesIdentifier d = true)
    (hrest : ∀ d ∈ rest.head?, isWordChar d = false) :
  (cs ++ rest).takeWhile isWordChar = cs
  := by
  rw [List.takeWhile_append_of_pos fun d hd => isWordChar_of_continuesIdentifier (hcs d hd)]
  cases rest with
  | nil => simp
  | cons d more =>
      rw [List.takeWhile_cons_of_neg (by simp [hrest d rfl]), List.append_nil]

/-- An identifier is read as a word if nothing that belongs to words follows. -/
theorem next_word {c : Char} {cs rest : List Char} (hc : startsIdentifier c = true)
    (hcs : ∀ d ∈ cs, continuesIdentifier d = true)
    (hrest : ∀ d ∈ rest.head?, isWordChar d = false ∧ d ≠ apostrophe) :
  Token.next c (cs ++ rest) = (.word (String.ofList (c :: cs)), cs.length)
  := by
  have hne (d : Char) (hd : startsIdentifier d = false) : c ≠ d := ne_of_kind hc hd
  have hquote : (cs ++ rest).head? ≠ some apostrophe := by
    cases cs with
    | nil =>
        intro hhead
        apply (hrest _ hhead).2 rfl
    | cons d more =>
        intro hhead
        have hd := hcs d (by simp)
        cases hhead
        revert hd
        decide
  have hdigit := isDigit_of_startsIdentifier hc
  have hword := isWordChar_of_continuesIdentifier (continuesIdentifier_of_startsIdentifier hc)
  have hmore := takeWhile_isWordChar hcs fun d hd => (hrest d hd).1
  have hdouble := hne '"' (by decide)
  have hgrave := hne Token.grave (by decide)
  have hsingle := hne apostrophe (by decide)
  have hbracket := hne '[' (by decide)
  have hquestion := hne '?' (by decide)
  have hpoint := hne '.' (by decide)
  have hmarks := not_mem_marks hc (by decide)
  simp only [Token.next, hdouble, hgrave, hsingle, hbracket, hquestion, hpoint, hmarks, hdigit,
    hquote, hword, hmore, or_self, and_false, false_and, if_false, if_true, Bool.false_eq_true]

/-- An identifier is read as a word. -/
theorem tokensOf_word {name : String} (h : isIdentifier name = true) {rest : List Char}
    (hrest : ∀ d ∈ rest.head?, isWordChar d = false ∧ d ≠ apostrophe) :
  tokensOf (name.toList ++ rest) = .word name :: tokensOf rest
  := by
  obtain ⟨c, cs, hname, hc, hcs⟩ := exists_of_isIdentifier h
  have hopens := opens_of_continuesIdentifier (continuesIdentifier_of_startsIdentifier hc) cs
  rw [hname, List.cons_append, hopens.tokensOf_cons, next_word hc hcs hrest, List.drop_left,
    ← hname, String.ofList_toList]

/-- An identifier has characters, all of which may continue one. -/
theorem chars_of_isIdentifier {name : String} (h : isIdentifier name = true) :
  name.toList ≠ [] ∧ ∀ d ∈ name.toList, continuesIdentifier d = true
  := by
  obtain ⟨c, cs, hname, hc, hcs⟩ := exists_of_isIdentifier h
  rw [hname, List.forall_mem_cons]
  use by simp, continuesIdentifier_of_startsIdentifier hc

/-- What ends a text belongs to no word and begins no quotes. -/
theorem Ends.not_word {rest : List Char} (h : Ends rest) :
  ∀ d ∈ rest.head?, isWordChar d = false ∧ d ≠ apostrophe
  := by
  intro d hd
  obtain rfl | rfl | rfl := h d hd <;> decide

/-- An identifier begins a token. -/
theorem opens_of_isIdentifier {name : String} (h : isIdentifier name = true) :
  Opens name.toList
  := by
  obtain ⟨c, cs, hname, hc, -⟩ := exists_of_isIdentifier h
  rw [hname]
  apply opens_of_continuesIdentifier (continuesIdentifier_of_startsIdentifier hc)

/-- An identifier is a word. -/
theorem lexes_word {name : String} (h : isIdentifier name = true) :
  Lexes name [.word name]
  := by
  constructor
  · apply opens_of_isIdentifier h
  · intro rest hrest
    apply tokensOf_word h hrest.not_word

/-- The name of a parameter is read up to what ends the text. -/
theorem nameLength_append {cs rest : List Char} (hcs : ∀ d ∈ cs, continuesIdentifier d = true)
    (hrest : Ends rest) (begun : Bool) :
  Token.nameLength begun (cs ++ rest) = (cs.length, begun || !cs.isEmpty)
  := by
  induction cs generalizing begun with
  | nil =>
      obtain rfl | ⟨c, more, rfl, rfl | rfl | rfl⟩ := hrest.cases <;>
        simp [Token.nameLength, show isWordChar ' ' = false by decide,
          show isWordChar ')' = false by decide, show isWordChar ',' = false by decide]
  | cons c cs ih =>
      have hc := hcs c (by simp)
      have hcolon : c ≠ ':' := by
        rintro rfl
        revert hc
        decide
      have hword := isWordChar_of_continuesIdentifier hc
      rw [List.cons_append, Token.nameLength, if_pos hword,
        ih (fun d hd => hcs d (List.mem_cons_of_mem _ hd))]
      · simp
      · intro rest' hcolon'
        cases hcolon hcolon'

/-- A name behind its mark is a parameter. -/
theorem lexes_parameter {name : String} (hname : name.toList ≠ [])
    (h : ∀ d ∈ name.toList, continuesIdentifier d = true) :
  Lexes ("@" ++ name) [.parameter ("@" ++ name)]
  := by
  have hslot : "@" ++ name = String.ofList ('@' :: name.toList) := by
    apply String.toList_inj.mp
    simp
  rw [hslot]
  apply lexes_of_next
  · apply opens_cons <;> decide
  · intro rest hrest
    show Token.marked '@' (name.toList ++ rest) = _
    simp [Token.marked, nameLength_append h hrest, hname]

/-! ### Numbers -/

/-- A digit may continue an identifier. -/
theorem continuesIdentifier_of_isDigit {c : Char} (h : c.isDigit = true) :
  continuesIdentifier c = true
  := by simp [continuesIdentifier, Char.isAlphanum, h]

/-- An identifier with a number behind it is one. -/
theorem isIdentifier_append_decimalText {name : String} (h : isIdentifier name = true) (n : Nat) :
  isIdentifier (name ++ decimalText n) = true
  := by
  obtain ⟨c, cs, hname, hc, hcs⟩ := exists_of_isIdentifier h
  have hdigits : ∀ d ∈ decimalDigits n, continuesIdentifier d = true := by
    intro d hd
    apply continuesIdentifier_of_isDigit
    apply isDigit_of_mem_decimalDigits hd
  have hchars : (name ++ decimalText n).toList = c :: (cs ++ decimalDigits n) := by
    rw [String.toList_append, hname, toList_decimalText, List.cons_append]
  simp only [isIdentifier, hchars, Bool.and_eq_true, List.all_eq_true, List.mem_append]
  use hc
  rintro d (hd | hd)
  · apply hcs d hd
  · apply hdigits d hd

/-- Digits are read up to what ends the text. -/
theorem digitRun_append {ds rest : List Char} (hds : ∀ d ∈ ds, d.isDigit = true)
    (hrest : Ends rest) :
  Token.digitRun Char.isDigit (ds ++ rest) = ds
  := by
  unfold Token.digitRun
  rw [List.takeWhile_append_of_pos fun d hd => by simp [hds d hd]]
  obtain rfl | ⟨c, more, rfl, rfl | rfl | rfl⟩ := hrest.cases <;> simp

/-- No exponent begins what ends a text. -/
theorem exponentRun_of_ends {rest : List Char} (hrest : Ends rest) :
  Token.exponentRun rest = []
  := by
  obtain rfl | ⟨c, more, rfl, hc⟩ := hrest.cases
  · rfl
  · cases more with
    | nil => rfl
    | cons d more => obtain rfl | rfl | rfl := hc <;> rfl

/-- A number of digits alone ends where the digits do. -/
theorem decimalRun_append {ds rest : List Char} (hds : ∀ d ∈ ds, d.isDigit = true)
    (hrest : Ends rest) :
  Token.decimalRun (ds ++ rest) = ds
  := by
  have hexponent := exponentRun_of_ends hrest
  have hdigits := digitRun_append hds hrest
  unfold Token.decimalRun
  dsimp only
  rw [hdigits, List.drop_left]
  obtain rfl | ⟨c, more, rfl, rfl | rfl | rfl⟩ := hrest.cases <;> simp [hexponent]

/-- A number of digits alone is not hexadecimal. -/
theorem numberRun_append {ds rest : List Char} (hds : ∀ d ∈ ds, d.isDigit = true)
    (hrest : Ends rest) :
  Token.numberRun (ds ++ rest) = ds
  := by
  have hdecimal := decimalRun_append hds hrest
  unfold Token.numberRun
  split
  · rename_i c d more heq
    have hx : ¬ (c = 'x' ∨ c = 'X') := by
      have hmem : c ∈ (ds ++ rest).tail.head? := by simp [heq]
      cases ds with
      | nil =>
          obtain rfl | ⟨b, more', rfl, rfl | rfl | rfl⟩ := hrest.cases <;> cases heq
      | cons b ds =>
          cases ds with
          | nil =>
              have hc := hrest c (by simpa using hmem)
              rintro (rfl | rfl) <;> revert hc <;> decide
          | cons b' ds =>
              obtain rfl : b' = c := by simpa using hmem
              have hc := hds b' (by simp)
              rintro (rfl | rfl) <;> revert hc <;> decide
    rw [if_neg (by simp [hx])]
    apply hdecimal
  · apply hdecimal

/-- Digits are read as a number. -/
theorem lexes_digits (ds : List Char) (hne : ds ≠ []) (h : ∀ d ∈ ds, d.isDigit = true) :
  Lexes (String.ofList ds) [.number (String.ofList ds)]
  := by
  cases ds with
  | nil => cases hne rfl
  | cons c cs =>
      have hc := h c (by simp)
      have hne (d : Char) (hd : d.isDigit = false) : c ≠ d := ne_of_kind hc hd
      apply lexes_of_next
      · apply opens_of_continuesIdentifier (continuesIdentifier_of_isDigit hc)
      · intro rest hrest
        have hdigits := numberRun_append h hrest
        have hmore : rest.takeWhile isWordChar = [] := by
          obtain rfl | ⟨c, more, rfl, rfl | rfl | rfl⟩ := hrest.cases <;> rfl
        have hmarks := not_mem_marks hc (by decide)
        rw [List.cons_append] at hdigits
        have hdouble := hne '"' (by decide)
        have hgrave := hne Token.grave (by decide)
        have hsingle := hne apostrophe (by decide)
        have hbracket := hne '[' (by decide)
        have hquestion := hne '?' (by decide)
        have hnumeral : Token.numeral (c :: (cs ++ rest)) =
            (.number (String.ofList (c :: cs)), (c :: cs).length) := by
          have hdrop : (c :: (cs ++ rest)).drop (c :: cs).length = rest := by
            rw [← List.cons_append, List.drop_left]
          simp only [Token.numeral, hdigits, hdrop, hmore, List.isEmpty_nil, if_true]
        simp [Token.next, hdouble, hgrave, hsingle, hbracket, hquestion, hmarks, hc, hnumeral]

/-- The digits of a number are read as a number. -/
theorem lexes_decimalDigits (n : Nat) :
  Lexes (String.ofList (decimalDigits n)) [.number (String.ofList (decimalDigits n))]
  := by
  apply lexes_digits
  · apply List.ne_nil_of_length_pos Nat.length_toDigits_pos
  · intro d hd
    apply isDigit_of_mem_decimalDigits hd

/-- The number by which a sum is halved. -/
theorem lexes_two :
  Lexes "2.0" [.number "2.0"]
  := by
  apply lexes_of_next
  · apply opens_cons <;> decide
  · intro rest hrest
    obtain rfl | ⟨c, more, rfl, hc⟩ := hrest.cases
    · rfl
    · cases more with
      | nil => obtain rfl | rfl | rfl := hc <;> rfl
      | cons d more => obtain rfl | rfl | rfl := hc <;> rfl

/-! ### Quotes -/

/-- What is enclosed in quotes is read up to the closing one. -/
theorem enclosed_doubled (kind : String → Token) (quote : Char) (s : List Char)
    {rest : List Char} (hrest : rest.head? ≠ some quote) :
  Token.enclosed kind quote (doubled quote s ++ [quote] ++ rest) =
    (kind (String.ofList s), (doubled quote s ++ [quote]).length)
  := by
  have hclosing := closing?_doubled quote s rest hrest
  rw [List.append_assoc, List.singleton_append, Token.enclosed, hclosing]
  simp [halved_doubled]

/-- No quotes end a text. -/
theorem Ends.head?_ne {rest : List Char} (h : Ends rest) (quote : Char) (hspace : quote ≠ ' ')
    (hclosing : quote ≠ ')') (hcomma : quote ≠ ',') :
  rest.head? ≠ some quote
  := by
  intro hhead
  obtain rfl | rfl | rfl := h quote hhead
  · apply hspace rfl
  · apply hclosing rfl
  · apply hcomma rfl

/-- A quoted name is read as what stands between the quotes. -/
theorem lexes_quoteName (name : String) :
  Lexes (quoteName name) [.quotedName name]
  := by
  apply lexes_of_next
  · apply opens_cons <;> decide
  · intro rest hrest
    have hread := enclosed_doubled .quotedName '"' name.toList
      (hrest.head?_ne '"' (by decide) (by decide) (by decide))
    rw [String.ofList_toList] at hread
    apply hread

/-- A text literal is read as what stands between the quotes. -/
theorem lexes_quoteText (text : String) :
  Lexes (quoteText text) [.textLiteral text]
  := by
  apply lexes_of_next
  · apply opens_cons <;> decide
  · intro rest hrest
    have hread := enclosed_doubled .textLiteral apostrophe text.toList
      (hrest.head?_ne apostrophe (by decide) (by decide) (by decide))
    rw [String.ofList_toList] at hread
    apply hread

/-! ### Symbols -/

/-- The symbols that stand between two expressions with blanks around them. -/
def operators : List String :=
  ["=", "!=", "<", "<=", ">", ">=", "||", "+"]

/-- A symbol between two expressions. -/
theorem lexes_operator {s : String} (h : s ∈ operators) :
  Lexes s [.symbol s]
  := by
  simp only [operators, List.mem_cons, List.not_mem_nil, or_false] at h
  obtain rfl | rfl | rfl | rfl | rfl | rfl | rfl | rfl := h
  all_goals
    apply lexes_of_next
    · apply opens_cons <;> decide
    · intro rest hrest
      obtain rfl | ⟨c, more, rfl, rfl | rfl | rfl⟩ := hrest.cases <;> rfl

end EntityStore.Sql
