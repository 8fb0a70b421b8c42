import EntityStore.Proofs.Sql.Composition
import EntityStore.Proofs.Sql.Phrase

/-!
# Texts of terms

A text is a phrase, a term or a comparison if its tokens are.  Terms are put together from
names, literals and calls, and comparisons from terms.  A property that these texts have and
that is kept in these ways holds of all of them.
-/

namespace EntityStore.Sql

open Text

/-- Whether a text is an operand of a comparison. -/
def IsPhrase (s : String) : Prop :=
  ∃ ts, Lexes s ts ∧ Phrase Token.Compares ts

/-- Whether a text is an operand of a comparison that begins with no negation. -/
def IsTerm (s : String) : Prop :=
  ∃ ts, Lexes s ts ∧ Phrase Token.Compares ts ∧ Plain ts

/-- Whether a text is a comparison. -/
def IsComparison (s : String) : Prop :=
  ∃ ts, Lexes s ts ∧ Comparison ts

/-- Whether a text is one token that joins the terms of a comparison. -/
def IsJoint (s : String) : Prop :=
  ∃ t, Lexes s [t] ∧ t.role = .joint ∧ t.Compares

/-- Whether a name is that of a function, which leads its arguments. -/
def IsFunction (name : String) : Prop :=
  isIdentifier name = true ∧ (Token.word name).role = .leading ∧
    (Token.word name).isWord "NOT" = false

instance (name : String) : Decidable (IsFunction name) :=
  inferInstanceAs (Decidable (_ ∧ _ ∧ _))

variable {a b : String}

/-- A term is a phrase. -/
theorem IsTerm.isPhrase (h : IsTerm a) :
  IsPhrase a
  := by
  obtain ⟨ts, hlexes, hphrase, -⟩ := h
  use ts, hlexes

/-- A comparison is a term. -/
theorem IsComparison.isTerm (h : IsComparison a) :
  IsTerm a
  := by
  obtain ⟨ts, hlexes, hcomparison⟩ := h
  use ts, hlexes, hcomparison.phrase, hcomparison.plain

/-- One token begins with no negation of what comes after it. -/
theorem plain_token (t : Token) :
  Plain [t]
  := by
  rintro t' us ⟨⟩ -
  simp [Scan.start, Scan.operand]

/-- What begins with something other than the word begins with no negation. -/
theorem plain_cons {t : Token} (h : t.isWord "NOT" = false) (ts : List Token) :
  Plain (t :: ts)
  := by
  rintro t' us ⟨⟩ hnot
  rw [h] at hnot
  cases hnot

/-- A token that is no symbol is a term. -/
theorem isTerm_of_token {t : Token} (h : Lexes a [t]) (ht : ∀ s, t ≠ .symbol s) :
  IsTerm a
  := by
  use [t], h, .token ht
  apply plain_token

/-- A name is a term. -/
theorem isTerm_word (h : isIdentifier a = true) :
  IsTerm a
  := by
  apply isTerm_of_token (lexes_word h)
  simp

/-- A quoted name is a term. -/
theorem isTerm_quoteName (name : String) :
  IsTerm (quoteName name)
  := by
  apply isTerm_of_token (lexes_quoteName name)
  simp

/-- A text literal is a term. -/
theorem isTerm_quoteText (text : String) :
  IsTerm (quoteText text)
  := by
  apply isTerm_of_token (lexes_quoteText text)
  simp

/-- A parameter is a term. -/
theorem isTerm_parameter (hne : a.toList ≠ [])
    (h : ∀ d ∈ a.toList, continuesIdentifier d = true) :
  IsTerm ("@" ++ a)
  := by
  apply isTerm_of_token (lexes_parameter hne h)
  simp

/-- A column of a table is a term. -/
theorem isTerm_qualified (ha : isIdentifier a = true) (hb : isIdentifier b = true) :
  IsTerm (a ++ ("." ++ b))
  := by
  use [.word a, .symbol ".", .word b], lexes_qualified ha hb
  constructor
  · apply Phrase.join (.token (by simp)) (by decide) (by decide) (.token (by simp))
  · have hcolumn : Phrase Token.Compares [.word b] := .token (by simp)
    apply (plain_token (.word a)).join (by simp) (by decide) hcolumn

/-- The text of an integer is a term. -/
theorem isTerm_decimalText (n : Int) :
  IsTerm (decimalText n)
  := by
  obtain ⟨ds, h | h⟩ := lexes_decimalText n
  · apply isTerm_of_token h
    simp
  · use [.symbol "-", .number ds], h
    constructor
    · apply Phrase.lead (by decide)
      apply Phrase.token (by simp)
    · apply plain_cons rfl

/-! ### Terms put together -/

/-- A symbol between two expressions joins them. -/
theorem isJoint_operator (h : a ∈ operators) :
  IsJoint a
  := by
  have hall : ∀ s ∈ operators, (Token.symbol s).role = .joint ∧ (Token.symbol s).Compares := by
    decide
  use .symbol a, lexes_operator h
  apply hall a h

/-- A keyword between two expressions joins them. -/
theorem isJoint_word (h : isIdentifier a = true) (hrole : (Token.word a).role = .joint)
    (hcompares : (Token.word a).Compares) :
  IsJoint a
  := by
  use .word a, lexes_word h, hrole

variable {joint : String}

/-- Two terms that are joined are a comparison. -/
theorem IsTerm.compare (ha : IsTerm a) (hjoint : IsJoint joint) (hb : IsPhrase b) :
  IsComparison (a ++ " " ++ joint ++ " " ++ b)
  := by
  obtain ⟨ts, hts, hphrase, hplain⟩ := ha
  obtain ⟨t, ht, hrole, hcompares⟩ := hjoint
  obtain ⟨us, hus, hphrase'⟩ := hb
  use ts ++ t :: us
  constructor
  · have hlexes := (hts.blank ht).blank hus
    rw [List.append_assoc] at hlexes
    apply hlexes
  · apply Comparison.intro hphrase hplain hrole hcompares hphrase'

/-- Two terms with a comma between them. -/
theorem IsTerm.comma (ha : IsTerm a) (hb : IsTerm b) :
  IsTerm (a ++ ", " ++ b)
  := by
  obtain ⟨ts, hts, hphrase, hplain⟩ := ha
  obtain ⟨us, hus, hphrase', -⟩ := hb
  use ts ++ .symbol "," :: us, hts.comma hus, .join hphrase (by decide) (by decide) hphrase'
  apply hplain.join hphrase.ne_nil (by decide) hphrase'

/-- The quotient of two terms. -/
theorem IsTerm.quotient (ha : IsTerm a) (hb : IsTerm b) :
  IsTerm (a ++ " / " ++ b)
  := by
  obtain ⟨ts, hts, hphrase, hplain⟩ := ha
  obtain ⟨us, hus, hphrase', -⟩ := hb
  use ts ++ .symbol "/" :: us, hts.quotient hus, .join hphrase (by decide) (by decide) hphrase'
  apply hplain.join hphrase.ne_nil (by decide) hphrase'

/-- A phrase in parentheses is a term. -/
theorem IsPhrase.group (ha : IsPhrase a) :
  IsTerm ("(" ++ a ++ ")")
  := by
  obtain ⟨ts, hts, hphrase⟩ := ha
  use .symbol "(" :: (ts ++ [.symbol ")"]), hts.group, hphrase.group
  apply plain_cons rfl

/-- A phrase behind a keyword. -/
theorem IsPhrase.lead (keyword : String) (hkeyword : isIdentifier keyword = true)
    (hrole : (Token.word keyword).role = .leading) (ha : IsPhrase a) :
  IsPhrase (keyword ++ " " ++ a)
  := by
  obtain ⟨ts, hts, hphrase⟩ := ha
  use .word keyword :: ts, (lexes_word hkeyword).blank hts, .lead hrole hphrase

/-- A call of a function is a term. -/
theorem IsTerm.call {function : String} (hfunction : IsFunction function) (ha : IsTerm a) :
  IsTerm (function ++ ("(" ++ a ++ ")"))
  := by
  obtain ⟨hidentifier, hrole, hnot⟩ := hfunction
  obtain ⟨ts, hts, hphrase, -⟩ := ha
  use .word function :: .symbol "(" :: (ts ++ [.symbol ")"]), hts.call hidentifier,
    .lead hrole hphrase.group
  apply plain_cons hnot

/-! ### Properties of texts -/

/-- The words that join two terms. -/
def joiningWords : List String :=
  ["IS", "LIKE", "ESCAPE", "IN", "FROM"]

/-- The symbols and words that join two terms. -/
def joints : List String :=
  operators ++ joiningWords

/-- What joins two terms is one token that does. -/
theorem isJoint_of_mem_joints {joint : String} (h : joint ∈ joints) :
  IsJoint joint
  := by
  obtain h | h := List.mem_append.mp h
  · apply isJoint_operator h
  · have hall : ∀ a ∈ joiningWords, isIdentifier a = true ∧ (Token.word a).role = .joint ∧
        (Token.word a).Compares := by decide
    obtain ⟨hname, hrole, hcompares⟩ := hall joint h
    apply isJoint_word hname hrole hcompares

/-- A property of operands and one of comparisons, each with the parameters that a text
mentions, that are kept when texts are put together. -/
structure Grammar where
  Term : String → List String → Prop
  Comparison : String → List String → Prop
  term {a : String} {xs : List String} (h : Comparison a xs) : Term a xs
  word {a : String} (h : isIdentifier a = true) : Term a []
  qualified {a b : String} (ha : isIdentifier a = true) (hb : isIdentifier b = true) :
    Term (a ++ ("." ++ b)) []
  quotedName (name : String) : Term (quoteName name) []
  quotedText (text : String) : Term (quoteText text) []
  integer (n : Int) : Term (decimalText n) []
  two : Term "2.0" []
  parameter {a : String} (hne : a.toList ≠ [])
    (h : ∀ d ∈ a.toList, continuesIdentifier d = true) : Term ("@" ++ a) ["@" ++ a]
  comma {a b : String} {xs ys : List String} (ha : Term a xs) (hb : Term b ys) :
    Term (a ++ ", " ++ b) (xs ++ ys)
  quotient {a b : String} {xs ys : List String} (ha : Term a xs) (hb : Term b ys) :
    Term (a ++ " / " ++ b) (xs ++ ys)
  group {a : String} {xs : List String} (h : Term a xs) : Term ("(" ++ a ++ ")") xs
  selection {a : String} {xs : List String} (h : Term a xs) :
    Term ("(" ++ ("SELECT" ++ " " ++ a) ++ ")") xs
  call {function a : String} {xs : List String} (hfunction : IsFunction function)
    (h : Term a xs) : Term (function ++ ("(" ++ a ++ ")")) xs
  compare {a joint b : String} {xs ys : List String} (ha : Term a xs) (hjoint : joint ∈ joints)
    (hb : Term b ys) : Comparison (a ++ " " ++ joint ++ " " ++ b) (xs ++ ys)
  compareNot {a joint b : String} {xs ys : List String} (ha : Term a xs) (hjoint : joint ∈ joints)
    (hb : Term b ys) : Comparison (a ++ " " ++ joint ++ " " ++ ("NOT" ++ " " ++ b)) (xs ++ ys)

/-- Texts of terms and of comparisons. -/
def Grammar.reading : Grammar where
  Term a _ := IsTerm a
  Comparison a _ := IsComparison a
  term h := h.isTerm
  word h := isTerm_word h
  qualified ha hb := isTerm_qualified ha hb
  quotedName := isTerm_quoteName
  quotedText := isTerm_quoteText
  integer := isTerm_decimalText
  two := isTerm_of_token lexes_two (by simp)
  parameter hne h := isTerm_parameter hne h
  comma ha hb := ha.comma hb
  quotient ha hb := ha.quotient hb
  group h := h.isPhrase.group
  selection h := (h.isPhrase.lead "SELECT" (by decide) (by decide)).group
  call hfunction h := h.call hfunction
  compare ha hjoint hb := ha.compare (isJoint_of_mem_joints hjoint) hb.isPhrase
  compareNot ha hjoint hb :=
    ha.compare (isJoint_of_mem_joints hjoint) (hb.isPhrase.lead "NOT" (by decide) (by decide))

end EntityStore.Sql
