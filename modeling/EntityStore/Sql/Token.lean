import EntityStore.Sql.Name

/-!
# Tokens of SQL

A statement is read as words, numbers, quoted names, literals, parameters and symbols, with
blanks and comments between them.  Each token keeps how it is written, which shows in the
names of columns and in what is said about a statement that cannot be read.
-/

namespace EntityStore.Sql

open Text

/-- A token. -/
inductive Token where
  /-- A keyword or a name. -/
  | word (s : String)
  | number (digits : String)
  | quotedName (s : String)
  | textLiteral (s : String)
  | bytesLiteral (bytes : List UInt8)
  /-- A name of a value, with the mark it begins with. -/
  | parameter (slot : String)
  | symbol (s : String)
  /-- Characters that stand for nothing. -/
  | illegal
  deriving DecidableEq, Repr

/-- A token as it is written. -/
structure Lexeme where
  token : Token
  text : String
  /-- The blanks and comments after it. -/
  gap : String
  deriving DecidableEq, Repr

/-- The number of characters up to the closing quote and with it, if there is one.  A quote
written twice closes nothing. -/
def closing? (quote : Char) : List Char → Option Nat
  | [] => none
  | [c] => if c = quote then some 1 else none
  | c :: d :: rest =>
    if c ≠ quote then (closing? quote (d :: rest)).map (· + 1)
    else if d = quote then (closing? quote rest).map (· + 2)
    else some 1

/-- The characters with every quote that is written twice written once. -/
def halved (quote : Char) : List Char → List Char
  | [] => []
  | [c] => [c]
  | c :: d :: rest =>
    if c = quote ∧ d = quote then quote :: halved quote rest else c :: halved quote (d :: rest)

/-- A text that was enclosed in quotes ends at the quote after it, whatever comes then,
unless that begins with one more quote. -/
theorem closing?_doubled (quote : Char) (s rest : List Char) (h : rest.head? ≠ some quote) :
  closing? quote (doubled quote s ++ quote :: rest) = some ((doubled quote s).length + 1)
  := by
  induction s with
  | nil =>
    cases rest with
    | nil => simp [doubled, closing?]
    | cons d rest =>
      have : d ≠ quote := by simpa using h
      simp [doubled, closing?, this]
  | cons c s ih =>
    by_cases hc : c = quote
    · simp [doubled, closing?, hc, ih]
    · cases hs : doubled quote s ++ quote :: rest with
      | nil => simp at hs
      | cons d tail =>
        rw [hs] at ih
        simp [doubled, hc, hs, closing?, ih]

/-- Writing quotes twice is undone. -/
theorem halved_doubled (quote : Char) (s : List Char) :
  halved quote (doubled quote s) = s
  := by
  induction s with
  | nil => rfl
  | cons c s ih =>
    by_cases hc : c = quote
    · simp [doubled, halved, hc, ih]
    · cases hs : doubled quote s with
      | nil => simp_all [doubled, halved]
      | cons d tail =>
        rw [hs] at ih
        simp [doubled, hc, hs, halved, ih]

/-- Whether a character is blank. -/
def isSpace (c : Char) : Bool :=
  c = ' ' || c = '\t' || c = '\n' || c = '\x0b' || c = '\x0c' || c = '\r'

/-- Whether a character belongs to a word: those of identifiers, the dollar sign and all
characters outside ASCII. -/
def isWordChar (c : Char) : Bool :=
  continuesIdentifier c || c = '$' || 128 ≤ c.toNat

/-- What may stand between two tokens. -/
inductive Gap where
  | nothing
  /-- A run of blanks. -/
  | blanks
  /-- A comment to the end of the line. -/
  | line
  /-- A comment that is closed, or reaches to the end of the text. -/
  | block
  deriving DecidableEq, Repr

/-- The character that marks the order of bytes. -/
def byteOrderMark : Char := '\ufeff'

/-- The number of characters up to the next token.  The vertical tab does not begin a run of
blanks, and a mark of the order of bytes is a blank of its own. -/
def Gap.length : Gap → List Char → Nat
  | _, [] => 0
  | line, c :: rest => length (if c = '\n' then blanks else line) rest + 1
  | block, '*' :: '/' :: rest => length nothing rest + 2
  | block, _ :: rest => length block rest + 1
  | _, '-' :: '-' :: rest => length line rest + 2
  | _, '/' :: '*' :: c :: rest => length block (c :: rest) + 2
  | gap, c :: rest =>
    if isSpace c ∧ (gap = blanks ∨ c ≠ '\x0b') then length blanks rest + 1
    else if c = byteOrderMark then length nothing rest + 1
    else 0

namespace Token

/-- The token between quotes, after the opening one, with the number of its characters. -/
def enclosed (kind : String → Token) (quote : Char) (rest : List Char) : Token × Nat :=
  match closing? quote rest with
  | some n => (kind (String.ofList (halved quote (rest.take (n - 1)))), n)
  | none => (illegal, rest.length)

/-- The name between brackets, after the opening one, with the number of its characters. -/
def bracketed (rest : List Char) : Token × Nat :=
  let name := rest.takeWhile (· ≠ ']')
  if name.length < rest.length then (quotedName (String.ofList name), name.length + 1)
  else (illegal, rest.length)

/-- Digits at the beginning of a text, kept apart by underscores or not. -/
def digitRun (isDigit : Char → Bool) (s : List Char) : List Char :=
  s.takeWhile fun c => isDigit c || c = '_'

/-- Whether a character is a hexadecimal digit. -/
def isHexDigit (c : Char) : Bool :=
  (hexDigit? c).isSome

/-- The exponent at the beginning of a text. -/
def exponentRun : List Char → List Char
  | c :: d :: rest =>
    if c ≠ 'e' ∧ c ≠ 'E' then []
    else if d.isDigit ∨ (d = '+' ∨ d = '-') ∧ rest.head?.any Char.isDigit then
      c :: d :: digitRun Char.isDigit rest
    else []
  | _ => []

/-- Digits with an optional point and exponent at the beginning of a text. -/
def decimalRun (s : List Char) : List Char :=
  let whole := digitRun Char.isDigit s
  let fraction := match s.drop whole.length with
    | '.' :: rest => '.' :: digitRun Char.isDigit rest
    | _ => []
  let digits := whole ++ fraction
  digits ++ exponentRun (s.drop digits.length)

/-- What belongs to the number at the beginning of a text, which may be hexadecimal. -/
def numberRun (s : List Char) : List Char :=
  match s with
  | '0' :: c :: d :: rest =>
    if (c = 'x' ∨ c = 'X') ∧ isHexDigit d then '0' :: c :: d :: digitRun isHexDigit rest
    else decimalRun s
  | _ => decimalRun s

/-- The number at the beginning of a text, with the number of its characters.  Nothing else
that belongs to words may follow. -/
def numeral (s : List Char) : Token × Nat :=
  let digits := numberRun s
  let more := (s.drop digits.length).takeWhile isWordChar
  if more.isEmpty then (number (String.ofList digits), digits.length)
  else (illegal, digits.length + more.length)

/-- The bytes that pairs of hexadecimal digits stand for. -/
def hexBytes : List Char → List UInt8
  | c :: d :: rest =>
    UInt8.ofNat (16 * (hexDigit? c).getD 0 + (hexDigit? d).getD 0) :: hexBytes rest
  | _ => []

/-- The bytes between quotes, after the opening one, with the number of the characters. -/
def bytesBetween (rest : List Char) : Token × Nat :=
  let digits := rest.takeWhile isHexDigit
  if digits.length % 2 = 0 ∧ (rest.drop digits.length).head? = some apostrophe then
    (bytesLiteral (hexBytes digits), digits.length + 1)
  else (illegal, min ((rest.takeWhile (· ≠ apostrophe)).length + 1) rest.length)

/-- The number of characters in the name of a parameter, and whether it is one.  Two colons
may stand in it, and parentheses around a text without blanks may end it. -/
def nameLength (begun : Bool) : List Char → Nat × Bool
  | ':' :: ':' :: rest =>
    let (n, complete) := nameLength begun rest
    (n + 2, complete)
  | c :: rest =>
    if isWordChar c then
      let (n, complete) := nameLength true rest
      (n + 1, complete)
    else if begun && c = '(' then
      let inside := rest.takeWhile fun d => !isSpace d && d ≠ ')'
      if (rest.drop inside.length).head? = some ')' then (inside.length + 2, true)
      else (inside.length + 1, false)
    else (0, begun)
  | [] => (0, begun)

/-- The parameter that begins with a mark, with the number of its characters after the
mark.  Registers, which are numbered after a number sign, are only symbols. -/
def marked (mark : Char) (rest : List Char) : Token × Nat :=
  let (n, complete) := nameLength false rest
  let slot := String.ofList (mark :: rest.take n)
  if ¬ complete then (illegal, n)
  else if mark = '#' ∧ rest.head?.any Char.isDigit then (symbol slot, n)
  else (parameter slot, n)

/-- The parameter that a question mark and digits stand for. -/
def numbered (rest : List Char) : Token × Nat :=
  let digits := rest.takeWhile Char.isDigit
  (parameter (String.ofList ('?' :: digits)), digits.length)

/-- The symbols, each before those it begins with. -/
def symbols : List String :=
  ["->>", "->", "||", "<=", "<>", "<<", ">=", ">>", "==", "!=", "(", ")", ";", ",", ".", "*",
    "+", "-", "/", "%", "&", "|", "~", "<", ">", "="]

/-- The symbol at the beginning of a text, with the number of its characters. -/
def sign (s : List Char) : Token × Nat :=
  match symbols.find? (·.toList.isPrefixOf s) with
  | some text => (symbol text, text.length)
  | none => (illegal, 1)

/-- The character that also encloses names. -/
def grave : Char := Char.ofNat 96

/-- The marks that parameters with names begin with. -/
def marks : List Char := ['@', '#', ':', '$']

/-- The token that begins with a character, and the number of characters of it that
follow. -/
def next (c : Char) (rest : List Char) : Token × Nat :=
  let whole (t : Token × Nat) := (t.1, t.2 - 1)
  if c = '"' ∨ c = grave then enclosed quotedName c rest
  else if c = apostrophe then enclosed textLiteral c rest
  else if c = '[' then bracketed rest
  else if c ∈ marks then marked c rest
  else if c = '?' then numbered rest
  else if c.isDigit ∨ c = '.' ∧ rest.head?.any Char.isDigit then whole (numeral (c :: rest))
  else if (c = 'x' ∨ c = 'X') ∧ rest.head? = some apostrophe then
    let (token, n) := bytesBetween rest.tail
    (token, n + 1)
  else if isWordChar c then
    let more := rest.takeWhile isWordChar
    (word (String.ofList (c :: more)), more.length)
  else whole (sign (c :: rest))

/-- Whether a token is a keyword, in either case of its letters. -/
def isWord (keyword : String) : Token → Bool
  | word s => sameName s keyword
  | _ => false

end Token

/-- The tokens of a statement that does not begin with a blank. -/
def lexemesFrom : List Char → List Lexeme
  | [] => []
  | c :: rest =>
    let t := Token.next c rest
    let after := rest.drop t.2
    let n := Gap.nothing.length after
    ⟨t.1, String.ofList (c :: rest.take t.2), String.ofList (after.take n)⟩ ::
      lexemesFrom (after.drop n)
termination_by s => s.length
decreasing_by
  simp only [List.length_drop, List.length_cons]
  omega

/-- The tokens of a statement. -/
def lexemes (s : List Char) : List Lexeme :=
  lexemesFrom (s.drop (Gap.nothing.length s))

namespace Lexeme

/-- What is said about a token that cannot stand where it does. -/
def unexpected (l : Lexeme) : String :=
  if l.token = .illegal then s!"unrecognized token: \"{l.text}\""
  else s!"near \"{l.text}\": syntax error"

/-- The text of neighbouring tokens without the blanks at its end. -/
def span (ls : List Lexeme) : String :=
  let text := (String.join (ls.map fun l => l.text ++ l.gap)).toList
  String.ofList (text.reverse.dropWhile isSpace).reverse

end Lexeme

end EntityStore.Sql
