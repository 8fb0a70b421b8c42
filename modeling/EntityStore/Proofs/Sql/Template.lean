import EntityStore.Proofs.Sql.Call
import EntityStore.Proofs.Sql.Form

/-!
# Forms of calls

What a call of a helper means, as a form over those of its arguments: its operators and
functions are applied to the arguments, whatever these are.  The text of the call is read as
the tokens of that form.
-/

namespace EntityStore

open Text Sql

namespace Sql

/-! ### Texts of forms -/

/-- Whether a text is read as the tokens of a form. -/
def Writes (s : String) (x : Form) : Prop :=
  Lexes s x.tokens

variable {a b : String} {x y : Form}

/-- The leaf of a column behind the alias of its table. -/
def Leaf.ofColumn : Option String → String → Leaf
  | some tableAlias, column => .qualified tableAlias column
  | none, column => .word column

/-- The leaf of an integer. -/
def Leaf.ofInt (n : Int) : Leaf :=
  let digits := String.ofList (decimalDigits n.natAbs)
  if n < 0 then .negative digits else .number digits

/-- A text literal, between its apostrophes. -/
theorem writes_quoteText (text : String) (h : quoteText text = a) :
  Writes a (.leaf (.textLiteral text))
  := by
  rw [← h]
  apply lexes_quoteText

/-- The text of an integer. -/
theorem writes_decimalText (n : Int) :
  Writes (decimalText n) (.leaf (.ofInt n))
  := by
  unfold decimalText Leaf.ofInt
  dsimp only
  split
  · apply lexes_negative
  · apply lexes_decimalDigits

/-- Two texts with one and blanks between them. -/
theorem Lexes.joined {operator between : String} {ts us vs : List Token}
    (hoperator : Lexes operator us) (hbetween : between = " " ++ operator ++ " ")
    (ha : Lexes a ts) (hb : Lexes b vs) :
  Lexes (a ++ between ++ b) (ts ++ (us ++ vs))
  := by
  have h := (ha.blank hoperator).blank hb
  rw [List.append_assoc] at h
  rw [hbetween]
  simp only [String.append_assoc] at h ⊢
  apply h

namespace Writes

/-- A call of a function. -/
theorem call {opening : String} (f : Function) (hopening : opening = f.name ++ "(")
    (hx : Writes a x) :
  Writes (opening ++ a ++ ")") (.call f x)
  := by
  have h := Lexes.call f.isFunction_name.1 hx
  rw [hopening]
  simp only [String.append_assoc] at h ⊢
  apply h

/-- Two forms with a comma between them. -/
theorem comma (hx : Writes a x) (hy : Writes b y) :
  Writes (a ++ ", " ++ b) (.binary .comma x y)
  := Lexes.comma hx hy

/-- A call of a function with two arguments. -/
theorem callOfTwo {opening : String} (f : Function) (hopening : opening = f.name ++ "(")
    (hx : Writes a x) (hy : Writes b y) :
  Writes (opening ++ a ++ ", " ++ b ++ ")") (.call f (.binary .comma x y))
  := by
  rw [arguments_eq]
  apply (hx.comma hy).call f hopening

/-- Two forms with an operator and blanks between them. -/
theorem binary {op : Operator} {operator between : String}
    (hop : Lexes operator (op.head :: op.tail)) (hbetween : between = " " ++ operator ++ " ")
    (hx : Writes a x) (hy : Writes b y) :
  Writes (a ++ between ++ b) (.binary op x y)
  := Lexes.joined hop hbetween hx hy

/-- Two forms with a symbol and blanks between them. -/
theorem symbol {op : Operator} {operator between : String} (hoperator : operator ∈ operators)
    (hop : [.symbol operator] = op.head :: op.tail) (hbetween : between = " " ++ operator ++ " ")
    (hx : Writes a x) (hy : Writes b y) :
  Writes (a ++ between ++ b) (.binary op x y)
  := by
  have h := lexes_operator hoperator
  rw [hop] at h
  apply Writes.binary h hbetween hx hy

/-- Two forms with a word and blanks between them. -/
theorem word {op : Operator} {operator between : String} (hoperator : isIdentifier operator = true)
    (hop : [.word operator] = op.head :: op.tail) (hbetween : between = " " ++ operator ++ " ")
    (hx : Writes a x) (hy : Writes b y) :
  Writes (a ++ between ++ b) (.binary op x y)
  := by
  have h := lexes_word hoperator
  rw [hop] at h
  apply Writes.binary h hbetween hx hy

/-- Two calls of one function with a symbol between them. -/
theorem calls {op : Operator} {opening middle between operator : String} (f : Function)
    (hoperator : operator ∈ operators) (hop : [.symbol operator] = op.head :: op.tail)
    (hopening : opening = f.name ++ "(") (hbetween : between = " " ++ operator ++ " ")
    (hmiddle : middle = ")" ++ between ++ opening) (hx : Writes a x) (hy : Writes b y) :
  Writes (opening ++ a ++ middle ++ b ++ ")") (.binary op (.call f x) (.call f y))
  := by
  rw [calls_eq hmiddle]
  apply Writes.symbol hoperator hop hbetween (hx.call f hopening) (hy.call f hopening)

end Writes

/-! ### Patterns and means -/

namespace Form

/-- A text in which a sign is escaped. -/
def replaced (x : Form) (sign escaped : String) : Form :=
  .call .replace
    (.binary .comma (.binary .comma x (.leaf (.textLiteral sign))) (.leaf (.textLiteral escaped)))

/-- A text in which the signs of patterns and the escape sign are escaped. -/
def literalPattern (x : Form) : Form :=
  ((x.replaced "\\" "\\\\").replaced "%" "\\%").replaced "_" "\\_"

/-- The sign of a pattern that stands for any text. -/
def anything : Form :=
  .leaf (.textLiteral "%")

/-- A text compared with a pattern that has an escape sign. -/
def matching (x pattern : Form) : Form :=
  .binary .like x (.binary .escape pattern (.leaf (.textLiteral "\\")))

/-- The mean of two numbers, whose sum is halved. -/
def mean (x y : Form) : Form :=
  .group (.binary .divide (.group (.binary .add x y)) (.leaf (.number "2.0")))

end Form

namespace Writes

/-- Two texts written one after the other. -/
theorem join (hx : Writes a x) (hy : Writes b y) :
  Writes (a ++ " || " ++ b) (.binary .join x y)
  := Writes.symbol (by decide) rfl (by decide) hx hy

/-- A text compared with a pattern. -/
theorem like (hx : Writes a x) (hy : Writes b y) :
  Writes (a ++ " LIKE " ++ b) (.binary .like x y)
  := Writes.word (by decide) rfl (by decide) hx hy

/-- A text compared with a pattern that has an escape sign. -/
theorem matching (hx : Writes a x) (hy : Writes b y) :
  Writes (a ++ " LIKE " ++ escapeText b) (x.matching y)
  := by
  have hsign : Writes "'\\'" (.leaf (.textLiteral "\\")) := writes_quoteText "\\" (by decide)
  have hpattern : Writes (escapeText b) (.binary .escape y (.leaf (.textLiteral "\\"))) :=
    Writes.word (by decide) rfl (by decide) hy hsign
  apply hx.like hpattern

/-- A text in which a sign is escaped. -/
theorem replaced {sign escaped quoted quotedEscaped : String} (hx : Writes a x)
    (hsign : quoteText sign = quoted) (hescaped : quoteText escaped = quotedEscaped) :
  Writes (replaceText a quoted quotedEscaped) (x.replaced sign escaped)
  := by
  have harguments := (hx.comma (writes_quoteText sign hsign)).comma
    (writes_quoteText escaped hescaped)
  apply harguments.call .replace (by decide)

/-- The pattern that stands for a text. -/
theorem literalPattern (hx : Writes a x) :
  Writes (Helper.literalPattern a) x.literalPattern
  := by
  have hescape : Writes (replaceText a "'\\'" "'\\\\'") (x.replaced "\\" "\\\\") :=
    hx.replaced (by decide) (by decide)
  have hany : Writes (replaceText (replaceText a "'\\'" "'\\\\'") "'%'" "'\\%'")
      ((x.replaced "\\" "\\\\").replaced "%" "\\%") := hescape.replaced (by decide) (by decide)
  rw [literalPattern_eq]
  apply hany.replaced (by decide) (by decide)

/-- The percent sign of a pattern. -/
theorem anything :
  Writes "'%'" .anything
  := writes_quoteText "%" (by decide)

/-- The mean of two numbers. -/
theorem mean (hx : Writes a x) (hy : Writes b y) :
  Writes (Helper.avg.render [a, b]) (x.mean y)
  := by
  have hsum : Writes (a ++ " + " ++ b) (.binary .add x y) :=
    Writes.symbol (by decide) rfl (by decide) hx hy
  have hhalf : Writes ("(" ++ (a ++ " + " ++ b) ++ ")" ++ " / " ++ "2.0")
      (.binary .divide (.group (.binary .add x y)) (.leaf (.number "2.0"))) :=
    Lexes.quotient (Lexes.group hsum) lexes_two
  rw [render_avg]
  apply Lexes.group hhalf

/-- A membership in a column of a table. -/
theorem within (hx : Writes a x) (table column : String) :
  Writes (Helper.equalsIn.render [a, quoteName table, quoteName column])
    (.binary .within x (.leaf (.selection column table)))
  := by
  have hword {word : String} (h : isIdentifier word = true) : Lexes word [.word word] :=
    lexes_word h
  have hfrom : Lexes (quoteName column ++ " FROM " ++ quoteName table)
      [.quotedName column, .word "FROM", .quotedName table] :=
    (hword (by decide)).joined (by decide) (lexes_quoteName column) (lexes_quoteName table)
  have hselection : Writes
      ("(" ++ ("SELECT" ++ " " ++ (quoteName column ++ " FROM " ++ quoteName table)) ++ ")")
      (.leaf (.selection column table)) := ((hword (by decide)).blank hfrom).group
  rw [render_equalsIn]
  apply Writes.word (by decide) rfl (by decide) hx hselection

end Writes

end Sql

namespace Helper

/-! ### Calls -/

/-- What a call means, for what its arguments mean. -/
def form (h : Helper) (args : List Form) : Form :=
  let nothing : Form := .leaf (.word "")
  let a := args.getD 0 nothing
  let b := args.getD 1 nothing
  match h with
  | like => .binary .like a b
  | startsWith => a.matching (.binary .join b.literalPattern .anything)
  | endsWith => a.matching (.binary .join .anything b.literalPattern)
  | contains => a.matching (.binary .join (.binary .join .anything b.literalPattern) .anything)
  | round => .call .round (.binary .comma a b)
  | abs => .call .abs a
  | min => .call .min (.binary .comma a b)
  | max => .call .max (.binary .comma a b)
  | avg => a.mean b
  | sameDay => .binary .equal (.call .date a) (.call .date b)
  | dateBefore => .binary .less (.call .julianday a) (.call .julianday b)
  | dateAfter => .binary .greater (.call .julianday a) (.call .julianday b)
  | equalsIn =>
    match args with
    | [a, .leaf (.quotedName table), .leaf (.quotedName column)] =>
      .binary .within a (.leaf (.selection column table))
    | _ => nothing

/-- Texts of arguments, each of its kind, with their forms. -/
inductive ArgumentsWrite : List ArgumentKind → List String → List Form → Prop
  | nil : ArgumentsWrite [] [] []
  | expr {kinds : List ArgumentKind} {a : String} {texts : List String} {x : Form}
      {xs : List Form} (h : Writes a x) (rest : ArgumentsWrite kinds texts xs) :
      ArgumentsWrite (.expr :: kinds) (a :: texts) (x :: xs)
  | int {kinds : List ArgumentKind} {texts : List String} {xs : List Form} (n : Int64)
      (rest : ArgumentsWrite kinds texts xs) :
      ArgumentsWrite (.int :: kinds) (decimalText n.toInt :: texts) (.leaf (.ofInt n.toInt) :: xs)
  | ident {kinds : List ArgumentKind} {texts : List String} {xs : List Form} (name : String)
      (rest : ArgumentsWrite kinds texts xs) :
      ArgumentsWrite (.ident :: kinds) (quoteName name :: texts) (.leaf (.quotedName name) :: xs)

variable {texts : List String} {xs : List Form}

/-- Two arguments that are expressions. -/
theorem ArgumentsWrite.exists_two (h : ArgumentsWrite [.expr, .expr] texts xs) :
  ∃ a b x y, texts = [a, b] ∧ xs = [x, y] ∧ Writes a x ∧ Writes b y
  := by
  cases h with
  | expr hx rest =>
      cases rest with
      | expr hy rest =>
          cases rest
          exact ⟨_, _, _, _, rfl, rfl, hx, hy⟩

/-- The text of a call is that of its form. -/
theorem writes_render {h : Helper} (hargs : ArgumentsWrite h.args texts xs) :
  Writes (h.render texts) (h.form xs)
  := by
  cases h with
  | like =>
      obtain ⟨a, b, x, y, rfl, rfl, hx, hy⟩ := hargs.exists_two
      apply hx.like hy
  | startsWith =>
      obtain ⟨a, b, x, y, rfl, rfl, hx, hy⟩ := hargs.exists_two
      rw [render_startsWith]
      apply hx.matching (hy.literalPattern.join .anything)
  | endsWith =>
      obtain ⟨a, b, x, y, rfl, rfl, hx, hy⟩ := hargs.exists_two
      rw [render_endsWith]
      apply hx.matching (Writes.anything.join hy.literalPattern)
  | contains =>
      obtain ⟨a, b, x, y, rfl, rfl, hx, hy⟩ := hargs.exists_two
      rw [render_contains]
      apply hx.matching ((Writes.anything.join hy.literalPattern).join .anything)
  | round =>
      cases hargs with
      | expr hx rest =>
          cases rest with
          | int n rest =>
              cases rest
              apply hx.callOfTwo .round (by decide) (writes_decimalText n.toInt)
  | abs =>
      cases hargs with
      | expr hx rest =>
          cases rest
          apply hx.call .abs (by decide)
  | min =>
      obtain ⟨a, b, x, y, rfl, rfl, hx, hy⟩ := hargs.exists_two
      apply hx.callOfTwo .min (by decide) hy
  | max =>
      obtain ⟨a, b, x, y, rfl, rfl, hx, hy⟩ := hargs.exists_two
      apply hx.callOfTwo .max (by decide) hy
  | avg =>
      obtain ⟨a, b, x, y, rfl, rfl, hx, hy⟩ := hargs.exists_two
      apply hx.mean hy
  | sameDay =>
      obtain ⟨a, b, x, y, rfl, rfl, hx, hy⟩ := hargs.exists_two
      have hoperator : "=" ∈ operators := by decide
      apply hx.calls .date hoperator rfl (by decide) rfl (by decide) hy
  | dateBefore =>
      obtain ⟨a, b, x, y, rfl, rfl, hx, hy⟩ := hargs.exists_two
      have hoperator : "<" ∈ operators := by decide
      apply hx.calls .julianday hoperator rfl (by decide) rfl (by decide) hy
  | dateAfter =>
      obtain ⟨a, b, x, y, rfl, rfl, hx, hy⟩ := hargs.exists_two
      have hoperator : ">" ∈ operators := by decide
      apply hx.calls .julianday hoperator rfl (by decide) rfl (by decide) hy
  | equalsIn =>
      cases hargs with
      | expr hx rest =>
          cases rest with
          | ident table rest =>
              cases rest with
              | ident column rest =>
                  cases rest
                  apply hx.within table column

/-- A call is no parameter. -/
theorem form_ne_parameter (h : Helper) (args : List Form) (slot : String) :
  h.form args ≠ .leaf (.parameter slot)
  := by
  cases h with
  | equalsIn =>
      simp only [form]
      split <;> simp
  | _ => simp [form, Form.matching, Form.mean]

/-- A call is no list of arguments. -/
theorem one_le_strength_form (h : Helper) (args : List Form) :
  1 ≤ (h.form args).strength
  := by
  cases h with
  | equalsIn =>
      simp only [form]
      split <;> simp [Form.strength, Operator.level, Operator.tightest]
  | _ => simp [form, Form.matching, Form.mean, Form.strength, Operator.level, Operator.tightest]

/-! ### Calls of firm arguments -/

/-- Every argument is firm if all of them are. -/
theorem firm_getD (hxs : ∀ x ∈ xs, x.Firm) (n : Nat) :
  (xs.getD n (.leaf (.word ""))).Firm
  := by
  rw [List.getD_eq_getElem?_getD]
  cases hget : xs[n]? with
  | none => apply Form.firm_leaf
  | some x => apply hxs x (List.mem_of_getElem? hget)

/-- A call of a helper that is no condition is firm if its arguments are. -/
theorem firm_form {h : Helper} (hvalue : h.isCondition = false) (hxs : ∀ x ∈ xs, x.Firm) :
  (h.form xs).Firm
  := by
  have ha := firm_getD hxs 0
  have hb := firm_getD hxs 1
  cases h with
  | round => apply (ha.binary .comma hb).call .round
  | abs => apply ha.1.call .abs
  | min => apply (ha.binary .comma hb).call .min
  | max => apply (ha.binary .comma hb).call .max
  | avg => apply (ha.group (by decide) hb).group (by decide) (Form.firm_leaf _)
  | _ => cases hvalue

/-- A pattern that stands for a firm form is firm. -/
theorem firm_literalPattern {x : Form} (h : x.Firm) :
  x.literalPattern.Firm
  := by
  have hreplaced {y : Form} (hy : y.Firm) (sign escaped : String) :
      (y.replaced sign escaped).Firm := by
    have harguments := hy.binary .comma (Form.firm_leaf (.textLiteral sign))
    apply (harguments.binary (Nat.le_refl _) (Form.firm_leaf _)).call .replace
  apply hreplaced (hreplaced (hreplaced h _ _) _ _)

/-- A comparison with a pattern is tight if the pattern binds as tightly as it has to. -/
theorem tight_matching {x pattern : Form} (hx : x.Firm) (hpattern : pattern.Tight)
    (hstrength : Operator.escape.level ≤ pattern.strength) :
  (x.matching pattern).Tight
  := by
  have hescape : (Form.binary .escape pattern (.leaf (.textLiteral "\\"))).Tight :=
    hpattern.binary hstrength (Form.firm_leaf _)
  have hleft : Operator.like.level ≤ x.strength := by
    rw [hx.2]
    decide
  have hright : Operator.like.level < Operator.escape.level := by decide
  exact ⟨⟨hleft, hx.1⟩, hright, hescape⟩

/-- A call is tight if its arguments are firm. -/
theorem tight_form (h : Helper) (hxs : ∀ x ∈ xs, x.Firm) :
  (h.form xs).Tight
  := by
  have ha := firm_getD hxs 0
  have hb := firm_getD hxs 1
  have hpattern := firm_literalPattern hb
  have hanything : Form.anything.Firm := Form.firm_leaf _
  have hjoin : Operator.escape.level ≤ Operator.join.level := by decide
  cases h with
  | like => apply ha.binary .like hb
  | startsWith => apply tight_matching ha (hpattern.binary .join hanything) hjoin
  | endsWith => apply tight_matching ha (hanything.binary .join hpattern) hjoin
  | contains =>
      have hleft := hanything.binary .join hpattern
      have hboth : (Form.binary .join _ .anything).Tight :=
        hleft.binary (Nat.le_refl Operator.join.level) hanything
      apply tight_matching ha hboth hjoin
  | sameDay => apply (ha.1.call .date).binary .equal (hb.1.call .date)
  | dateBefore => apply (ha.1.call .julianday).binary .less (hb.1.call .julianday)
  | dateAfter => apply (ha.1.call .julianday).binary .greater (hb.1.call .julianday)
  | equalsIn =>
      simp only [form]
      split
      · rename_i a table column
        apply (hxs a (by simp)).binary .within (Form.firm_leaf _)
      · apply (Form.firm_leaf _).1
  | round | abs | min | max | avg => apply (firm_form rfl hxs).1

end Helper

end EntityStore
