import EntityStore.Predicate.Helper
import EntityStore.Proofs.Sql.Term
import Mathlib.Data.List.Basic

/-!
# Texts of calls

In any grammar the text of a call is a term if those of its arguments are.  It is a
comparison if the call is a condition.  The parameters that it mentions are those of the
arguments, in the order in which these are written.
-/

namespace EntityStore.Sql

variable {a b c : String} {xs ys zs : List String}

/-- The arguments of a helper in the order in which they are written. -/
def written {α : Type} : Helper → List α → List α
  | .equalsIn, [a, b, c] => [a, c, b]
  | _, args => args

/-! ### Texts -/

/-- The text of a call that replaces a sign in a text. -/
def replaceText (a sign escaped : String) : String :=
  "replace(" ++ (a ++ ", " ++ sign ++ ", " ++ escaped) ++ ")"

/-- The text of a pattern that has an escape sign. -/
def escapeText (a : String) : String :=
  a ++ " ESCAPE " ++ "'\\'"

/-- The signs are replaced one after the other. -/
theorem literalPattern_eq (a : String) :
  Helper.literalPattern a =
    replaceText (replaceText (replaceText a "'\\'" "'\\\\'") "'%'" "'\\%'") "'_'" "'\\_'"
  := by
  have hcalls : "replace(replace(replace(" = "replace(" ++ ("replace(" ++ "replace(") := by decide
  have harguments : ", '\\', '\\\\'), '%', '\\%'), '_', '\\_')" =
      ", " ++ ("'\\'" ++ (", " ++ ("'\\\\'" ++ (")" ++ (", " ++ ("'%'" ++ (", " ++ ("'\\%'" ++
        (")" ++ (", " ++ ("'_'" ++ (", " ++ ("'\\_'" ++ ")"))))))))))))) := by decide
  unfold Helper.literalPattern
  rw [hcalls, harguments]
  simp only [replaceText, String.append_assoc]

theorem render_startsWith (a b : String) :
  Helper.startsWith.render [a, b] =
    a ++ " LIKE " ++ escapeText (Helper.literalPattern b ++ " || " ++ "'%'")
  := by
  have hclosing : " || '%' ESCAPE '\\'" = " || " ++ "'%'" ++ " ESCAPE " ++ "'\\'" := by decide
  show a ++ " LIKE " ++ Helper.literalPattern b ++ " || '%' ESCAPE '\\'" = _
  rw [hclosing]
  simp only [escapeText, String.append_assoc]

theorem render_endsWith (a b : String) :
  Helper.endsWith.render [a, b] =
    a ++ " LIKE " ++ escapeText ("'%'" ++ " || " ++ Helper.literalPattern b)
  := by
  have hopening : " LIKE '%' || " = " LIKE " ++ "'%'" ++ " || " := by decide
  have hclosing : " ESCAPE '\\'" = " ESCAPE " ++ "'\\'" := by decide
  show a ++ " LIKE '%' || " ++ Helper.literalPattern b ++ " ESCAPE '\\'" = _
  rw [hopening, hclosing]
  simp only [escapeText, String.append_assoc]

theorem render_contains (a b : String) :
  Helper.contains.render [a, b] =
    a ++ " LIKE " ++ escapeText ("'%'" ++ " || " ++ Helper.literalPattern b ++ " || " ++ "'%'")
  := by
  have hopening : " LIKE '%' || " = " LIKE " ++ "'%'" ++ " || " := by decide
  have hclosing : " || '%' ESCAPE '\\'" = " || " ++ "'%'" ++ " ESCAPE " ++ "'\\'" := by decide
  show a ++ " LIKE '%' || " ++ Helper.literalPattern b ++ " || '%' ESCAPE '\\'" = _
  rw [hopening, hclosing]
  simp only [escapeText, String.append_assoc]

/-- The mean is a quotient in parentheses of a sum in parentheses. -/
theorem render_avg (a b : String) :
  Helper.avg.render [a, b] = "(" ++ ("(" ++ (a ++ " + " ++ b) ++ ")" ++ " / " ++ "2.0") ++ ")"
  := by
  have hopening : "((" = "(" ++ "(" := by decide
  have hclosing : ") / 2.0)" = ")" ++ " / " ++ "2.0" ++ ")" := by decide
  show "((" ++ a ++ " + " ++ b ++ ") / 2.0)" = _
  rw [hopening, hclosing]
  simp only [String.append_assoc]

/-- A membership tests against a selection in parentheses. -/
theorem render_equalsIn (a b c : String) :
  Helper.equalsIn.render [a, b, c] =
    a ++ " IN " ++ ("(" ++ ("SELECT" ++ " " ++ (c ++ " FROM " ++ b)) ++ ")")
  := by
  have hopening : " IN (SELECT " = " IN " ++ "(" ++ "SELECT" ++ " " := by decide
  show a ++ " IN (SELECT " ++ c ++ " FROM " ++ b ++ ")" = _
  rw [hopening]
  simp only [String.append_assoc]

/-- Two calls of one function with an operator between them. -/
theorem calls_eq {opening middle between : String} (hmiddle : middle = ")" ++ between ++ opening)
    (a b : String) :
  opening ++ a ++ middle ++ b ++ ")" =
    (opening ++ a ++ ")") ++ between ++ (opening ++ b ++ ")")
  := by
  rw [hmiddle]
  simp only [String.append_assoc]

/-- A call with two arguments. -/
theorem arguments_eq (opening a b : String) :
  opening ++ a ++ ", " ++ b ++ ")" = opening ++ (a ++ ", " ++ b) ++ ")"
  := by simp only [String.append_assoc]

/-! ### Terms -/

namespace Grammar

variable (G : Grammar)

/-- A text literal, between its apostrophes. -/
theorem term_of_quoteText (text : String) (h : quoteText text = a) :
  G.Term a []
  := by
  rw [← h]
  apply G.quotedText

/-- Two terms with a text between them that joins them are a comparison. -/
theorem compareBy {joint between : String} (ha : G.Term a xs) (hjoint : joint ∈ joints)
    (hbetween : between = " " ++ joint ++ " ") (hb : G.Term b ys) :
  G.Comparison (a ++ between ++ b) (xs ++ ys)
  := by
  have h := G.compare ha hjoint hb
  rw [hbetween]
  simp only [String.append_assoc] at h ⊢
  apply h

/-- A call of a function, whose name is written with the parenthesis behind it, is a term. -/
theorem term_call {function opening : String} (hfunction : IsFunction function)
    (hopening : opening = function ++ "(") (ha : G.Term a xs) :
  G.Term (opening ++ a ++ ")") xs
  := by
  have h := G.call hfunction ha
  rw [hopening]
  simp only [String.append_assoc] at h ⊢
  apply h

/-- A call with two arguments is a term. -/
theorem term_callOfTwo {function opening : String} (hfunction : IsFunction function)
    (hopening : opening = function ++ "(") (ha : G.Term a xs) (hb : G.Term b ys) :
  G.Term (opening ++ a ++ ", " ++ b ++ ")") (xs ++ ys)
  := by
  rw [arguments_eq]
  apply G.term_call hfunction hopening (G.comma ha hb)

/-- A text whose signs of patterns are replaced is a term. -/
theorem term_replaceText (ha : G.Term a xs) {sign escaped : String} (hb : G.Term sign [])
    (hc : G.Term escaped []) :
  G.Term (replaceText a sign escaped) xs
  := by
  have hreplace : IsFunction "replace" := by decide
  have h := G.comma (G.comma ha hb) hc
  rw [List.append_nil, List.append_nil] at h
  apply G.term_call hreplace (by decide) h

/-- The pattern that stands for a text is a term. -/
theorem term_literalPattern (ha : G.Term a xs) :
  G.Term (Helper.literalPattern a) xs
  := by
  have hescape : G.Term "'\\'" [] := G.term_of_quoteText "\\" (by decide)
  have hescaped : G.Term "'\\\\'" [] := G.term_of_quoteText "\\\\" (by decide)
  have hany : G.Term "'%'" [] := G.term_of_quoteText "%" (by decide)
  have hany' : G.Term "'\\%'" [] := G.term_of_quoteText "\\%" (by decide)
  have hone : G.Term "'_'" [] := G.term_of_quoteText "_" (by decide)
  have hone' : G.Term "'\\_'" [] := G.term_of_quoteText "\\_" (by decide)
  rw [literalPattern_eq]
  apply G.term_replaceText (G.term_replaceText (G.term_replaceText ha hescape hescaped) hany hany')
    hone hone'

/-! ### Helpers -/

/-- Two texts written one after the other are a term. -/
theorem term_concatenation (ha : G.Term a xs) (hb : G.Term b ys) :
  G.Term (a ++ " || " ++ b) (xs ++ ys)
  := by
  have hjoint : "||" ∈ joints := by decide
  apply G.term (G.compareBy ha hjoint (by decide) hb)

/-- A text compared with a pattern. -/
theorem comparison_like (ha : G.Term a xs) (hb : G.Term b ys) :
  G.Comparison (a ++ " LIKE " ++ b) (xs ++ ys)
  := by
  have hjoint : "LIKE" ∈ joints := by decide
  apply G.compareBy ha hjoint (by decide) hb

/-- A text compared with a pattern that has an escape sign. -/
theorem comparison_escaped (ha : G.Term a xs) (hb : G.Term b ys) :
  G.Comparison (a ++ " LIKE " ++ escapeText b) (xs ++ ys)
  := by
  have hjoint : "ESCAPE" ∈ joints := by decide
  have hsign : G.Term "'\\'" [] := G.term_of_quoteText "\\" (by decide)
  have hescaped := G.term (G.compareBy hb hjoint rfl hsign)
  rw [List.append_nil] at hescaped
  apply G.comparison_like ha hescaped

/-- The equality of two terms. -/
theorem comparison_equal (ha : G.Term a xs) (hb : G.Term b ys) :
  G.Comparison (a ++ " = " ++ b) (xs ++ ys)
  := by
  have hjoint : "=" ∈ joints := by decide
  apply G.compareBy ha hjoint (by decide) hb

/-- Two calls of one function that are compared. -/
theorem comparison_calls {function operator opening middle between : String}
    (hfunction : IsFunction function) (hoperator : operator ∈ joints)
    (hopening : opening = function ++ "(") (hbetween : between = " " ++ operator ++ " ")
    (hmiddle : middle = ")" ++ between ++ opening) (ha : G.Term a xs) (hb : G.Term b ys) :
  G.Comparison (opening ++ a ++ middle ++ b ++ ")") (xs ++ ys)
  := by
  rw [calls_eq hmiddle]
  apply G.compareBy (G.term_call hfunction hopening ha) hoperator hbetween
    (G.term_call hfunction hopening hb)

/-- A membership in a column of a table. -/
theorem comparison_in (ha : G.Term a xs) (hb : G.Term b ys) (hc : G.Term c zs) :
  G.Comparison (Helper.equalsIn.render [a, b, c]) (xs ++ (zs ++ ys))
  := by
  have hfrom : "FROM" ∈ joints := by decide
  have hin : "IN" ∈ joints := by decide
  have hcolumn : G.Comparison (c ++ " FROM " ++ b) (zs ++ ys) :=
    G.compareBy hc hfrom (by decide) hb
  rw [render_equalsIn]
  apply G.compareBy ha hin (by decide) (G.selection (G.term hcolumn))

/-- The mean of two terms is a term. -/
theorem term_mean (ha : G.Term a xs) (hb : G.Term b ys) :
  G.Term (Helper.avg.render [a, b]) (xs ++ ys)
  := by
  have hplus : "+" ∈ joints := by decide
  have hsum : G.Comparison (a ++ " + " ++ b) (xs ++ ys) := G.compareBy ha hplus (by decide) hb
  have h := G.group (G.quotient (G.group (G.term hsum)) G.two)
  rw [List.append_nil] at h
  rw [render_avg]
  apply h

/-- The percent sign of a pattern is a term. -/
theorem term_percent :
  G.Term "'%'" []
  := G.term_of_quoteText "%" (by decide)

/-- A text compared with its beginning. -/
theorem comparison_startsWith (ha : G.Term a xs) (hb : G.Term b ys) :
  G.Comparison (Helper.startsWith.render [a, b]) (xs ++ ys)
  := by
  have hpattern := G.term_concatenation (G.term_literalPattern hb) G.term_percent
  rw [List.append_nil] at hpattern
  rw [render_startsWith]
  apply G.comparison_escaped ha hpattern

/-- A text compared with its end. -/
theorem comparison_endsWith (ha : G.Term a xs) (hb : G.Term b ys) :
  G.Comparison (Helper.endsWith.render [a, b]) (xs ++ ys)
  := by
  have hpattern := G.term_concatenation G.term_percent (G.term_literalPattern hb)
  rw [List.nil_append] at hpattern
  rw [render_endsWith]
  apply G.comparison_escaped ha hpattern

/-- A text compared with a part of it. -/
theorem comparison_contains (ha : G.Term a xs) (hb : G.Term b ys) :
  G.Comparison (Helper.contains.render [a, b]) (xs ++ ys)
  := by
  have hpattern := G.term_concatenation (G.term_concatenation G.term_percent
    (G.term_literalPattern hb)) G.term_percent
  rw [List.nil_append, List.append_nil] at hpattern
  rw [render_contains]
  apply G.comparison_escaped ha hpattern

/-! ### Calls -/

variable {h : Helper} {args : List (String × List String)}

/-- Two arguments that are terms are written one after the other. -/
theorem exists_two (harity : h.arity = 2) (hlength : args.length = h.arity)
    (hargs : ∀ x ∈ args, G.Term x.1 x.2) :
  ∃ a xs b ys, args.map (·.1) = [a, b] ∧ (written h args).flatMap (·.2) = xs ++ ys ∧
    G.Term a xs ∧ G.Term b ys
  := by
  rw [harity] at hlength
  obtain ⟨⟨a, xs⟩, ⟨b, ys⟩, rfl⟩ := List.length_eq_two.mp hlength
  have hwritten : written h [(a, xs), (b, ys)] = [(a, xs), (b, ys)] := by cases h <;> rfl
  use a, xs, b, ys, rfl
  rw [hwritten]
  exact ⟨by simp, hargs (a, xs) (by simp), hargs (b, ys) (by simp)⟩

/-- A call that is a condition is written as a comparison. -/
theorem comparison_render (hcondition : h.isCondition = true) (hlength : args.length = h.arity)
    (hargs : ∀ x ∈ args, G.Term x.1 x.2) :
  G.Comparison (h.render (args.map (·.1))) ((written h args).flatMap (·.2))
  := by
  cases h with
  | like =>
      obtain ⟨a, xs, b, ys, hargs, hslots, ha, hb⟩ := G.exists_two rfl hlength hargs
      rw [hargs, hslots]
      apply G.comparison_like ha hb
  | startsWith =>
      obtain ⟨a, xs, b, ys, hargs, hslots, ha, hb⟩ := G.exists_two rfl hlength hargs
      rw [hargs, hslots]
      apply G.comparison_startsWith ha hb
  | endsWith =>
      obtain ⟨a, xs, b, ys, hargs, hslots, ha, hb⟩ := G.exists_two rfl hlength hargs
      rw [hargs, hslots]
      apply G.comparison_endsWith ha hb
  | contains =>
      obtain ⟨a, xs, b, ys, hargs, hslots, ha, hb⟩ := G.exists_two rfl hlength hargs
      rw [hargs, hslots]
      apply G.comparison_contains ha hb
  | sameDay =>
      obtain ⟨a, xs, b, ys, hargs, hslots, ha, hb⟩ := G.exists_two rfl hlength hargs
      have hdate : IsFunction "date" := by decide
      have hoperator : "=" ∈ joints := by decide
      rw [hargs, hslots]
      apply G.comparison_calls hdate hoperator (by decide) rfl (by decide) ha hb
  | dateBefore =>
      obtain ⟨a, xs, b, ys, hargs, hslots, ha, hb⟩ := G.exists_two rfl hlength hargs
      have hjulianday : IsFunction "julianday" := by decide
      have hoperator : "<" ∈ joints := by decide
      rw [hargs, hslots]
      apply G.comparison_calls hjulianday hoperator (by decide) rfl (by decide) ha hb
  | dateAfter =>
      obtain ⟨a, xs, b, ys, hargs, hslots, ha, hb⟩ := G.exists_two rfl hlength hargs
      have hjulianday : IsFunction "julianday" := by decide
      have hoperator : ">" ∈ joints := by decide
      rw [hargs, hslots]
      apply G.comparison_calls hjulianday hoperator (by decide) rfl (by decide) ha hb
  | equalsIn =>
      obtain ⟨⟨a, xs⟩, ⟨b, ys⟩, ⟨c, zs⟩, rfl⟩ := List.length_eq_three.mp hlength
      have ha : G.Term a xs := hargs (a, xs) (by simp)
      have hb : G.Term b ys := hargs (b, ys) (by simp)
      have hc : G.Term c zs := hargs (c, zs) (by simp)
      have hslots : (written .equalsIn [(a, xs), (b, ys), (c, zs)]).flatMap (·.2) =
          xs ++ (zs ++ ys) := by simp [written]
      rw [hslots]
      apply G.comparison_in ha hb hc
  | round | abs | min | max | avg => cases hcondition

/-- A call is written as a term. -/
theorem term_render (hlength : args.length = h.arity) (hargs : ∀ x ∈ args, G.Term x.1 x.2) :
  G.Term (h.render (args.map (·.1))) ((written h args).flatMap (·.2))
  := by
  cases h with
  | round =>
      obtain ⟨a, xs, b, ys, hargs, hslots, ha, hb⟩ := G.exists_two rfl hlength hargs
      have hround : IsFunction "ROUND" := by decide
      rw [hargs, hslots]
      apply G.term_callOfTwo hround (by decide) ha hb
  | abs =>
      obtain ⟨⟨a, xs⟩, rfl⟩ := List.length_eq_one_iff.mp hlength
      have habs : IsFunction "ABS" := by decide
      have ha : G.Term a xs := hargs (a, xs) (by simp)
      have hslots : (written .abs [(a, xs)]).flatMap (·.2) = xs := by simp [written]
      rw [hslots]
      apply G.term_call habs (by decide) ha
  | min =>
      obtain ⟨a, xs, b, ys, hargs, hslots, ha, hb⟩ := G.exists_two rfl hlength hargs
      have hmin : IsFunction "MIN" := by decide
      rw [hargs, hslots]
      apply G.term_callOfTwo hmin (by decide) ha hb
  | max =>
      obtain ⟨a, xs, b, ys, hargs, hslots, ha, hb⟩ := G.exists_two rfl hlength hargs
      have hmax : IsFunction "MAX" := by decide
      rw [hargs, hslots]
      apply G.term_callOfTwo hmax (by decide) ha hb
  | avg =>
      obtain ⟨a, xs, b, ys, hargs, hslots, ha, hb⟩ := G.exists_two rfl hlength hargs
      rw [hargs, hslots]
      apply G.term_mean ha hb
  | like | startsWith | endsWith | contains | sameDay | dateBefore | dateAfter | equalsIn =>
      apply G.term (G.comparison_render (by decide) hlength hargs)

end Grammar

end EntityStore.Sql
