import EntityStore.Proofs.Translation.Operands
import EntityStore.Proofs.Translation.Reading

/-!
# Forms of expressions and tokens of conditions

The form of an expression, and the tokens of a condition, go by how it is put together.  If
the columns and the alias of a scope are identifiers, what is made in it is read as them.

The columns that are mentioned in a condition are columns of the scope that it is made in.
They are written without quotes: the tokens of each are among those of the text, side by side.
-/

namespace EntityStore

open Text Sql

namespace Sql

mutual

/-- The form of an expression. -/
def Expr.form : Expr → Form
  | .column tableAlias name => .leaf (.ofColumn tableAlias name)
  | .param name => .leaf (.parameter ("@" ++ name))
  | .integer n => .leaf (.ofInt n.toInt)
  | .ident name => .leaf (.quotedName name)
  | .call h args => h.form (Expr.forms args)

/-- The forms of expressions. -/
def Expr.forms : List Expr → List Form
  | [] => []
  | e :: es => Expr.form e :: Expr.forms es

end

/-- The form of a column of truth values that is as expected. -/
def Form.truth (tableAlias : Option String) (column : String) (expected : Bool) : Form :=
  .binary .equal (.leaf (.ofColumn tableAlias column))
    (.leaf (.number (if expected then "1" else "0")))

/-- The tokens of a condition. -/
def Condition.tokens : Condition → List Token
  | .constant b => (Form.constant b).tokens
  | .truth tableAlias column expected => (Form.truth tableAlias column expected).tokens
  | .compare l operator r => l.form.tokens ++ (Sql.tokens operator ++ r.form.tokens)
  | .call h args => (h.form (Expr.forms args)).tokens
  | .not c => .word "NOT" :: .symbol "(" :: (c.tokens ++ [.symbol ")"])
  | .combine logic c d =>
    .symbol "(" :: ((c.tokens ++ .word logic.sql :: d.tokens) ++ [.symbol ")"])

end Sql

/-- A comparison that is put together from no conditions has an operator between two
expressions of its scope. -/
theorem Sql.Condition.Basic.exists_operator {scope : Scope} {l r : Expr} {sign : String}
    (h : (Condition.compare l sign r).Basic scope) :
  l.Over scope ∧ r.Over scope ∧ ∃ op : Operator, Lexes sign (op.head :: op.tail)
  := by
  cases h with
  | compare hl op hr =>
      use hl, hr, op.operator
      apply lexes_sql
  | @nullSafe _ hl op _ hop _ hbase n =>
      have hsign := lexes_operatorFor op .null
      rw [Translate.operatorFor, hop] at hsign
      use hl, .param hbase n, op.operatorFor .null
      apply hsign

namespace Scope.Named

variable {scope : Scope}

mutual

/-- An expression is written as its form. -/
theorem writes_form (hscope : scope.Named) :
    ∀ {e : Expr}, e.Over scope → Writes e.text e.form
  | _, .column h => by
      rw [Expr.text, Expr.form]
      apply hscope.writes_column h
  | _, .param h n => by
      rw [Expr.text, Expr.form]
      apply hscope.writes_parameter h n
  | _, .call h => by
      rw [Expr.text, Expr.form, Expr.texts_eq_map]
      apply Helper.writes_render (write_forms hscope h)

/-- Arguments are written as their forms. -/
theorem write_forms (hscope : scope.Named) :
    ∀ {kinds : List ArgumentKind} {es : List Expr}, Expr.Fit scope kinds es →
      Helper.ArgumentsWrite kinds (es.map Expr.text) (Expr.forms es)
  | _, _, .nil => .nil
  | _, _, .expr h rest => by
      rw [List.map_cons, Expr.forms]
      apply Helper.ArgumentsWrite.expr (writes_form hscope h) (write_forms hscope rest)
  | _, _, .int n rest => by
      rw [List.map_cons, Expr.forms, Expr.text, Expr.form]
      apply Helper.ArgumentsWrite.int n (write_forms hscope rest)
  | _, _, .ident _ rest => by
      rw [List.map_cons, Expr.forms, Expr.text, Expr.form]
      apply Helper.ArgumentsWrite.ident _ (write_forms hscope rest)

end

/-- A condition that is put together from no others is read as its tokens. -/
theorem lexes_basic (hscope : scope.Named) {c : Condition} (h : c.Basic scope) :
  Lexes c.text c.tokens
  := by
  cases c with
  | constant b => apply writes_constant b
  | truth tableAlias column expected =>
      have hdigit : Writes (if expected then "1" else "0")
          (.leaf (.number (if expected then "1" else "0"))) := by
        cases expected with
        | true => apply lexes_decimalDigits 1
        | false => apply lexes_decimalDigits 0
      cases h with
      | truth h _ => apply (hscope.writes_column h).binary (lexes_sql .eq) rfl hdigit
  | compare l sign r =>
      obtain ⟨hl, hr, op, hsign⟩ := h.exists_operator
      rw [Condition.tokens, hsign.tokens_eq]
      apply writes_compare hsign (hscope.writes_form hl) (hscope.writes_form hr)
  | call helper args =>
      cases h with
      | call _ h =>
          rw [Condition.text, Condition.tokens, Expr.texts_eq_map]
          apply Helper.writes_render (hscope.write_forms h)
  | _ => cases h

/-- A condition is read as its tokens if those in it that are put together from no others
are. -/
theorem lexes_text (hscope : scope.Named) {c : Condition}
    (h : c.formula.All (·.Basic scope)) :
  Lexes c.text c.tokens
  := by
  induction c with
  | not c ih => apply (ih h).negation
  | combine logic c d ihc ihd =>
      have hlogic : isIdentifier logic.sql = true := by cases logic <;> decide
      have hboth := (Lexes.between hlogic (ihc h.1) (ihd h.2)).group
      show Lexes ("(" ++ c.text ++ " " ++ logic.sql ++ " " ++ d.text ++ ")") _
      simp only [String.append_assoc] at hboth ⊢
      apply hboth
  | _ => apply hscope.lexes_basic h

end Scope.Named

namespace Sql

/-! ### Columns as they are written -/

/-- A column as it is mentioned: by its name, behind the alias of its table if that has one. -/
structure Mention where
  tableAlias : Option String
  name : String
  deriving DecidableEq

/-- The leaf of a column that is mentioned. -/
def Mention.leaf (x : Mention) : Leaf :=
  .ofColumn x.tableAlias x.name

/-- The tokens of a column that is mentioned.  None of them is in quotes. -/
def Mention.tokens (x : Mention) : List Token :=
  x.leaf.tokens

mutual

/-- The columns that are mentioned in an expression. -/
def Expr.mentioned : Expr → List Mention
  | .column tableAlias name => [⟨tableAlias, name⟩]
  | .call _ args => Expr.allMentioned args
  | _ => []

/-- The columns that are mentioned in some expressions. -/
def Expr.allMentioned : List Expr → List Mention
  | [] => []
  | e :: es => Expr.mentioned e ++ Expr.allMentioned es

end

/-- The columns that are mentioned in a condition. -/
def Condition.mentioned : Condition → List Mention
  | .constant _ => []
  | .truth tableAlias column _ => [⟨tableAlias, column⟩]
  | .compare l _ r => l.mentioned ++ r.mentioned
  | .call _ args => Expr.allMentioned args
  | .not c => c.mentioned
  | .combine _ c d => c.mentioned ++ d.mentioned

/-! ### Leaves of forms -/

/-- The leaves of a form. -/
def Form.leaves : Form → List Leaf
  | leaf l => [l]
  | group x => x.leaves
  | call _ x => x.leaves
  | binary _ a b => a.leaves ++ b.leaves

/-- What stands in a part of some tokens stands in the whole. -/
theorem infix_between {us ts : List Token} (h : us <:+: ts) (before behind : List Token) :
  us <:+: before ++ (ts ++ behind)
  := by
  obtain ⟨before', behind', rfl⟩ := h
  use before ++ before', behind' ++ behind
  simp only [List.append_assoc]

/-- The tokens of each leaf of a form stand in those of the form. -/
theorem Form.infix_of_mem_leaves {x : Form} {l : Leaf} (h : l ∈ x.leaves) :
  l.tokens <:+: x.tokens
  := by
  induction x with
  | leaf m =>
      obtain rfl := List.mem_singleton.mp h
      apply List.infix_refl
  | group x ih => apply infix_between (ih h) [.symbol "("]
  | call f x ih => apply infix_between (ih h) [.word f.name, .symbol "("]
  | binary op a b iha ihb =>
      obtain h | h := List.mem_append.mp h
      · apply infix_between (iha h) []
      · have hb := infix_between (ihb h) (a.tokens ++ op.head :: op.tail) []
        simpa [tokens] using hb

end Sql

variable {scope : Scope} {x : Mention}

/-- The columns that are mentioned in some expressions are those mentioned in one of them. -/
theorem Sql.Expr.mem_allMentioned {es : List Expr} :
  x ∈ Expr.allMentioned es ↔ ∃ e ∈ es, x ∈ e.mentioned
  := by
  induction es with
  | nil => simp [allMentioned]
  | cons e es ih => simp [allMentioned, ih]

/-- Two arguments that are expressions. -/
theorem Sql.Expr.Fit.exists_two {es : List Expr} (h : Expr.Fit scope [.expr, .expr] es) :
  ∃ e f, es = [e, f]
  := by
  cases h with
  | expr he rest =>
      cases rest with
      | expr hf rest =>
          cases rest
          exact ⟨_, _, rfl⟩

/-- A column that is mentioned in an argument of a call is a leaf of the form of the call if it
is one of the form of the argument. -/
theorem Helper.mem_leaves_form {helper : Helper} {es : List Expr} {e : Expr}
    (hfit : Expr.Fit scope helper.args es) (he : e ∈ es) (hx : x ∈ e.mentioned)
    (hleaf : x.leaf ∈ e.form.leaves) :
  x.leaf ∈ (helper.form (Expr.forms es)).leaves
  := by
  cases helper with
  | round =>
      cases hfit with
      | expr ha rest =>
          cases rest with
          | int n rest =>
              cases rest
              obtain rfl | rfl : e = _ ∨ e = _ := by simpa using he
              · simp [Expr.forms, form, Form.leaves, hleaf]
              · cases hx
  | abs =>
      cases hfit with
      | expr ha rest =>
          cases rest
          obtain rfl := List.mem_singleton.mp he
          simp [Expr.forms, form, Form.leaves, hleaf]
  | equalsIn =>
      cases hfit with
      | expr ha rest =>
          cases rest with
          | ident htable rest =>
              cases rest with
              | ident hcolumn rest =>
                  cases rest
                  obtain rfl | rfl | rfl : e = _ ∨ e = _ ∨ e = _ := by simpa using he
                  · simp [Expr.forms, Expr.form, form, Form.leaves, hleaf]
                  · cases hx
                  · cases hx
  | _ =>
      obtain ⟨a, b, rfl⟩ := hfit.exists_two
      obtain rfl | rfl : e = a ∨ e = b := by simpa using he
      all_goals simp [Expr.forms, form, Form.leaves, Form.matching, Form.mean,
        Form.literalPattern, Form.replaced, hleaf]

/-! ### Columns of a scope -/

/-- Whether a column is mentioned as one of a scope: by its declared name, behind the alias. -/
structure Sql.Mention.IsOf (scope : Scope) (x : Mention) : Prop where
  tableAlias : x.tableAlias = scope.tableAlias
  name : ∃ name type, scope.descriptor.resolve? name = some (x.name, type)

mutual

/-- A column that is mentioned in an expression is one of its scope, and a leaf of its form. -/
theorem Sql.Expr.Over.of_mentioned :
    ∀ {e : Expr}, e.Over scope → x ∈ e.mentioned → x.IsOf scope ∧ x.leaf ∈ e.form.leaves
  | _, .column h, hx => by
      obtain rfl := List.mem_singleton.mp hx
      exact ⟨⟨rfl, _, _, h⟩, by simp [Expr.form, Form.leaves, Mention.leaf]⟩
  | _, .param _ _, hx => by cases hx
  | _, .call h, hx => by
      obtain ⟨e, he, hx⟩ := Expr.mem_allMentioned.mp hx
      obtain ⟨hof, hleaf⟩ := Sql.Expr.Fit.of_mentioned h e he hx
      exact ⟨hof, Helper.mem_leaves_form h he hx hleaf⟩

/-- A column that is mentioned in an argument is one of its scope, and a leaf of its form. -/
theorem Sql.Expr.Fit.of_mentioned :
    ∀ {kinds : List ArgumentKind} {es : List Expr}, Expr.Fit scope kinds es →
      ∀ e ∈ es, x ∈ e.mentioned → x.IsOf scope ∧ x.leaf ∈ e.form.leaves
  | _, _, .nil => by simp
  | _, _, .expr h rest =>
      List.forall_mem_cons.mpr ⟨Sql.Expr.Over.of_mentioned h, Sql.Expr.Fit.of_mentioned rest⟩
  | _, _, .int n rest =>
      List.forall_mem_cons.mpr ⟨by simp [Expr.mentioned], Sql.Expr.Fit.of_mentioned rest⟩
  | _, _, .ident _ rest =>
      List.forall_mem_cons.mpr ⟨by simp [Expr.mentioned], Sql.Expr.Fit.of_mentioned rest⟩

end

/-- A column that is mentioned in a condition is one of its scope, and its tokens stand in those
of the condition. -/
theorem Sql.Condition.of_mentioned {c : Condition} (h : c.formula.All (·.Basic scope))
    (hx : x ∈ c.mentioned) :
  x.IsOf scope ∧ x.tokens <:+: c.tokens
  := by
  induction c with
  | constant b => cases hx
  | truth tableAlias column expected =>
      obtain rfl := List.mem_singleton.mp hx
      cases h with
      | truth h _ =>
        refine ⟨⟨rfl, _, _, h⟩, ?_⟩
        apply Form.infix_of_mem_leaves
        simp [Form.truth, Form.leaves, Mention.leaf]
  | compare l sign r =>
      obtain ⟨hl, hr, -⟩ := Condition.Basic.exists_operator h
      obtain hx | hx := List.mem_append.mp hx
      · obtain ⟨hof, hleaf⟩ := hl.of_mentioned hx
        use hof
        apply infix_between (Form.infix_of_mem_leaves hleaf) []
      · obtain ⟨hof, hleaf⟩ := hr.of_mentioned hx
        use hof
        have hright : x.tokens <:+: r.form.tokens := Form.infix_of_mem_leaves hleaf
        simpa [tokens] using infix_between hright (l.form.tokens ++ Sql.tokens sign) []
  | call helper args =>
      cases h with
      | call hcondition h =>
          obtain ⟨e, he, hx⟩ := Expr.mem_allMentioned.mp hx
          obtain ⟨hof, hleaf⟩ := h.of_mentioned e he hx
          exact ⟨hof, Form.infix_of_mem_leaves (Helper.mem_leaves_form h he hx hleaf)⟩
  | not c ih =>
      obtain ⟨hof, hc⟩ := ih h hx
      exact ⟨hof, infix_between hc [.word "NOT", .symbol "("] _⟩
  | combine logic c d ihc ihd =>
      obtain hx | hx := List.mem_append.mp hx
      · obtain ⟨hof, hc⟩ := ihc h.1 hx
        use hof
        have hbehind := infix_between hc [.symbol "("]
          (.word logic.sql :: d.tokens ++ [.symbol ")"])
        simpa [tokens] using hbehind
      · obtain ⟨hof, hd⟩ := ihd h.2 hx
        use hof
        have hbefore := infix_between hd (.symbol "(" :: (c.tokens ++ [.word logic.sql]))
          [.symbol ")"]
        simpa [tokens] using hbefore

/-- A column that is mentioned in what a predicate is translated to is one of the scope.  If the
names there are identifiers, its tokens stand in those of the text. -/
theorem Predicate.of_mentioned {p : Predicate} {n : Nat} {c : Condition} {params : List Param}
    (h : (p.translate scope n).outcome = .ok (c, params)) (hx : x ∈ c.mentioned) :
  x.IsOf scope ∧ (scope.Named → x.tokens <:+: tokens c.text)
  := by
  have hbasic := basic_of_translate h
  obtain ⟨hof, hstands⟩ := Condition.of_mentioned hbasic hx
  use hof
  intro hscope
  rw [(hscope.lexes_text hbasic).tokens_eq]
  apply hstands

end EntityStore
