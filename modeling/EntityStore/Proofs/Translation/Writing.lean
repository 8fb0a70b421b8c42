import EntityStore.Proofs.Sql.Call
import EntityStore.Proofs.Translation.Emission
import EntityStore.Sql.Clause

/-!
# How expressions and conditions are written

If the columns and the alias of a scope are identifiers, the expressions that are made in
it are written as terms of any grammar, and the conditions that are put together from no
others as comparisons.  They mention their parameters in order.
-/

namespace EntityStore

open Text Sql

namespace Sql

/-- The names of parameters with the mark that they begin with. -/
def marked (slots : List String) : List String :=
  slots.map ("@" ++ ·)

theorem marked_append (xs ys : List String) :
  marked (xs ++ ys) = marked xs ++ marked ys
  := List.map_append

/-- The operators of comparisons join terms. -/
theorem sql_mem_joints (op : CompareOp) :
  op.sql ∈ joints
  := by cases op <;> decide

namespace Grammar

variable (G : Grammar) {a b : String} {xs ys : List String}

/-- The digit of a truth value is a term. -/
theorem term_digit (b : Bool) :
  G.Term (if b then "1" else "0") []
  := by
  have hdigit : (if b then "1" else "0") = decimalText (if b then 1 else 0) := by
    cases b <;> decide
  rw [hdigit]
  apply G.integer

/-- A comparison that also compares null. -/
theorem comparison_nullSafe {op : CompareOp} {operator : String} (ha : G.Term a xs)
    (hop : op.nullSafe? = some operator) (hb : G.Term b ys) :
  G.Comparison (a ++ " " ++ operator ++ " " ++ b) (xs ++ ys)
  := by
  have his : "IS" ∈ joints := by decide
  cases op with
  | eq =>
      cases hop
      apply G.compare ha his hb
  | ne =>
      cases hop
      have h := G.compareNot ha his hb
      have hnot : "IS NOT" = "IS" ++ " " ++ "NOT" := by decide
      rw [hnot]
      simp only [String.append_assoc] at h ⊢
      apply h
  | _ => cases hop

/-- A constant condition is written as a comparison. -/
theorem comparison_constant (b : Bool) :
  G.Comparison (constant b) []
  := by
  have hone := G.term_digit true
  have hne : "!=" ∈ joints := by decide
  have heq : "=" ∈ joints := by decide
  cases b with
  | false => apply G.compare hone hne hone
  | true => apply G.compare hone heq hone

/-- The guard of a table under an alias is a comparison. -/
theorem comparison_activeGuard {tableAlias : String} (h : isIdentifier tableAlias = true) :
  G.Comparison (activeGuard tableAlias) []
  := by
  have hcolumn : G.Term (tableAlias ++ ("." ++ activeFlag)) [] := G.qualified h (by decide)
  have hguard := G.comparison_equal hcolumn (G.term_digit true)
  have hone : " = 1" = " = " ++ "1" := by decide
  show G.Comparison (tableAlias ++ "." ++ activeFlag ++ " = 1") []
  rw [hone]
  simp only [String.append_assoc] at hguard ⊢
  apply hguard

end Grammar

/-- The arguments of a helper mention their parameters in the order in which they are
written: what is written out of order mentions none. -/
theorem Expr.Fit.slots_written {scope : Scope} {h : Helper} {args : List Expr}
    (hfit : Expr.Fit scope h.args args) :
  (written h (args.map fun e => (e.text, marked e.slots))).flatMap (·.2) =
    marked (Expr.slotsOf args)
  := by
  have hall : ∀ es : List Expr,
      (es.map fun e => (e.text, marked e.slots)).flatMap (·.2) = marked (Expr.slotsOf es) := by
    intro es
    induction es with
    | nil => simp [Expr.slotsOf, marked]
    | cons e es ih => rw [Expr.slotsOf, marked_append, ← ih, List.map_cons, List.flatMap_cons]
  cases h with
  | equalsIn =>
      cases hfit with
      | @expr _ e _ _ rest =>
          cases rest with
          | ident _ rest =>
              cases rest with
              | ident _ rest =>
                  cases rest
                  simp [written, Expr.slotsOf, Expr.slots, marked]
  | _ => apply hall

end Sql

/-! ### Scopes -/

/-- A column that is found is spelled as one of the columns of the table. -/
theorem Descriptor.mem_allColumns_of_resolve? {d : Descriptor} {name column : String}
    {type : ColumnType} (h : d.resolve? name = some (column, type)) :
  (column, type) ∈ d.allColumns
  := by
  unfold resolve? at h
  split at h
  · cases h
    simp [allColumns]
  · split at h
    · cases h
      simp [allColumns]
    · obtain ⟨c, hc, hcolumn⟩ := Option.map_eq_some_iff.mp h
      have hmem : c ∈ d.columns := List.mem_of_find?_eq_some hc
      rw [← hcolumn]
      simp only [allColumns, List.mem_append]
      left
      apply List.mem_cons_of_mem
      apply List.mem_map_of_mem hmem

/-- Whether the names in a scope are identifiers. -/
structure Scope.Named (scope : Scope) : Prop where
  columns : ∀ c ∈ scope.descriptor.columns, isIdentifier c.name = true
  tableAlias : ∀ a ∈ scope.tableAlias, isIdentifier a = true

namespace Scope.Named

variable {scope : Scope}

/-- A column that is found has a name that is an identifier. -/
theorem resolve {name column : String} {type : ColumnType} (hscope : scope.Named)
    (h : scope.descriptor.resolve? name = some (column, type)) :
  isIdentifier column = true
  := by
  have hmem := Descriptor.mem_allColumns_of_resolve? h
  simp only [Descriptor.allColumns, List.mem_append, List.mem_cons, List.mem_map,
    List.not_mem_nil, or_false, Prod.mk.injEq] at hmem
  obtain (⟨rfl, -⟩ | ⟨c, hc, rfl, -⟩) | ⟨rfl, -⟩ := hmem
  · decide
  · apply hscope.columns c hc
  · decide

/-- What a parameter is named after is an identifier. -/
theorem base {base : String} (hscope : scope.Named) (h : scope.descriptor.IsBase base) :
  isIdentifier base = true
  := by
  obtain rfl | ⟨name, type, hname⟩ := h
  · decide
  · apply hscope.resolve hname

/-- A parameter is written as a term. -/
theorem term_parameter (G : Grammar) (hscope : scope.Named) {base : String}
    (h : scope.descriptor.IsBase base) (n : Nat) :
  G.Term ("@" ++ (base ++ decimalText n)) ["@" ++ (base ++ decimalText n)]
  := by
  have hname := isIdentifier_append_decimalText (hscope.base h) n
  obtain ⟨hne, hchars⟩ := chars_of_isIdentifier hname
  apply G.parameter hne hchars

/-- A column is written as a term. -/
theorem term_column (G : Grammar) (hscope : scope.Named) {column : String}
    (hcolumn : isIdentifier column = true) :
  G.Term (columnText scope.tableAlias column) []
  := by
  cases halias : scope.tableAlias with
  | none => apply G.word hcolumn
  | some a =>
      have h := G.qualified (hscope.tableAlias a halias) hcolumn
      show G.Term (a ++ "." ++ column) []
      rw [String.append_assoc]
      apply h

mutual

/-- An expression is written as a term. -/
theorem term_text (G : Grammar) (hscope : scope.Named) :
    ∀ {e : Expr}, e.Over scope → G.Term e.text (marked e.slots)
  | _, .column h => by
      rw [Expr.text]
      apply hscope.term_column G (hscope.resolve h)
  | _, .param h n => by
      rw [Expr.text]
      apply hscope.term_parameter G h n
  | _, .call h => by
      have hargs := term_texts G hscope h
      have hlength := h.length_eq
      rw [← List.length_map (fun e : Expr => (e.text, marked e.slots))] at hlength
      have hcall := G.term_render hlength hargs
      rw [h.slots_written, List.map_map] at hcall
      rw [Expr.text, Expr.texts_eq_map]
      apply hcall

/-- Arguments are written as terms. -/
theorem term_texts (G : Grammar) (hscope : scope.Named) :
    ∀ {kinds : List ArgumentKind} {es : List Expr}, Expr.Fit scope kinds es →
      ∀ x ∈ es.map fun e => (e.text, marked e.slots), G.Term x.1 x.2
  | _, _, .nil => by simp
  | _, _, .expr h rest => by
      rw [List.map_cons, List.forall_mem_cons]
      use term_text G hscope h
      apply term_texts G hscope rest
  | _, _, .int n rest => by
      rw [List.map_cons, List.forall_mem_cons, Expr.text]
      use G.integer n.toInt
      apply term_texts G hscope rest
  | _, _, .ident _ rest => by
      rw [List.map_cons, List.forall_mem_cons, Expr.text]
      use G.quotedName _
      apply term_texts G hscope rest

end

/-- A condition that is put together from no others is written as a comparison. -/
theorem comparison_text (G : Grammar) (hscope : scope.Named) {c : Condition}
    (h : c.Basic scope) :
  G.Comparison c.text (marked c.slots)
  := by
  cases h with
  | constant b => apply G.comparison_constant
  | truth h expected =>
      apply G.comparison_equal (hscope.term_column G (hscope.resolve h)) (G.term_digit expected)
  | compare hl op hr =>
      have hcompare := G.compare (hscope.term_text G hl) (sql_mem_joints op)
        (hscope.term_text G hr)
      rw [Condition.slots, marked_append]
      apply hcompare
  | nullSafe hl hop hbase n =>
      have hcompare := G.comparison_nullSafe (hscope.term_text G hl) hop
        (hscope.term_parameter G hbase n)
      rw [Condition.slots, marked_append]
      apply hcompare
  | call hcondition h =>
      have hargs := hscope.term_texts G h
      have hlength := h.length_eq
      rw [← List.length_map (fun e : Expr => (e.text, marked e.slots))] at hlength
      have hcall := G.comparison_render hcondition hlength hargs
      rw [h.slots_written, List.map_map] at hcall
      rw [Condition.text, Expr.texts_eq_map]
      apply hcall

/-- A condition that is put together from no others is read as a comparison. -/
theorem isComparison_text (hscope : scope.Named) {c : Condition} (h : c.Basic scope) :
  IsComparison c.text
  := hscope.comparison_text .reading h

end Scope.Named

end EntityStore
