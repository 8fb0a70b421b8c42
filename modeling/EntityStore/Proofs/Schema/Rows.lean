import EntityStore.Proofs.Schema.Preservation
import EntityStore.Proofs.Sql.Composition
import EntityStore.Row
import EntityStore.Sql.Expression
import Mathlib.Data.List.Forall2

/-!
# Rows of tables that are made anew

What the new table takes from a row of the old one is written as an expression: a column, a
literal, or a column with a literal where that is null.  The texts of these expressions are read
back, and have a value for every row.  So a row of the old table becomes one of the new table.
-/

namespace EntityStore

open Text Sql

/-! ### Values of expressions -/

/-- The value of a literal. -/
def Sql.Token.literal? : Token → Option Value
  | number digits => some (Expression.numberValue digits)
  | textLiteral s => some (.text s)
  | bytesLiteral b => some (.bytes b)
  | _ => none

namespace Row

/-- The value of an expression for a row: that of a column, that of a literal, or that of a
column unless it is null, and then that of a literal. -/
def evaluate? (row : Row) : List Token → Option Value
  | [.quotedName name] => row.named? name
  | [.word "COALESCE", .symbol "(", .quotedName name, .symbol ",", t, .symbol ")"] => do
    let v ← row.named? name
    if v.isNull then t.literal? else some v
  | [t] => t.literal?
  | _ => none

/-- The value of the text of an expression for a row. -/
def valueOf? (row : Row) (sql : String) : Option Value :=
  row.evaluate? (tokens sql)

end Row

/-- A text is a literal of a value. -/
def IsLiteral (sql : String) (v : Value) : Prop :=
  ∃ t, Lexes sql [t] ∧ t.literal? = some v ∧ ∀ name, t ≠ .quotedName name

theorem isLiteral_quoteText (text : String) :
  IsLiteral (quoteText text) (.text text)
  := ⟨_, lexes_quoteText text, rfl, by simp⟩

theorem isLiteral_zero :
  IsLiteral "0" (.int 0)
  := ⟨_, lexes_decimalDigits 0, by decide +kernel, by simp⟩

/-- The literal of no bytes. -/
theorem isLiteral_noBytes :
  IsLiteral ("X" ++ quoteText "") (.bytes [])
  := by
  refine ⟨.bytesLiteral [], ?_, rfl, by simp⟩
  have hchars : "X" ++ quoteText "" = String.ofList ['X', apostrophe, apostrophe] := by decide
  rw [hchars]
  apply lexes_of_next
  · apply opens_cons <;> decide
  · intro rest hrest
    obtain rfl | ⟨c, more, rfl, rfl | rfl | rfl⟩ := hrest.cases <;> rfl

/-- What existing rows get in a new column is the literal of a value other than null. -/
theorem exists_isLiteral_backfill (sqlType format : String) :
  ∃ v, IsLiteral (backfill sqlType format) v ∧ v ≠ .null
  := by
  unfold backfill
  dsimp only
  split
  · exact ⟨_, isLiteral_zero, by decide⟩
  split
  · exact ⟨_, isLiteral_quoteText _, by simp⟩
  split
  · exact ⟨_, isLiteral_quoteText _, by simp⟩
  split
  · exact ⟨_, isLiteral_noBytes, by simp⟩
  · exact ⟨_, isLiteral_quoteText _, by simp⟩

namespace Row

variable {row : Row}

theorem valueOf?_column (name : String) :
  row.valueOf? (CopyValue.column name).sql = row.named? name
  := by
  rw [valueOf?, CopyValue.sql, (lexes_quoteName name).tokens_eq]
  rfl

theorem valueOf?_literal {sql : String} {v : Value} (h : IsLiteral sql v) :
  row.valueOf? (CopyValue.literal sql).sql = some v
  := by
  obtain ⟨t, ht, hv, hname⟩ := h
  rw [valueOf?, CopyValue.sql, ht.tokens_eq]
  unfold evaluate?
  split
  · next heq =>
      cases heq
      exact absurd rfl (hname _)
  · next heq => cases heq
  · next heq =>
      cases heq
      exact hv
  · next hne => exact absurd rfl (hne t)

/-- A column is read, and a literal where it is null. -/
theorem valueOf?_columnOr (name : String) {fallback : String} {v : Value}
    (h : IsLiteral fallback v) :
  row.valueOf? (CopyValue.columnOr name fallback).sql =
    (row.named? name).map fun w => if w.isNull then v else w
  := by
  obtain ⟨t, ht, hv, -⟩ := h
  have htext : (CopyValue.columnOr name fallback).sql =
      "COALESCE" ++ ("(" ++ (quoteName name ++ ", " ++ fallback) ++ ")") := by
    apply String.toList_inj.mp
    simp [CopyValue.sql, toString]
  have htokens := Lexes.call (show isIdentifier "COALESCE" by decide)
    ((lexes_quoteName name).comma ht)
  rw [valueOf?, htext, htokens.tokens_eq]
  show (do let w ← row.named? name; if w.isNull then t.literal? else some w) = _
  rw [hv]
  cases row.named? name with
  | none => rfl
  | some w =>
      simp only [Option.map_some, Option.bind_eq_bind, Option.bind_some]
      split <;> rfl

end Row

/-! ### Rows of tables -/

theorem Row.named?_cons (column : String) (columns : Columns) (v : Value) (vs : List Value)
    (name : String) :
  Row.named? ⟨column :: columns, v :: vs⟩ name =
    if sameName name column then some v else Row.named? ⟨columns, vs⟩ name
  := by
  simp only [named?, at?, Columns.indexOf?, List.findIdx?_cons]
  split
  · rfl
  · cases columns.findIdx? (sameName name) <;> rfl

/-- The spelling of a name does not matter for columns of a row. -/
theorem Row.named?_congr {row : Row} {name other : String} (h : sameName name other) :
  row.named? name = row.named? other
  := by
  have hsame : sameName name = sameName other := by
    funext column
    simp only [sameName, sameName_iff.mp h]
  simp only [named?, Columns.indexOf?, hsame]

namespace TableShape

/-- A row of a table has a value for each column, and null only where the column allows it. -/
structure Holds (t : TableShape) (row : Row) : Prop where
  columns : row.columns = t.columns.map (·.name)
  values : List.Forall₂ (fun c v => c.nullable = false → v ≠ Value.null) t.columns row.values

variable {t : TableShape} {row : Row} {name : String}

theorem holds_iff :
  t.Holds row ↔ row.columns = t.columns.map (·.name) ∧
    List.Forall₂ (fun c v => c.nullable = false → v ≠ Value.null) t.columns row.values
  := ⟨fun h => ⟨h.columns, h.values⟩, fun ⟨hcolumns, hvalues⟩ => ⟨hcolumns, hvalues⟩⟩

/-- What a row has under a name is the value of the column that is found under it. -/
theorem Holds.cases (h : t.Holds row) (name : String) :
  (t.column? name = none ∧ row.named? name = none) ∨
    ∃ c v, t.column? name = some c ∧ row.named? name = some v ∧
      (c.nullable = false → v ≠ .null)
  := by
  obtain ⟨columns, values⟩ := row
  obtain ⟨rfl, hvalues⟩ := h
  unfold column?
  revert hvalues
  generalize t.columns = cs
  intro hvalues
  simp only at hvalues
  induction hvalues with
  | nil => exact .inl ⟨rfl, rfl⟩
  | @cons c v cs vs hcv _ ih =>
      rw [List.map_cons, Row.named?_cons, List.find?_cons, sameName_comm name]
      cases hname : sameName c.name name with
      | true => exact .inr ⟨c, v, rfl, rfl, hcv⟩
      | false => exact ih

/-- The row has a value for a column that the table has. -/
theorem Holds.exists_named? (h : t.Holds row) {c : ColumnShape} (hc : t.column? name = some c) :
  ∃ v, row.named? name = some v ∧ (c.nullable = false → v ≠ .null)
  := by
  obtain ⟨hnone, -⟩ | ⟨d, v, hd, hv, hnull⟩ := h.cases name
  · rw [hc] at hnone
    cases hnone
  · rw [hc] at hd
    cases hd
    exact ⟨v, hv, hnull⟩

/-- The row has no value for a column that the table lacks. -/
theorem Holds.named?_eq_none (h : t.Holds row) (hc : t.column? name = none) :
  row.named? name = none
  := by
  obtain ⟨-, hnone⟩ | ⟨d, v, hd, -⟩ := h.cases name
  · exact hnone
  · rw [hc] at hd
    cases hd

end TableShape

/-! ### Rows of the new table -/

/-- What a column has that nothing is copied into. -/
def ColumnShape.default (c : ColumnShape) : Value :=
  if !c.primaryKey && sameName c.name activeFlag then .int 1 else .null

/-- What a column of the new table has for a row of the old one. -/
def ColumnShape.filled? (c : ColumnShape) (copies : List ColumnCopy) (row : Row) : Option Value :=
  match copies.find? fun copy => sameName copy.column c.name with
  | some copy => row.valueOf? copy.value.sql
  | none => some c.default

/-- The row of the new table that a row of the old one becomes. -/
def TableShape.refilled? (t : TableShape) (copies : List ColumnCopy) (row : Row) : Option Row := do
  let values ← t.columns.mapM fun c => c.filled? copies row
  return ⟨t.columns.map (·.name), values⟩

/-! ### What is copied -/

/-- What a column takes from the old table: the column of its name, or else a literal if it
cannot be null. -/
def ColumnShape.taken? (c : ColumnShape) (live : TableShape) (format : String) :
    Option CopyValue :=
  match live.column? c.name with
  | some current => some (.ofColumn c current format)
  | none => if c.nullable then none else some (.literal (backfill c.sqlType format))

/-- What columns take from the old table. -/
def copiesOf (live : TableShape) (format : String) (cs : List ColumnShape) : List ColumnCopy :=
  cs.filterMap fun c => (c.taken? live format).map (ColumnCopy.mk c.name)

section

variable {target live : TableShape} {format : String} {c : ColumnShape} {cs : List ColumnShape}

/-- A new column gets a literal if it cannot be null, unless it would need a reference. -/
theorem copies_addedColumn
    (h : ∀ f ∈ (addedColumn target format c).findings, f.isDestructive) :
  (addedColumn target format c).copies =
    if c.nullable then [] else [⟨c.name, .literal (backfill c.sqlType format)⟩]
  := by
  unfold addedColumn at h ⊢
  by_cases hnull : c.nullable
  · rw [if_pos hnull, if_pos hnull]
  by_cases hreference : (target.reference? c.name).isSome
  · rw [if_neg hnull, if_pos hreference] at h
    cases h _ (List.mem_singleton_self _)
  · rw [if_neg hnull, if_neg hnull, if_neg hreference]

/-- A column that cannot be null any more takes a literal for null, unless it would need a
reference. -/
theorem copies_tightenedColumn {current : ColumnShape}
    (h : ∀ f ∈ (tightenedColumn target live format c current).findings, f.isDestructive) :
  (tightenedColumn target live format c current).copies =
    [⟨c.name, .columnOr current.name (backfill c.sqlType format)⟩]
  := by
  unfold tightenedColumn at h ⊢
  split at h
  · cases h _ (List.mem_singleton_self _)
  · next hfree => rw [if_neg hfree]

/-- A column against which nothing but lost values speaks takes what it can. -/
theorem copies_of_isDestructive
    (h : ∀ f ∈ (columnDifference target live format c).findings, f.isDestructive) :
  (columnDifference target live format c).copies =
    ((c.taken? live format).map (ColumnCopy.mk c.name)).toList
  := by
  unfold ColumnShape.taken?
  cases hcurrent : live.column? c.name with
  | none =>
      rw [columnDifference_of_none hcurrent] at h ⊢
      rw [copies_addedColumn h]
      split <;> rfl
  | some current =>
      rw [columnDifference_of_some hcurrent] at h ⊢
      rw [Difference.findings_append, List.forall_mem_append] at h
      simp only [Difference.copies_append, copies_changedType, List.nil_append]
      unfold CopyValue.ofColumn
      by_cases htight : current.nullable && !c.nullable
      · rw [if_pos htight] at h ⊢
        rw [if_pos htight, copies_tightenedColumn h.2]
        rfl
      · rw [if_neg htight, if_neg htight]
        rfl

/-- A table against whose change nothing but lost values speaks takes what its columns can. -/
theorem copies_tableDifference_of_isDestructive
    (h : ∀ f ∈ (tableDifference target live format).findings, f.isDestructive) :
  (tableDifference target live format).copies = copiesOf live format target.columns
  := by
  rw [findings_tableDifference, List.forall_mem_append] at h
  rw [copies_tableDifference, copiesOf, List.filterMap_eq_flatMap_toList]
  apply List.flatMap_congr
  intro c hc
  apply copies_of_isDestructive
  intro f hf
  apply h.1 f (List.mem_flatMap.mpr ⟨c, hc, hf⟩)

/-- A table that a plan makes anew takes what its columns can from a live one. -/
theorem Schema.copies_of_plan {target live : Schema} {options : PlanOptions}
    {plan : MigrationPlan} (hplan : target.plan live options = .ok plan) {t : TableShape}
    {copies : List ColumnCopy} {reasons : List Reason}
    (h : .rebuild t copies reasons ∈ plan.changes) :
  t ∈ target.shapes ∧ ∃ current, live.table? t.name = some current ∧
    copies = copiesOf current options.format t.columns
  := by
  obtain ⟨hallowed, rfl⟩ := Schema.plan_eq_ok_iff.mp hplan
  obtain ⟨ht, current, hcurrent, rfl⟩ := Schema.exists_of_rebuild_mem h
  refine ⟨ht, current, hcurrent, copies_tableDifference_of_isDestructive ?_⟩
  intro f hf
  have hfound : f ∈ target.findings live options.format := by
    apply List.mem_flatMap.mpr
    use t, ht
    simpa only [findingsFor, hcurrent] using hf
  exact (Bool.and_eq_true_iff.mp (hallowed f hfound)).2

/-- What is copied into a column of the table is what it takes. -/
theorem find?_copiesOf (hcs : DistinctNames ColumnShape.name cs) (hc : c ∈ cs) :
  ((copiesOf live format cs).find? fun copy => sameName copy.column c.name) =
    (c.taken? live format).map (ColumnCopy.mk c.name)
  := by
  obtain ⟨before, after, rfl⟩ := List.append_of_mem hc
  have hothers : ∀ ds ⊆ before ++ after,
      ((copiesOf live format ds).find? fun copy => sameName copy.column c.name) = none := by
    intro ds hds
    rw [List.find?_eq_none]
    intro copy hcopy
    obtain ⟨d, hd, hmap⟩ := List.mem_filterMap.mp hcopy
    obtain ⟨value, -, rfl⟩ := Option.map_eq_some_iff.mp hmap
    apply hcs.not_sameName_of_split (hds hd)
  have hbefore := hothers before (List.subset_append_left _ _)
  have hafter := hothers after (List.subset_append_right _ _)
  unfold copiesOf at hbefore hafter ⊢
  rw [List.filterMap_append, List.find?_append, hbefore, Option.none_or, List.filterMap_cons]
  cases c.taken? live format with
  | none => exact hafter
  | some value => simp

/-- A column is filled with its own value, or with a literal where it has none but cannot be
null. -/
theorem filled?_eq (hcs : DistinctNames ColumnShape.name cs) (hc : c ∈ cs) {row : Row}
    (hrow : live.Holds row) {v : Value} (hv : IsLiteral (backfill c.sqlType format) v) :
  c.filled? (copiesOf live format cs) row =
    some (match row.named? c.name with
      | some w => if w.isNull && !c.nullable then v else w
      | none => if c.nullable then c.default else v)
  := by
  rw [ColumnShape.filled?, find?_copiesOf hcs hc, ColumnShape.taken?]
  cases hcurrent : live.column? c.name with
  | none =>
      rw [hrow.named?_eq_none hcurrent]
      by_cases hnull : c.nullable
      · simp [hnull]
      · simp [hnull, Row.valueOf?_literal hv]
  | some current =>
      obtain ⟨w, hw, hrequired⟩ := hrow.exists_named? hcurrent
      have hname := List.find?_some hcurrent
      have hread : row.named? current.name = some w := (Row.named?_congr hname).trans hw
      simp only [hw, Option.map_some, CopyValue.ofColumn]
      by_cases htight : current.nullable && !c.nullable
      · obtain ⟨-, hstrict⟩ := Bool.and_eq_true_iff.mp htight
        rw [if_pos htight, Row.valueOf?_columnOr _ hv, hread, hstrict, Option.map_some,
          Bool.and_true]
      · -- A column that is not tightened is null only if the new one may be.
        have hkept : (w.isNull && !c.nullable) = false := by
          cases hnull : c.nullable with
          | true => exact Bool.and_false _
          | false =>
              have hcurrent : current.nullable = false := by simpa [hnull] using htight
              have hw := hrequired hcurrent
              cases w <;> simp_all [Value.isNull]
        rw [if_neg htight, Row.valueOf?_column, hread, hkept, if_neg (by decide)]

end

end EntityStore
