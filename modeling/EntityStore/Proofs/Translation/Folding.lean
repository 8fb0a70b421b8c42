import EntityStore.Proofs.Sql.Evaluation
import EntityStore.Proofs.Translation.Operands
import EntityStore.Proofs.Value.Order

/-!
# Folded comparisons

A comparison of two values is decided when it is translated, while one of a column with a value
is left to the database, which compares what is stored.  The two agree unless null is compared, by
`≠` with another value or by `≤` or `≥` with itself, or the values are stored as texts that have
another order than they have: timestamps, whose texts have no fractions of a second, and values of
different kinds with one text.
-/

namespace EntityStore

open Text Sql Calendar

namespace CompareOp

/-- Whether values in an order compare so. -/
def holds : CompareOp → Ordering → Bool
  | eq, o => o = .eq
  | ne, o => o ≠ .eq
  | lt, o => o = .lt
  | le, o => o ≠ .gt
  | gt, o => o = .gt
  | ge, o => o ≠ .lt

/-- The operation on stored values. -/
def operation : CompareOp → BinaryOp
  | eq => .equal
  | ne => .unequal
  | lt => .less
  | le => .atMost
  | gt => .greater
  | ge => .atLeast

/-- The operation on stored values in a comparison with a value. -/
def operationFor (op : CompareOp) (v : Value) : BinaryOp :=
  match op, v.isNull with
  | eq, true => .is
  | ne, true => .isNot
  | _, _ => op.operation

/-- The operator of a comparison with a value stands for its operation. -/
theorem operation?_operatorFor (op : CompareOp) (v : Value) :
  (op.operatorFor v).operation? = some (op.operationFor v)
  := by
  unfold operatorFor operationFor
  cases op <;> cases v.isNull <;> rfl

/-- A comparison with a value besides null has the operation of the comparison. -/
theorem operationFor_of_isNull {v : Value} (op : CompareOp) (h : v.isNull = false) :
  op.operationFor v = op.operation
  := by
  unfold operationFor
  rw [h]
  cases op <;> rfl

/-- The operations of comparisons go by the order of stored values. -/
theorem apply_operation (op : CompareOp) (v w : Value) :
  op.operation.apply v w = v.comparison op.holds w
  := by cases op <;> rfl

end CompareOp

namespace Value

variable {v w : Value}

/-- A stored truth value has that truth value. -/
theorem truth?_ofTruth (truth : Option Bool) :
  (ofTruth truth).truth? = truth
  := by
  obtain _ | b := truth
  · rfl
  · cases b <;> decide

/-- Besides numbers, only null is stored as null. -/
theorem isNull_kept (h : v.isDouble = false) :
  v.kept.isNull = v.isNull
  := by
  cases v with
  | double x => cases h
  | _ => rfl

/-- Other values are not null. -/
theorem isNull_eq_false (h : v ≠ null) :
  v.isNull = false
  := by
  cases v with
  | null => exact absurd rfl h
  | _ => rfl

/-- Only null is the same as null. -/
theorem same_null (h : v.isNull = false) :
  v.same .null = false
  := by
  cases v with
  | null => cases h
  | _ => rfl

/-- Null has no order with other values. -/
theorem compare?_null (h : v ≠ null) :
  v.compare? null = none ∧ null.compare? v = none
  := by
  cases v with
  | null => exact absurd rfl h
  | _ => exact ⟨rfl, rfl⟩

/-- What the database makes of a comparison in which null is no value. -/
theorem truth?_operation (op : CompareOp) (hv : v.isDouble = false) (hw : w.isDouble = false) :
  (op.operation.apply v.kept w.kept).truth? =
    if v.isNull || w.isNull then none else some (op.holds (v.kept.storedOrder w.kept))
  := by
  rw [CompareOp.apply_operation, comparison, isNull_kept hv, isNull_kept hw]
  split
  · rfl
  · apply truth?_ofTruth

end Value

namespace Translate

open Value

variable {op : CompareOp} {v w : Value} {b : Bool}

/-- Two values are judged by their order.  Those without an order are unequal. -/
theorem compareValues_eq_ok_iff :
  compareValues v op w = .ok b ↔
    (∃ o, v.compare? w = some o ∧ b = op.holds o) ∨
      (v.compare? w = none ∧ (op = .eq ∧ b = false ∨ op = .ne ∧ b = true))
  := by
  unfold compareValues
  cases op <;> cases v.compare? w <;> simp [CompareOp.holds, eq_comm]

/-- Comparisons that are judged in another way than the database does it. -/
inductive Misjudged : CompareOp → Value → Value → Prop
  /-- Null is at most and at least null, but the database knows nothing of null. -/
  | nulls {op : CompareOp} (hop : op = .le ∨ op = .ge) : Misjudged op .null .null
  /-- Null is unequal to other values, but the database knows nothing of null. -/
  | null {w : Value} (hw : w ≠ .null) : Misjudged .ne .null w
  /-- The texts of two timestamps may have another order than the timestamps. -/
  | timestamps {op : CompareOp} {s t : Timestamp}
      (h : op.holds (s.compare t) ≠ op.holds (compare s.defaultText t.defaultText)) :
      Misjudged op (.timestamp s) (.timestamp t)
  /-- Values of different kinds are unequal, but the same text may be stored for them. -/
  | texts {op : CompareOp} {v w : Value} (hop : op = .eq ∨ op = .ne) (h : SameText v w) :
      Misjudged op v w

/-- Two timestamps are misjudged where their order and that of their texts differ in the
comparison. -/
theorem misjudged_timestamps_iff {s t : Timestamp} :
  Misjudged op (.timestamp s) (.timestamp t) ↔
    op.holds (s.compare t) ≠ op.holds (compare s.defaultText t.defaultText)
  := by
  constructor
  · intro h
    cases h with
    | timestamps h => exact h
    | texts _ h => exact absurd rfl h.1
  · exact .timestamps

/-- Timestamps of years in four digits are misjudged where a fraction of a second decides, which
is not shown. -/
theorem misjudged_shown_iff {s t : Timestamp} (hs : s.InFourDigits) (ht : t.InFourDigits) :
  Misjudged op (.timestamp s) (.timestamp t) ↔
    op.holds (s.compare t) ≠ op.holds (s.compareShown t)
  := by rw [misjudged_timestamps_iff, Timestamp.compare_defaultText hs ht]

/-- Timestamps of years in four digits are not misjudged if they have no fractions of a second. -/
theorem not_misjudged_timestamps {s t : Timestamp} (hs : s.InFourDigits) (ht : t.InFourDigits)
    (hsnano : s.time.nanosecond % nanosPerSecond = 0)
    (htnano : t.time.nanosecond % nanosPerSecond = 0) :
  ¬ Misjudged op (.timestamp s) (.timestamp t)
  := by
  rw [misjudged_shown_iff hs ht, Timestamp.compareShown_eq hsnano htnano]
  exact not_not_intro rfl

/-- Null is misjudged against another value where it is unequal to that. -/
theorem misjudged_null_iff (hw : w ≠ .null) :
  Misjudged op .null w ↔ op = .ne
  := by
  constructor
  · intro h
    cases h with
    | nulls _ => exact absurd rfl hw
    | null _ => rfl
    | texts _ h =>
        obtain ⟨-, s, hs, -⟩ := h
        cases hs
  · rintro rfl
    exact .null hw

/-- Null is misjudged against itself where the two are ordered and may be equal. -/
theorem misjudged_nulls_iff :
  Misjudged op .null .null ↔ op = .le ∨ op = .ge
  := by
  constructor
  · intro h
    cases h with
    | nulls hop => exact hop
    | null hw => exact absurd rfl hw
    | texts _ h => exact absurd rfl h.1
  · exact .nulls

/-- A comparison with null behind the operator is judged as the database does it. -/
theorem not_misjudged_null (hv : v ≠ .null) :
  ¬ Misjudged op v .null
  := by
  intro h
  cases h with
  | nulls _ => exact hv rfl
  | null hw => exact hw rfl
  | texts _ h =>
      obtain ⟨-, s, -, hs⟩ := h
      cases hs

/-- Values that are neither null nor timestamps are misjudged where they have one text and are
compared for equality. -/
theorem misjudged_iff_sameText (hv : v ≠ .null)
    (htimestamps : ¬ ∃ s t, v = .timestamp s ∧ w = .timestamp t) :
  Misjudged op v w ↔ (op = .eq ∨ op = .ne) ∧ SameText v w
  := by
  constructor
  · intro h
    cases h with
    | nulls _ => exact absurd rfl hv
    | null _ => exact absurd rfl hv
    | timestamps _ => exact absurd ⟨_, _, rfl, rfl⟩ htimestamps
    | texts hop h => exact ⟨hop, h⟩
  · rintro ⟨hop, h⟩
    exact .texts hop h

/-- Null compared with a value besides null is judged as the database does it, unless it is
misjudged. -/
theorem folded_null_iff (hw : w ≠ .null) (hw' : w.isDouble = false)
    (h : compareValues .null op w = .ok b) :
  (b = true ↔ ((op.operationFor w).apply Value.null.kept w.kept).truth? = some true) ↔
    ¬ Misjudged op .null w
  := by
  rw [misjudged_null_iff hw, op.operationFor_of_isNull (isNull_eq_false hw),
    truth?_operation op rfl hw']
  rw [compareValues_eq_ok_iff, (compare?_null hw).2] at h
  obtain ⟨o, ⟨⟩, -⟩ | ⟨-, ⟨rfl, rfl⟩ | ⟨rfl, rfl⟩⟩ := h
  · simp [isNull]
  · simp [isNull]

/-- A value besides null compared with null is judged as the database does it. -/
theorem folded_against_null (hv : v ≠ .null) (hv' : v.isDouble = false)
    (h : compareValues v op .null = .ok b) :
  b = true ↔ ((op.operationFor .null).apply v.kept Value.null.kept).truth? = some true
  := by
  have hsame : v.kept.same null = false := by
    apply same_null
    rw [isNull_kept hv', isNull_eq_false hv]
  rw [compareValues_eq_ok_iff, (compare?_null hv).1] at h
  obtain ⟨o, ⟨⟩, -⟩ | ⟨-, ⟨rfl, rfl⟩ | ⟨rfl, rfl⟩⟩ := h
  · show _ ↔ (ofTruth (some (v.kept.same null))).truth? = some true
    rw [hsame, truth?_ofTruth, Option.some_inj]
  · show _ ↔ (ofTruth (some !(v.kept.same null))).truth? = some true
    rw [hsame, truth?_ofTruth, Option.some_inj, Bool.not_false]

/-- Values besides null are judged as the database does it, unless they are misjudged. -/
theorem judged_iff (hv : v ≠ .null) (hv' : v.isDouble = false) (hw : w ≠ .null)
    (hw' : w.isDouble = false) (h : compareValues v op w = .ok b) :
  b = op.holds (v.kept.storedOrder w.kept) ↔ ¬ Misjudged op v w
  := by
  rw [compareValues_eq_ok_iff] at h
  by_cases htimestamps : ∃ s t, v = .timestamp s ∧ w = .timestamp t
  · obtain ⟨s, t, rfl, rfl⟩ := htimestamps
    have horder : (timestamp s).kept.storedOrder (timestamp t).kept =
        compare s.defaultText t.defaultText := by
      rw [← String.toList_ofList (l := s.defaultText), ← String.toList_ofList (l := t.defaultText),
        ← compare_eq_toList]
      rfl
    obtain ⟨o, ho, rfl⟩ | ⟨hnone, -⟩ := h
    · cases ho
      rw [misjudged_timestamps_iff, horder, not_ne_iff]
    · cases hnone
  · rw [misjudged_iff_sameText hv htimestamps]
    obtain ⟨hsome, htext⟩ | ⟨hnone, htext⟩ :=
      (compare?_cases hv hv' hw').resolve_left htimestamps
    · obtain ⟨o, ho, rfl⟩ | ⟨hnone, -⟩ := h
      · cases ho.symm.trans hsome
        simp [htext]
      · cases hnone.symm.trans hsome
    · obtain ⟨o, ho, -⟩ | ⟨-, ⟨rfl, rfl⟩ | ⟨rfl, rfl⟩⟩ := h
      · cases ho.symm.trans hnone
      · simp [CompareOp.holds, htext]
      · simp [CompareOp.holds, htext]

/-- A comparison that is decided holds exactly if the database takes it for true, unless it is
misjudged. -/
theorem folded_iff (hv : v.isDouble = false) (hw : w.isDouble = false)
    (h : compareValues v op w = .ok b) :
  (b = true ↔ ((op.operationFor w).apply v.kept w.kept).truth? = some true) ↔ ¬ Misjudged op v w
  := by
  by_cases hvnull : v = null
  · subst hvnull
    by_cases hwnull : w = null
    · subst hwnull
      rw [misjudged_nulls_iff]
      cases op <;> cases h <;> decide
    · exact folded_null_iff hwnull hw h
  · by_cases hwnull : w = null
    · subst hwnull
      exact iff_of_true (folded_against_null hvnull hv h) (not_misjudged_null hvnull)
    · rw [op.operationFor_of_isNull (isNull_eq_false hwnull), truth?_operation op hv hw,
        isNull_eq_false hvnull, isNull_eq_false hwnull, ← judged_iff hvnull hv hwnull hw h]
      simp

/-! ### Comparisons with columns -/

variable {scope : Scope} {name column : String} {type : ColumnType}

/-- A comparison of two values comes to what it is judged. -/
theorem predicate_values (h : compareValues v op w = .ok b) (t : Trail) :
  predicate scope (.compare (.value v) op (.value w)) t = (.ok (.constant b), t)
  := by
  rw [predicate, comparison, side, side]
  simp only [pure_bind, h]
  rfl

/-- A comparison of a column with a value comes to one with the next parameter. -/
theorem predicate_column (hcolumn : scope.descriptor.resolve? name = some (column, type))
    (op : CompareOp) (v : Value) (t : Trail) :
  predicate scope (.compare (.column name) op (.value v)) t =
    (.ok (.compare (.column scope.tableAlias column) (operatorFor op v)
        (.param (column ++ decimalText t.counter))),
      { t with
        counter := t.counter + 1
        params := t.params ++ [⟨column ++ decimalText t.counter, v⟩] })
  := by
  have hresolve : resolve scope name = return (column, type) := by
    rw [resolve, hcolumn]
  rw [predicate, comparison, side, side, hresolve]
  rfl

/-- The tree of a column compared with a value in a parameter. -/
def columnTree (scope : Scope) (column : String) (op : CompareOp) (v : Value) (slot : String) :
    Tree :=
  .binary (op.operatorFor v) (.leaf (.ofColumn scope.tableAlias column)) (.leaf (.parameter slot))

/-- A column compared with a value is read so, and in no other way. -/
theorem parses_column_iff (hscope : scope.Named)
    (hcolumn : scope.descriptor.resolve? name = some (column, type)) (op : CompareOp) (v : Value)
    (n : Nat) {T : Tree} :
  Parses 1 (tokens (Condition.compare (.column scope.tableAlias column) (operatorFor op v)
      (.param (column ++ decimalText n))).text) T ↔
    T = columnTree scope column op v ("@" ++ (column ++ decimalText n))
  := by
  let x : Form := .binary (op.operatorFor v) (.leaf (.ofColumn scope.tableAlias column))
    (.leaf (.parameter ("@" ++ (column ++ decimalText n))))
  have hwrites : Writes (Condition.compare (.column scope.tableAlias column) (operatorFor op v)
      (.param (column ++ decimalText n))).text x := by
    apply writes_compare (lexes_operatorFor op v)
    · rw [Expr.text]
      exact hscope.writes_column hcolumn
    · rw [Expr.text]
      exact hscope.writes_parameter (.inr ⟨name, type, hcolumn⟩) n
  have htight : x.Tight := (Form.firm_leaf _).binary _ (Form.firm_leaf _)
  have hread : Parses 1 x.tokens x.tree := htight.parses (one_le_level_operatorFor op v)
  rw [hwrites.tokens_eq]
  constructor
  · intro h
    exact h.unique hread
  · rintro rfl
    exact hread

/-- A column compared with a value has the value of the operation on what is stored. -/
theorem value?_columnTree {given : Leaf → Option Value} {a p : Value} {slot : String}
    (hcolumn : given (.ofColumn scope.tableAlias column) = some a)
    (hslot : given (.parameter slot) = some p) :
  (columnTree scope column op v slot).value? given = some ((op.operationFor v).apply a p)
  := by
  apply Tree.value?_binary (op.operation?_operatorFor v)
  · rw [Tree.value?_eq_some_iff, Tree.values?]
    cases halias : scope.tableAlias <;> simp_all [Leaf.ofColumn, Leaf.value?]
  · rw [Tree.value?_eq_some_iff, Tree.values?, Leaf.value?, hslot]
    all_goals simp

/-- A comparison of two values that are no double-precision numbers comes to a constant if it is
decided.  The comparison of a column with the second one is issued with that as the only
parameter, and is read as one expression.  The constant is true exactly if the database takes the
comparison for true in a row whose column holds the first value, unless the comparison is
misjudged. -/
theorem folded_as_compared_iff (hscope : scope.Named)
    (hcolumn : scope.descriptor.resolve? name = some (column, type)) (hv : v.isDouble = false)
    (hw : w.isDouble = false) (h : compareValues v op w = .ok b) (t : Trail) :
  predicate scope (.compare (.value v) op (.value w)) t = (.ok (.constant b), t) ∧
    ∃ c p t' T, predicate scope (.compare (.column name) op (.value w)) t = (.ok c, t') ∧
      t'.params = t.params ++ [p] ∧ p.value = w ∧ (∀ T', Parses 1 (tokens c.text) T' ↔ T' = T) ∧
      ∀ given : Leaf → Option Value,
        given (.ofColumn scope.tableAlias column) = v.stored? defaultFormat →
        given (.parameter p.slot) = p.value.stored? defaultFormat →
        ∃ answer, T.value? given = some answer ∧
          ((b = true ↔ answer.truth? = some true) ↔ ¬ Misjudged op v w)
  := by
  use predicate_values h t
  refine ⟨_, _, _, _, predicate_column hcolumn op w t, rfl, rfl,
    fun T' => parses_column_iff hscope hcolumn op w t.counter, ?_⟩
  intro given hleft hright
  rw [stored?_default] at hleft hright
  exact ⟨_, value?_columnTree hleft hright, folded_iff hv hw h⟩

/-- Identifiers are decided by their bytes and compared by their texts. -/
theorem identifiers_folded :
  let d : Descriptor :=
    { table := "Item", typeName := "Item"
      columns := [{ name := "Id", type := .integer }, { name := "Key", type := .guid }] }
  let scope : Scope := ⟨d, some "t0", false⟩
  let u : Uuid := ⟨List.replicate 16 9, rfl⟩
  let w : Uuid := ⟨List.replicate 16 10, rfl⟩
  let t : Trail := { counter := 3 }
  scope.Named ∧ d.resolve? "key" = some ("Key", .guid) ∧ (uuid u).isDouble = false ∧
    (uuid w).isDouble = false ∧ compareValues (.uuid u) .lt (.uuid w) = .ok true ∧
    predicate scope (.compare (.value (.uuid u)) .lt (.value (.uuid w))) t =
      (.ok (.constant true), t) ∧
    ∃ c p t' T, predicate scope (.compare (.column "key") .lt (.value (.uuid w))) t =
        (.ok c, t') ∧
      t'.params = [] ++ [p] ∧ p.value = .uuid w ∧ (∀ T', Parses 1 (tokens c.text) T' ↔ T' = T) ∧
      ∀ given : Leaf → Option Value,
        given (.ofColumn scope.tableAlias "Key") = (uuid u).stored? defaultFormat →
        given (.parameter p.slot) = p.value.stored? defaultFormat →
        ∃ answer, T.value? given = some answer ∧
          ((true = true ↔ answer.truth? = some true) ↔ ¬ Misjudged .lt (.uuid u) (.uuid w))
  := by
  intro d scope u w t
  have hscope : scope.Named := by
    constructor
    · simp [scope, d]
      decide
    · simp [scope]
      decide
  have hcolumn : d.resolve? "key" = some ("Key", .guid) := by decide
  have h : compareValues (.uuid u) .lt (.uuid w) = .ok true := by rfl
  exact ⟨hscope, hcolumn, rfl, rfl, h, folded_as_compared_iff hscope hcolumn rfl rfl h t⟩

/-- Null is unequal to a number if the two are compared at once, but in a row whose column is null
the database knows nothing of the comparison with the number. -/
theorem null_unequal_misjudged :
  let d : Descriptor :=
    { table := "Item", typeName := "Item", columns := [{ name := "Id", type := .integer }] }
  let given : Leaf → Option Value := fun l =>
    if l = .word "Id" then Value.null.stored? defaultFormat else
    if l = .parameter "@Id0" then (int 1).stored? defaultFormat else none
  let T : Tree := .binary .unequal (.leaf (.word "Id")) (.leaf (.parameter "@Id0"))
  (Predicate.compare (.value .null) .ne (.value (.int 1))).compile {} d none 0 =
      ⟨.ok ⟨"1 = 1", []⟩, [], 0, []⟩ ∧
    (Predicate.compare (.column "Id") .ne (.value (.int 1))).compile {} d none 0 =
      ⟨.ok ⟨"Id != @Id0", [⟨"Id0", .int 1⟩]⟩, [], 1, []⟩ ∧
    (∀ T', Parses 1 (tokens "Id != @Id0") T' ↔ T' = T) ∧
    T.value? given = some .null ∧ Value.null.truth? = none
  := by
  intro d given T
  have hscope : Scope.Named ⟨d, none, false⟩ := by
    constructor
    · simp [d]
      decide
    · simp
  have hcolumn : d.resolve? "Id" = some ("Id", .integer) := by decide
  refine ⟨rfl, rfl, fun T' => ?_, rfl, rfl⟩
  exact parses_column_iff hscope hcolumn .ne (.int 1) 0

end Translate

end EntityStore
