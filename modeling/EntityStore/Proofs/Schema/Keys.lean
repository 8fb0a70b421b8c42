import EntityStore.Proofs.Schema.Required
import Mathlib.Data.List.Nodup

/-!
# Keys of rows in tables that are made anew

The key and the activation flag of a new table are filled like all other columns: with the value
of the old row, or with zero where there is none.  So keys stay distinct exactly if the old table
tells its rows apart by the column of that name, and rows of a table without the flag end up
inactive, whatever the flag is by default.
-/

namespace EntityStore

open Text Sql

/-! ### Rows that tables can have -/

namespace Row

/-- What a row has under a name, or zero if that is null or there is nothing. -/
def orZero (row : Row) (name : String) : Value :=
  match row.named? name with
  | some v => if v.isNull then .int 0 else v
  | none => .int 0

/-- Two rows have the same values, none of them null, in all of some columns. -/
def Clashes (row other : Row) (names : List String) : Prop :=
  names ≠ [] ∧ ∀ name ∈ names, ∃ v, v ≠ .null ∧ row.named? name = some v ∧
    other.named? name = some v

end Row

namespace TableShape

/-- The columns by which rows are told apart: those of the key, and those of each unique
constraint. -/
def keys (t : TableShape) : List (List String) :=
  (t.columns.filter (·.primaryKey)).map (·.name) :: t.uniques.map (·.columns)

/-- A table can have rows together: it holds each, and no two clash in columns that tell rows
apart. -/
structure Stores (t : TableShape) (rows : List Row) : Prop where
  holds : ∀ row ∈ rows, t.Holds row
  apart : rows.Pairwise fun row other => ∀ names ∈ t.keys, ¬ row.Clashes other names

/-- Rows of a table are told apart by a column of a name, which is never null. -/
def IdentifiesBy (t : TableShape) (name : String) : Prop :=
  (∃ c, t.column? name = some c ∧ c.nullable = false) ∧
    ∃ names ∈ t.keys, names ≠ [] ∧ ∀ other ∈ names, sameName other name

variable {t : TableShape} {name : String}

/-- If rows are told apart by a column, then no two of them have the same in it. -/
theorem IdentifiesBy.nodup (h : t.IdentifiesBy name) {rows : List Row} (hrows : t.Stores rows) :
  (rows.map (·.orZero name)).Nodup
  := by
  obtain ⟨⟨c, hc, hrequired⟩, names, hnames, hne, hsame⟩ := h
  rw [List.Nodup, List.pairwise_map]
  apply hrows.apart.imp_of_mem
  intro row other hrow hother hapart heq
  obtain ⟨v, hv, hnull⟩ := (hrows.holds row hrow).exists_named? hc
  obtain ⟨w, hw, hwnull⟩ := (hrows.holds other hother).exists_named? hc
  have hown : ∀ {r : Row} {u : Value}, r.named? name = some u → u ≠ .null →
      r.orZero name = u := by
    intro r u hu hne
    rw [Row.orZero, hu]
    cases u <;> first | rfl | exact absurd rfl hne
  rw [hown hv (hnull hrequired), hown hw (hwnull hrequired)] at heq
  subst heq
  apply hapart names hnames
  refine ⟨hne, fun n hn => ⟨v, hnull hrequired, ?_, ?_⟩⟩
  · rw [Row.named?_congr (hsame n hn), hv]
  · rw [Row.named?_congr (hsame n hn), hw]

/-! ### Rows that only differ elsewhere -/

/-- A row that has a number in all columns, but nothing in those of a name, or always the same
where null is not allowed. -/
def probe (t : TableShape) (name : String) (n : Int64) : Row where
  columns := t.columns.map (·.name)
  values := t.columns.map fun c =>
    if sameName c.name name then if c.nullable then .null else .int 1 else .int n

end TableShape

/-- What a row has under a name is what the first column of the name has got. -/
theorem Row.named?_of_mapM {f : ColumnShape → Option Value} {cs : List ColumnShape}
    {values : List Value} (h : cs.mapM f = some values) (name : String) :
  Row.named? ⟨cs.map (·.name), values⟩ name =
    (cs.find? fun c => sameName c.name name).bind f
  := by
  induction cs generalizing values with
  | nil => rfl
  | cons c cs ih =>
      rw [List.mapM_cons] at h
      obtain ⟨v, hv, hrest⟩ := Option.bind_eq_some_iff.mp h
      obtain ⟨vs, hvs, heq⟩ := Option.bind_eq_some_iff.mp hrest
      cases heq
      rw [List.map_cons, Row.named?_cons, List.find?_cons, sameName_comm name]
      cases sameName c.name name with
      | true => exact hv.symm
      | false => exact ih hvs

namespace TableShape

variable {t : TableShape} {name : String}

theorem holds_probe (t : TableShape) (name : String) (n : Int64) :
  t.Holds (t.probe name n)
  := by
  refine ⟨rfl, ?_⟩
  rw [probe, List.forall₂_map_right_iff, List.forall₂_same]
  intro c _ hrequired
  rw [hrequired]
  split <;> simp

theorem named?_probe (t : TableShape) (name : String) (n : Int64) (other : String) :
  (t.probe name n).named? other = (t.column? other).map fun c =>
    if sameName c.name name then if c.nullable then .null else .int 1 else .int n
  := by
  rw [probe, Row.named?_of_mapM (List.mapM_pure (m := Option)), column?, Option.map_eq_bind]
  rfl

/-- Unless rows are told apart by a column, a table can have two with the same in it. -/
theorem exists_stores (h : ¬ t.IdentifiesBy name) :
  ∃ row other, t.Stores [row, other] ∧ row.orZero name = other.orZero name
  := by
  refine ⟨t.probe name 1, t.probe name 2, ⟨?_, ?_⟩, ?_⟩
  · simp [holds_probe]
  · rw [List.pairwise_pair]
    intro names hnames hclash
    obtain ⟨hne, hall⟩ := hclash
    apply h
    -- A clash is only possible in columns of that name, which are never null.
    have hcolumns : ∀ n ∈ names, ∃ c, t.column? n = some c ∧ sameName c.name name ∧
        c.nullable = false := by
      intro n hn
      obtain ⟨v, hnull, hv, hw⟩ := hall n hn
      rw [named?_probe] at hv hw
      obtain ⟨c, hc, hvc⟩ := Option.map_eq_some_iff.mp hv
      rw [hc, Option.map_some, ← hvc] at hw
      refine ⟨c, hc, ?_⟩
      by_cases hsame : sameName c.name name
      · refine ⟨hsame, ?_⟩
        cases hloose : c.nullable with
        | false => rfl
        | true =>
            rw [if_pos hsame, if_pos hloose] at hvc
            exact absurd hvc.symm hnull
      · simp [hsame] at hw
    have hsame : ∀ n ∈ names, sameName n name := by
      intro n hn
      obtain ⟨c, hc, hname, -⟩ := hcolumns n hn
      have hfound : sameName c.name n := by simpa using List.find?_some hc
      rw [sameName_comm] at hfound
      exact sameName_trans hfound hname
    refine ⟨?_, names, hnames, hne, hsame⟩
    obtain ⟨n, hn⟩ := List.exists_mem_of_ne_nil _ hne
    obtain ⟨c, hc, -, hrequired⟩ := hcolumns n hn
    use c, (column?_congr (hsame n hn)).symm.trans hc
  · unfold Row.orZero
    rw [named?_probe, named?_probe]
    cases hc : t.column? name with
    | none => rfl
    | some c =>
        have hname : sameName c.name name := by simpa using List.find?_some hc
        simp [hname]

end TableShape

/-! ### Rows of the new table -/

section

variable {live t : TableShape} {format : String} {c : ColumnShape} {cs : List ColumnShape}

/-- What a row of the new table has under a name is what the column is filled with. -/
theorem named?_of_refilled? {copies : List ColumnCopy} {row new : Row} {name : String}
    (h : t.refilled? copies row = some new) :
  new.named? name = (t.column? name).bind fun c => c.filled? copies row
  := by
  obtain ⟨values, hvalues, heq⟩ := Option.bind_eq_some_iff.mp h
  cases heq
  exact Row.named?_of_mapM hvalues name

/-- A number that cannot be null is that of the old row, or zero. -/
theorem filled?_number (hcs : DistinctNames ColumnShape.name cs) (hc : c ∈ cs) {row : Row}
    (hrow : live.Holds row) (hrequired : c.nullable = false)
    (hnumber : numberTypes.contains (baseType c.sqlType)) :
  c.filled? (copiesOf live format cs) row = some (row.orZero c.name)
  := by
  have hzero : IsLiteral (backfill c.sqlType format) (.int 0) := by
    rw [backfill, if_pos hnumber]
    exact isLiteral_zero
  rw [filled?_eq hcs hc hrow hzero, hrequired, Row.orZero]
  cases row.named? c.name with
  | none => rfl
  | some w => simp

/-- A number that cannot be null is that of the old row, or zero, in the new row. -/
theorem named?_number {row new : Row} {name : String}
    (hcs : DistinctNames ColumnShape.name t.columns) (hc : c ∈ t.columns) (hname : c.name = name)
    (hrow : live.Holds row) (hrequired : c.nullable = false)
    (hnumber : numberTypes.contains (baseType c.sqlType))
    (hnew : t.refilled? (copiesOf live format t.columns) row = some new) :
  new.named? name = some (row.orZero name)
  := by
  subst hname
  have hfound : t.column? c.name = some c :=
    (TableShape.column?_eq_some_iff hcs).mpr ⟨hc, sameName_refl _⟩
  rw [named?_of_refilled? hnew, hfound]
  apply filled?_number hcs hc hrow hrequired hnumber

end

/-- The key and the activation flag are numbers, none of them null. -/
theorem Descriptor.isNumber_implicit :
  (keyShape.nullable = false ∧ numberTypes.contains (baseType keyShape.sqlType)) ∧
    activeShape.nullable = false ∧ numberTypes.contains (baseType activeShape.sqlType)
  := by decide +kernel

/-- What holds of each result is what holds of the list of results. -/
theorem map_eq_of_mapM {α β γ : Type} {f : α → Option β} {g : β → γ} {h : α → γ} {as : List α}
    {bs : List β} (hmap : as.mapM f = some bs)
    (hg : ∀ a ∈ as, ∀ b, f a = some b → g b = h a) :
  bs.map g = as.map h
  := by
  induction as generalizing bs with
  | nil =>
      cases hmap
      rfl
  | cons a as ih =>
      rw [List.mapM_cons] at hmap
      obtain ⟨b, hb, hrest⟩ := Option.bind_eq_some_iff.mp hmap
      obtain ⟨cs, hcs, heq⟩ := Option.bind_eq_some_iff.mp hrest
      cases heq
      obtain ⟨hfirst, hothers⟩ := List.forall_mem_cons.mp hg
      rw [List.map_cons, List.map_cons, hfirst b hb, ih hcs hothers]

/-! ### Plans -/

/-- When a plan makes a table anew, the key and the activation flag of each row are those of the
old row, or zero where there are none: a row of a table without the flag becomes inactive.  So
all keys are distinct, whatever rows there are, exactly if the live table tells its rows apart by
the column of that name. -/
theorem keys_distinct_iff {m : Model} {r : Registry} {target live : Schema}
    {options : PlanOptions} {plan : MigrationPlan}
    (hbuild : Registry.build m = .ok r) (htarget : r.target = .ok target)
    (hcolumns : ∀ t ∈ target.shapes, DistinctNames ColumnShape.name t.columns)
    (hplan : target.plan live options = .ok plan) {t : TableShape} {copies : List ColumnCopy}
    {reasons : List Reason} (hrebuild : .rebuild t copies reasons ∈ plan.changes) :
  ∃ current, live.table? t.name = some current ∧
    (∀ row, current.Holds row → ∃ new, t.refilled? copies row = some new ∧
      new.named? primaryKey = some (row.orZero primaryKey) ∧
      new.named? activeFlag = some (row.orZero activeFlag) ∧
      (current.column? activeFlag = none → new.named? activeFlag = some (.int 0))) ∧
    ((∀ rows news, current.Stores rows → rows.mapM (t.refilled? copies) = some news →
        (news.map (·.named? primaryKey)).Nodup) ↔
      current.IdentifiesBy primaryKey)
  := by
  obtain ⟨ht, current, hcurrent, rfl⟩ := Schema.copies_of_plan hplan hrebuild
  obtain ⟨hkey, hactive⟩ := Registry.mem_columns_of_target hbuild htarget ht
  have hdistinct := hcolumns t ht
  obtain ⟨⟨hkeyNull, hkeyNumber⟩, hactiveNull, hactiveNumber⟩ := Descriptor.isNumber_implicit
  have hkeys : ∀ row new, current.Holds row →
      t.refilled? (copiesOf current options.format t.columns) row = some new →
      new.named? primaryKey = some (row.orZero primaryKey) := by
    intro row new hrow hnew
    apply named?_number hdistinct hkey rfl hrow hkeyNull hkeyNumber hnew
  refine ⟨current, hcurrent, ?_, ?_, ?_⟩
  · intro row hrow
    obtain ⟨new, hnew, -⟩ := exists_refilled? options.format hdistinct hrow
    have hflag : new.named? activeFlag = some (row.orZero activeFlag) :=
      named?_number hdistinct hactive rfl hrow hactiveNull hactiveNumber hnew
    refine ⟨new, hnew, hkeys _ _ hrow hnew, hflag, fun hnone => ?_⟩
    rw [hflag, Row.orZero, hrow.named?_eq_none hnone]
  · intro hnodup
    by_contra hshared
    obtain ⟨row, other, hstores, heq⟩ := TableShape.exists_stores hshared
    have hrow := hstores.holds row (by simp)
    have hother := hstores.holds other (by simp)
    obtain ⟨new, hnew, -⟩ := exists_refilled? options.format hdistinct hrow
    obtain ⟨last, hlast, -⟩ := exists_refilled? options.format hdistinct hother
    have hnews := hnodup [row, other] [new, last] hstores (by simp [hnew, hlast])
    simp [hkeys _ _ hrow hnew, hkeys _ _ hother hlast, heq] at hnews
  · intro hidentified rows news hstores hnews
    have heq : news.map (·.named? primaryKey) = rows.map (some ∘ (·.orZero primaryKey)) :=
      map_eq_of_mapM hnews fun row hrow new hnew =>
        hkeys _ _ (hstores.holds row hrow) hnew
    rw [heq, ← List.map_map, List.nodup_map_iff (Option.some_injective _)]
    apply hidentified.nodup hstores

/-- Items that get a name keep their keys, which are distinct. -/
theorem items_keep_keys :
  let live := Schema.empty.put unnamedItems
  let rows : List Row := [⟨["Id", "Name", "IsActive"], [.int 7, .null, .int 1]⟩,
    ⟨["Id", "Name", "IsActive"], [.int 8, .null, .int 0]⟩]
  ∃ r plan copies reasons, Registry.build ⟨[item], []⟩ = .ok r ∧ r.target = .ok items ∧
    items.plan live {} = .ok plan ∧ .rebuild itemTable copies reasons ∈ plan.changes ∧
    unnamedItems.Stores rows ∧ ∃ news, rows.mapM (itemTable.refilled? copies) = some news ∧
      (news.map (·.named? primaryKey)).Nodup
  := by
  intro live rows
  obtain ⟨r, hbuild, htarget⟩ := target_item
  let plan : MigrationPlan := ⟨items.changes live Calendar.defaultFormat, []⟩
  have hplan : items.plan live {} = .ok plan := by decide +kernel
  let difference := tableDifference itemTable unnamedItems Calendar.defaultFormat
  have hmem : .rebuild itemTable difference.copies difference.reasons ∈ plan.changes := by
    decide +kernel
  have hstores : unnamedItems.Stores rows := by
    refine ⟨by simp [rows, TableShape.holds_iff, unnamedItems], ?_⟩
    rw [List.pairwise_pair]
    rintro names hnames ⟨-, hall⟩
    obtain rfl : names = ["Id"] := by simpa [TableShape.keys, unnamedItems] using hnames
    obtain ⟨v, -, hv, hw⟩ := hall "Id" (by simp)
    exact absurd (hv.trans hw.symm) (by decide +kernel)
  obtain ⟨current, hcurrent, -, hdistinct⟩ :=
    keys_distinct_iff hbuild htarget (by decide +kernel) hplan hmem
  have hlive : live.table? itemTable.name = some unnamedItems := by decide +kernel
  obtain rfl := Option.some.inj (hlive.symm.trans hcurrent)
  have hidentified : unnamedItems.IdentifiesBy primaryKey :=
    ⟨⟨⟨"Id", "INTEGER", false, true⟩, by decide +kernel, rfl⟩, ["Id"], by decide +kernel,
      by simp, by decide +kernel⟩
  have hnews : ∃ news, rows.mapM (itemTable.refilled? difference.copies) = some news :=
    Option.isSome_iff_exists.mp (by decide +kernel)
  obtain ⟨news, hnews⟩ := hnews
  exact ⟨r, plan, _, _, hbuild, htarget, hplan, hmem, hstores, news, hnews,
    hdistinct.mpr hidentified rows news hstores hnews⟩

/-- Items that were never made active or inactive. -/
def unflaggedItems : TableShape where
  name := "Item"
  columns := [⟨"Id", "INTEGER", false, true⟩, ⟨"Name", "TEXT", false, false⟩]

/-- Items without a key. -/
def keylessItems : TableShape where
  name := "Item"
  columns := [⟨"Name", "TEXT", false, false⟩, ⟨"IsActive", "BOOLEAN", false, false⟩]

/-- An item of a table without the flag becomes inactive, and two items of a table without the
key get the same key. -/
theorem item_inactive_and_keys_shared :
  let unflagged : Row := ⟨["Id", "Name"], [.int 7, .text "a"]⟩
  let keyless (name : String) : Row := ⟨["Name", "IsActive"], [.text name, .int 1]⟩
  ∃ r, Registry.build ⟨[item], []⟩ = .ok r ∧ r.target = .ok items ∧
    (∀ t ∈ items.shapes, DistinctNames ColumnShape.name t.columns) ∧
    (∃ plan copies reasons, items.plan (Schema.empty.put unflaggedItems) {} = .ok plan ∧
      plan.changes = [.rebuild itemTable copies reasons] ∧
      unflaggedItems.Stores [unflagged] ∧
      (itemTable.refilled? copies unflagged).map (·.values) =
        some [.int 7, .text "a", .int 0]) ∧
    ∃ plan copies reasons, items.plan (Schema.empty.put keylessItems) {} = .ok plan ∧
      plan.changes = [.rebuild itemTable copies reasons] ∧
      keylessItems.Stores [keyless "a", keyless "b"] ∧
      ["a", "b"].map (fun name => (itemTable.refilled? copies (keyless name)).map (·.values)) =
        [some [.int 0, .text "a", .int 1], some [.int 0, .text "b", .int 1]]
  := by
  intro unflagged keyless
  obtain ⟨r, hbuild, htarget⟩ := target_item
  let planned (t : TableShape) : MigrationPlan :=
    ⟨items.changes (Schema.empty.put t) Calendar.defaultFormat, []⟩
  let difference (t : TableShape) := tableDifference itemTable t Calendar.defaultFormat
  have hunflagged : unflaggedItems.Stores [unflagged] :=
    ⟨by simp [unflagged, TableShape.holds_iff, unflaggedItems], List.pairwise_singleton _ _⟩
  have hkeyless : keylessItems.Stores [keyless "a", keyless "b"] := by
    refine ⟨by simp [keyless, TableShape.holds_iff, keylessItems], ?_⟩
    rw [List.pairwise_pair]
    rintro names hnames ⟨hne, -⟩
    exact hne (by simpa [TableShape.keys, keylessItems] using hnames)
  exact ⟨r, hbuild, htarget, by decide +kernel,
    ⟨planned unflaggedItems, (difference unflaggedItems).copies,
      (difference unflaggedItems).reasons, by decide +kernel, by decide +kernel, hunflagged,
      by decide +kernel⟩,
    ⟨planned keylessItems, (difference keylessItems).copies,
      (difference keylessItems).reasons, by decide +kernel, by decide +kernel, hkeyless,
      by decide +kernel⟩⟩

end EntityStore
