import EntityStore.Join.Statement

/-!
# Rows of joins

What the statement of a join returns is worked out clause by clause.  A clause pairs the rows that
have been joined with those of its table, and keeps rows of either side that nothing is paired
with if its kind says so.  Whatever tables contain, a row of the result is shown by one of the
tables that have a single row of ones, so that a statement without a row there never has one.
-/

namespace EntityStore

open Text Sql

/-! ### Rows -/

/-- The values of a row of a table under the names of columns. -/
abbrev TableRow := String → Value

/-- Rows that are joined, under the aliases of their tables.  A table without a row among them has
null in all of its columns. -/
abbrev JoinedRow := List (String × TableRow)

/-- The value in a column of a table under an alias. -/
def JoinedRow.at (x : JoinedRow) (tableAlias column : String) : Value :=
  match x.lookup tableAlias with
  | some row => row column
  | none => .null

/-- What tables contain, and which conditions rows meet.  It is left open when values are equal
and what filters accept, but for null, which is equal to nothing, and `1 != 1`, which accepts
nothing. -/
structure Contents where
  rows : String → List TableRow
  equal : Value → Value → Bool
  accepts : Fragment → JoinedRow → Bool
  equal_null : ∀ v, equal .null v = false ∧ equal v .null = false
  accepts_never : ∀ f x, f.isAlwaysFalse = true → accepts f x = false

/-- Whether joined rows have equal values in two columns. -/
def Sql.Equality.holds (c : Contents) (x : JoinedRow) : Equality → Bool
  | .columns left leftColumn right rightColumn =>
    c.equal (x.at left leftColumn) (x.at right rightColumn)
  | .never => false

/-- Whether joined rows are paired.  A comparison with null is not true, and neither is what is
combined from comparisons that are not. -/
def Pairing.holds (c : Contents) (x : JoinedRow) : Pairing → Bool
  | .by e => e.holds c x
  | .and before e => before.holds c x && e.holds c x
  | .or before e => before.holds c x || e.holds c x

/-- Whether rows that nothing is paired with are kept on the left. -/
def JoinKind.keepsLeft : JoinKind → Bool
  | .left | .full => true
  | .inner | .right => false

/-- Whether rows that nothing is paired with are kept on the right. -/
def JoinKind.keepsRight : JoinKind → Bool
  | .right | .full => true
  | .inner | .left => false

namespace JoinClause

/-- Joined rows with one of the table of a clause. -/
def extend (clause : JoinClause) (x : JoinedRow) (row : TableRow) : JoinedRow :=
  x ++ [(clause.binding.tableAlias, row)]

/-- Whether joined rows meet the condition of a clause, if it has one. -/
def pairs (c : Contents) (clause : JoinClause) (x : JoinedRow) : Bool :=
  clause.pairing.all fun p => p.holds c x

/-- The rows of the table of a clause. -/
def tableRows (c : Contents) (clause : JoinClause) : List TableRow :=
  c.rows clause.binding.descriptor.table

/-- The rows after a clause. -/
def join (c : Contents) (clause : JoinClause) (xs : List JoinedRow) : List JoinedRow :=
  (xs.flatMap fun x => ((clause.tableRows c).map (clause.extend x)).filter (clause.pairs c)) ++
  (if clause.kind.keepsLeft then
    xs.filter fun x => (clause.tableRows c).all fun row => !clause.pairs c (clause.extend x row)
    else []) ++
  (if clause.kind.keepsRight then
    ((clause.tableRows c).filter fun row => xs.all fun x =>
      !clause.pairs c (clause.extend x row)).map (clause.extend [])
    else [])

/-- Where the rows after a clause come from. -/
theorem mem_join {c : Contents} {clause : JoinClause} {xs : List JoinedRow} {y : JoinedRow} :
  y ∈ clause.join c xs ↔
    (∃ x ∈ xs, ∃ row ∈ clause.tableRows c, y = clause.extend x row ∧ clause.pairs c y = true) ∨
    (clause.kind.keepsLeft = true ∧ y ∈ xs ∧
      ∀ row ∈ clause.tableRows c, clause.pairs c (clause.extend y row) = false) ∨
    (clause.kind.keepsRight = true ∧ ∃ row ∈ clause.tableRows c, y = clause.extend [] row ∧
      ∀ x ∈ xs, clause.pairs c (clause.extend x row) = false)
  := by
  unfold join
  rw [List.mem_append, List.mem_append, or_assoc]
  apply or_congr _ (or_congr _ _)
  · simp only [List.mem_flatMap, List.mem_filter, List.mem_map]
    constructor
    · rintro ⟨x, hx, ⟨row, hrow, rfl⟩, hpairs⟩
      exact ⟨x, hx, row, hrow, rfl, hpairs⟩
    · rintro ⟨x, hx, row, hrow, rfl, hpairs⟩
      exact ⟨x, hx, ⟨row, hrow, rfl⟩, hpairs⟩
  · cases clause.kind.keepsLeft <;> simp
  · cases clause.kind.keepsRight
    · simp
    · simp only [if_true, List.mem_map, List.mem_filter, List.all_eq_true, Bool.not_eq_true',
        true_and]
      constructor
      · rintro ⟨row, ⟨hrow, hnone⟩, rfl⟩
        exact ⟨row, hrow, rfl, hnone⟩
      · rintro ⟨row, hrow, rfl, hnone⟩
        exact ⟨row, ⟨hrow, hnone⟩, rfl⟩

end JoinClause

namespace Join

/-- The rows of all tables, as they are joined. -/
def joinedRows (j : Join) (c : Contents) : List JoinedRow :=
  j.clauses.foldl (fun xs clause => clause.join c xs)
    ((c.rows j.base.descriptor.table).map fun row => [(j.base.tableAlias, row)])

/-- The rows that the join selects as it stands. -/
def selectRows (j : Join) (c : Contents) : List JoinedRow :=
  (j.joinedRows c).filter fun x => j.filters.all fun f => c.accepts f x

/-- The rows that the statement returns, where none of a table with soft deletion has been
deleted. -/
def rows (j : Join) (c : Contents) : List JoinedRow :=
  (j.selectRows c).filter fun x => (j.bindings.filter (·.descriptor.softDelete)).all fun b =>
    c.equal (x.at b.tableAlias activeFlag) (.int 1)

end Join

/-! ### Rows of ones -/

/-- The row that has one in every column. -/
def onesRow : TableRow :=
  fun _ => .int 1

namespace Contents

/-- Tables with one row of ones each, in which every filter accepts everything if it can. -/
def ones : Contents where
  rows _ := [onesRow]
  equal v w := !v.isNull && v = w
  accepts f _ := !f.isAlwaysFalse
  equal_null v := by
    constructor
    · rfl
    · cases v <;> simp [Value.isNull]
  accepts_never f x h := by simp [h]

variable {c : Contents}

/-- Equal values are not null. -/
theorem ne_null_of_equal {v w : Value} (h : c.equal v w = true) :
  v ≠ .null ∧ w ≠ .null
  := by
  constructor
  · rintro rfl
    rw [(c.equal_null w).1] at h
    cases h
  · rintro rfl
    rw [(c.equal_null v).2] at h
    cases h

end Contents

namespace JoinedRow

/-- Joined rows of ones that are of all tables that other ones are of. -/
structure Shows (y x : JoinedRow) : Prop where
  ones : ∀ e ∈ y, e.2 = onesRow
  tables : ∀ e ∈ x, ∃ row, (e.1, row) ∈ y

variable {x y : JoinedRow} {c : Contents}

/-- A value that is not null is shown by one. -/
theorem Shows.at_eq (h : y.Shows x) {tableAlias column : String}
    (hne : x.at tableAlias column ≠ .null) :
  y.at tableAlias column = .int 1
  := by
  unfold JoinedRow.at at hne ⊢
  split at hne
  · next row hrow =>
      obtain ⟨before, behind, rfl, -⟩ := List.lookup_eq_some_iff.mp hrow
      obtain ⟨shown, hshown⟩ := h.tables (tableAlias, row) (by simp)
      have hfound : (y.lookup tableAlias).isSome := by
        rw [List.lookup_isSome_iff]
        exact ⟨_, hshown, beq_self_eq_true tableAlias⟩
      obtain ⟨found, hfound⟩ := Option.isSome_iff_exists.mp hfound
      obtain ⟨before, behind, rfl, -⟩ := List.lookup_eq_some_iff.mp hfound
      have hones : found = onesRow := h.ones (tableAlias, found) (by simp)
      rw [hfound, hones]
      rfl
  · exact absurd rfl hne

/-- What is equal in joined rows is equal in the ones that show them. -/
theorem Shows.equality (h : y.Shows x) {e : Equality} (he : e.holds c x = true) :
  e.holds .ones y = true
  := by
  cases e with
  | columns left leftColumn right rightColumn =>
      obtain ⟨hleft, hright⟩ := Contents.ne_null_of_equal he
      rw [Equality.holds, h.at_eq hleft, h.at_eq hright]
      rfl
  | never => cases he

/-- What is paired is paired in the rows that show it. -/
theorem Shows.pairing (h : y.Shows x) {p : Pairing} (hp : p.holds c x = true) :
  p.holds .ones y = true
  := by
  induction p with
  | «by» e => exact h.equality hp
  | and before e ih =>
      obtain ⟨hbefore, he⟩ := Bool.and_eq_true_iff.mp hp
      exact Bool.and_eq_true_iff.mpr ⟨ih hbefore, h.equality he⟩
  | or before e ih =>
      apply Bool.or_eq_true_iff.mpr
      exact (Bool.or_eq_true_iff.mp hp).imp ih h.equality

/-- Rows that show others show them with one more of a table. -/
theorem Shows.extend (h : y.Shows x) (clause : JoinClause) (row : TableRow) :
  Shows (clause.extend y onesRow) (clause.extend x row)
  := by
  unfold JoinClause.extend
  constructor
  · rw [List.forall_mem_append, List.forall_mem_singleton]
    exact ⟨h.ones, rfl⟩
  · rw [List.forall_mem_append, List.forall_mem_singleton]
    refine ⟨?_, onesRow, by simp⟩
    intro e he
    obtain ⟨shown, hshown⟩ := h.tables e he
    exact ⟨shown, List.mem_append_left _ hshown⟩

/-- Rows that show others show them still with one more of a table. -/
theorem Shows.extend_left (h : y.Shows x) (clause : JoinClause) :
  Shows (clause.extend y onesRow) x
  := by
  have hmore := h.extend clause onesRow
  refine ⟨hmore.ones, fun e he => hmore.tables e ?_⟩
  exact List.mem_append_left _ he

end JoinedRow

/-- Joined rows are shown by rows of ones that are joined in the same way. -/
structure ShownBy (xs ys : List JoinedRow) : Prop where
  ones : ∀ y ∈ ys, ∀ e ∈ y, e.2 = onesRow
  shown : ∀ x ∈ xs, ∃ y ∈ ys, y.Shows x

namespace ShownBy

variable {c : Contents} {xs ys : List JoinedRow} {clause : JoinClause}

/-- A clause pairs rows that show others if it pairs these. -/
theorem pairs_of_shows {x y : JoinedRow} (h : y.Shows x) (hx : clause.pairs c x = true) :
  clause.pairs .ones y = true
  := by
  unfold JoinClause.pairs at hx ⊢
  cases hpairing : clause.pairing with
  | none => rfl
  | some p =>
      rw [hpairing] at hx
      exact h.pairing hx

/-- Rows of ones are joined with one row only. -/
theorem eq_onesRow {row : TableRow} (h : row ∈ clause.tableRows .ones) :
  row = onesRow
  := List.mem_singleton.mp h

/-- The rows after a clause are of ones if those before it are. -/
theorem ones_join (h : ∀ y ∈ ys, ∀ e ∈ y, e.2 = onesRow) :
  ∀ y ∈ clause.join .ones ys, ∀ e ∈ y, e.2 = onesRow
  := by
  have hextend : ∀ y : JoinedRow, (∀ e ∈ y, e.2 = onesRow) → ∀ row ∈ clause.tableRows .ones,
      ∀ e ∈ clause.extend y row, e.2 = onesRow := by
    intro y hy row hrow
    unfold JoinClause.extend
    rw [List.forall_mem_append, List.forall_mem_singleton]
    exact ⟨hy, eq_onesRow hrow⟩
  intro y hy
  obtain ⟨x, hx, row, hrow, rfl, -⟩ | ⟨-, hx, -⟩ | ⟨-, row, hrow, rfl, -⟩ :=
    JoinClause.mem_join.mp hy
  · exact hextend x (h x hx) row hrow
  · exact h y hx
  · exact hextend [] (by simp) row hrow

/-- If rows are shown, so are those after a clause. -/
theorem join (h : ShownBy xs ys) (c : Contents) (clause : JoinClause) :
  ShownBy (clause.join c xs) (clause.join .ones ys)
  := by
  refine ⟨ones_join h.ones, ?_⟩
  have hrow : onesRow ∈ clause.tableRows .ones := List.mem_singleton_self onesRow
  have hnothing : ∀ y : JoinedRow, (∀ e ∈ y, e.2 = onesRow) → y.Shows [] :=
    fun y hy => ⟨hy, by simp⟩
  intro z hz
  obtain ⟨x, hx, row, -, rfl, hz⟩ | ⟨hkeeps, hx, -⟩ | ⟨hkeeps, row, -, rfl, -⟩ :=
    JoinClause.mem_join.mp hz
  · obtain ⟨y, hy, hshows⟩ := h.shown x hx
    have hextended := hshows.extend clause row
    exact ⟨_, JoinClause.mem_join.mpr
      (.inl ⟨y, hy, onesRow, hrow, rfl, pairs_of_shows hextended hz⟩), hextended⟩
  · -- What is kept alone may be paired among the ones, and is shown by the pair then.
    obtain ⟨y, hy, hshows⟩ := h.shown z hx
    by_cases hpaired : clause.pairs .ones (clause.extend y onesRow) = true
    · exact ⟨_, JoinClause.mem_join.mpr (.inl ⟨y, hy, onesRow, hrow, rfl, hpaired⟩),
        hshows.extend_left clause⟩
    · refine ⟨y, JoinClause.mem_join.mpr (.inr (.inl ⟨hkeeps, hy, ?_⟩)), hshows⟩
      intro row hrow
      rw [eq_onesRow hrow]
      exact eq_false_of_ne_true hpaired
  · by_cases hpaired : ∃ y ∈ ys, clause.pairs .ones (clause.extend y onesRow) = true
    · obtain ⟨y, hy, hpaired⟩ := hpaired
      exact ⟨_, JoinClause.mem_join.mpr (.inl ⟨y, hy, onesRow, hrow, rfl, hpaired⟩),
        (hnothing y (h.ones y hy)).extend clause row⟩
    · refine ⟨_, JoinClause.mem_join.mpr (.inr (.inr ⟨hkeeps, onesRow, hrow, rfl, ?_⟩)),
        (hnothing [] (by simp)).extend clause row⟩
      intro y hy
      rw [← Bool.not_eq_true]
      intro hpairs
      exact hpaired ⟨y, hy, hpairs⟩

/-- If rows are shown, so are those after several clauses. -/
theorem foldl_join (h : ShownBy xs ys) (c : Contents) (clauses : List JoinClause) :
  ShownBy (clauses.foldl (fun xs clause => clause.join c xs) xs)
    (clauses.foldl (fun ys clause => clause.join .ones ys) ys)
  := by
  induction clauses generalizing xs ys with
  | nil => exact h
  | cons clause clauses ih => exact ih (h.join c clause)

end ShownBy

namespace Join

/-- Whatever tables contain, their joined rows are shown by those of ones. -/
theorem joinedRows_shown (j : Join) (c : Contents) :
  ShownBy (j.joinedRows c) (j.joinedRows .ones)
  := by
  apply ShownBy.foldl_join
  constructor
  · simp [Contents.ones]
  · rw [List.forall_mem_map]
    intro row _
    refine ⟨[(j.base.tableAlias, onesRow)], by simp [Contents.ones], ?_⟩
    constructor <;> simp

/-- A filter that accepts something accepts all ones. -/
theorem accepts_ones {c : Contents} {f : Fragment} {x : JoinedRow} (h : c.accepts f x = true)
    (y : JoinedRow) :
  Contents.ones.accepts f y = true
  := by
  show (!f.isAlwaysFalse) = true
  rw [Bool.not_eq_true', ← Bool.not_eq_true]
  intro hnever
  rw [c.accepts_never f x hnever] at h
  cases h

/-- Whatever a join selects is shown by what it selects of the ones. -/
theorem exists_of_mem_selectRows {j : Join} {c : Contents} {x : JoinedRow}
    (hx : x ∈ j.selectRows c) :
  ∃ y ∈ j.selectRows .ones, y.Shows x
  := by
  obtain ⟨hjoined, hfilters⟩ := List.mem_filter.mp hx
  obtain ⟨y, hy, hshows⟩ := (j.joinedRows_shown c).shown x hjoined
  refine ⟨y, List.mem_filter.mpr ⟨hy, ?_⟩, hshows⟩
  rw [List.all_eq_true] at hfilters ⊢
  intro f hf
  apply accepts_ones (hfilters f hf)

/-- Whatever a statement returns is shown by what it returns of the ones. -/
theorem exists_of_mem_rows {j : Join} {c : Contents} {x : JoinedRow} (hx : x ∈ j.rows c) :
  ∃ y ∈ j.rows .ones, y.Shows x
  := by
  obtain ⟨hselected, hguards⟩ := List.mem_filter.mp hx
  obtain ⟨y, hy, hshows⟩ := exists_of_mem_selectRows hselected
  refine ⟨y, List.mem_filter.mpr ⟨hy, ?_⟩, hshows⟩
  rw [List.all_eq_true] at hguards ⊢
  intro b hb
  rw [hshows.at_eq (Contents.ne_null_of_equal (hguards b hb)).1]
  rfl

/-- A join selects nothing, whatever tables contain, exactly if it selects none of the ones. -/
theorem selectRows_eq_nil_iff (j : Join) :
  (∀ c, j.selectRows c = []) ↔ j.selectRows .ones = []
  := by
  refine ⟨fun h => h .ones, ?_⟩
  intro hones c
  rw [List.eq_nil_iff_forall_not_mem]
  intro x hx
  obtain ⟨y, hy, -⟩ := exists_of_mem_selectRows hx
  rw [hones] at hy
  cases hy

/-- A statement returns nothing, whatever tables contain, exactly if it returns nothing of the
ones. -/
theorem rows_eq_nil_iff (j : Join) :
  (∀ c, j.rows c = []) ↔ j.rows .ones = []
  := by
  refine ⟨fun h => h .ones, ?_⟩
  intro hones c
  rw [List.eq_nil_iff_forall_not_mem]
  intro x hx
  obtain ⟨y, hy, -⟩ := exists_of_mem_rows hx
  rw [hones] at hy
  cases hy

end Join

end EntityStore
