import EntityStore.Entity.Statement
import EntityStore.Proofs.Sql.Selection
import EntityStore.Proofs.Translation.Slots

/-!
# Guards of tables

Where rows are marked instead of being removed, a statement asks besides that the rows of the
table have not been marked.  A table without soft deletion has no such guard.
-/

namespace EntityStore

open Text Sql

/-- The guards of tables that are each given with the text of its guard.  Only those with soft
deletion are guarded. -/
def guardsOf (tables : List (Descriptor × String)) : List (String × Formula (List Token)) :=
  (tables.filter (·.1.softDelete)).map fun x => (x.2, .atom (tokens x.2))

/-- Guards that are comparisons stand among other conditions. -/
theorem stands_guardsOf {tables : List (Descriptor × String)}
    (h : ∀ x ∈ tables, IsComparison x.2) :
  ∀ x ∈ guardsOf tables, Stands x.1 x.2
  := by
  intro x hx
  obtain ⟨y, hy, rfl⟩ := List.mem_map.mp hx
  apply (h y (List.mem_of_mem_filter hy)).stands

/-- The text of the guard of a table, if it has one. -/
theorem map_guardsOf_singleton (d : Descriptor) (text : String) :
  (guardsOf [(d, text)]).map (·.1) = if d.softDelete then [text] else []
  := by
  cases hsoft : d.softDelete <;> simp [guardsOf, hsoft]

/-- The guard of a table under an alias. -/
theorem activeGuard_eq (tableAlias : String) :
  activeGuard tableAlias = tableAlias ++ ".IsActive = 1"
  := by
  have hrest : "." ++ (activeFlag ++ " = 1") = ".IsActive = 1" := by decide
  show tableAlias ++ "." ++ activeFlag ++ " = 1" = _
  rw [String.append_assoc, String.append_assoc, hrest]

/-- The guards of tables under aliases that are identifiers stand among other conditions. -/
theorem stands_aliasGuards {tables : List (Descriptor × String)}
    (h : ∀ x ∈ tables, isIdentifier x.2 = true) :
  ∀ x ∈ guardsOf (tables.map fun x => (x.1, x.2 ++ ".IsActive = 1")), Stands x.1 x.2
  := by
  apply stands_guardsOf
  rw [List.forall_mem_map]
  intro x hx
  rw [← activeGuard_eq]
  apply isComparison_activeGuard (h x hx)

namespace Descriptor

variable {d : Descriptor} {condition : Fragment} {f : Formula (List Token)}

/-- The conditions on a table alone: one that is asked for, and the guard. -/
def guarded (d : Descriptor) (sql : String) (f : Formula (List Token)) :
    List (String × Formula (List Token)) :=
  (sql, f) :: guardsOf [(d, "\"IsActive\" = 1")]

/-- The conditions on a table alone stand among each other. -/
theorem stands_guarded (h : Conjunct condition.sql f) :
  ∀ x ∈ d.guarded condition.sql f, Stands x.1 x.2
  := by
  rw [guarded, List.forall_mem_cons]
  constructor
  · apply h.stands
  · apply stands_guardsOf
    rw [List.forall_mem_singleton]
    exact Grammar.reading.comparison_equal (Grammar.reading.quotedName activeFlag)
      (Grammar.reading.term_digit true)

/-- The part of a statement that selects rows of a table that have not been marked. -/
theorem clause_guards (d : Descriptor) (condition : Fragment) (f : Formula (List Token)) :
  (clause condition d.guards).sql = whereSql ((d.guarded condition.sql f).map (·.1))
  := by
  rw [guarded, List.map_cons, map_guardsOf_singleton]
  rfl

/-- What asks for the columns of a table. -/
def selectHead (d : Descriptor) : String :=
  s!"SELECT {quoteNames (d.allColumns.map (·.1))} FROM {quoteName d.table}"

/-- What asks for the number of rows of a table. -/
def countHead (d : Descriptor) : String :=
  s!"SELECT COUNT(*) FROM {quoteName d.table}"

/-- Rows are read that fulfil a condition and have not been marked. -/
theorem selects_rows {tail : String} (h : Conjunct condition.sql f) (htail : Trails tail) :
  Selects (d.selectRows (clause condition d.guards) tail).sql d.selectHead
    (d.guarded condition.sql f) tail
  := by
  have hnames : Mentions (quoteNames (d.allColumns.map (·.1))) [] := by
    apply mentions_commaList
    · simp [allColumns]
    · rw [List.forall_mem_map]
      intro name _
      apply mentions_quoteName
  obtain ⟨ts, hhead, -⟩ := mentions_selection hnames (mentions_quoteName d.table)
  unfold selectRows
  rw [clause_guards d condition f]
  exact selects_of_stands hhead (stands_guarded h) htail

/-- Rows are counted that fulfil a condition and have not been marked. -/
theorem selects_count (h : Conjunct condition.sql f) :
  Selects (d.countRows (clause condition d.guards)).sql d.countHead
    (d.guarded condition.sql f) ""
  := by
  have hstar : Lexes "*" [.symbol "*"] := by
    apply @lexes_of_next '*' []
    · apply opens_cons <;> decide
    · intro rest hrest
      obtain rfl | ⟨c, more, rfl, rfl | rfl | rfl⟩ := hrest.cases <;> rfl
  have hall : Mentions "*" [] := ⟨_, hstar, rfl⟩
  have hcount : Mentions "COUNT(*)" [] := hall.call (by decide : isIdentifier "COUNT" = true)
  obtain ⟨ts, hhead, -⟩ := mentions_selection hcount (mentions_quoteName d.table)
  have hselects := selects_of_stands hhead (stands_guarded h (d := d)) (.inl rfl)
  rw [String.append_empty] at hselects
  unfold countRows
  rw [clause_guards d condition f]
  exact hselects

/-- What asks for the row with the least key is read behind the conditions. -/
theorem trails_firstByKey :
  Trails firstByKey
  := by
  have hkey := ((mentions_quoteName primaryKey).lead "BY" (by decide)).lead "ORDER" (by decide)
  have hlimit := (hkey.blank (mentions_word (a := "LIMIT") (by decide))).blank
    (mentions_decimalText 1)
  obtain ⟨ts, hlexes, -⟩ := hlimit
  right
  exact ⟨_, ts, rfl, hlexes⟩

end Descriptor

end EntityStore
