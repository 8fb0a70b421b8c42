import EntityStore.Proofs.Schema.Convergence

/-!
# Drift of tables

A live table for which no change is planned should be the target up to the order of its parts
and the case of names.  This is so exactly if the live table is unambiguous: a column has one
definition and at most one reference.  Of two references of a column only that of the target is
looked for, and the other one stays unnoticed.
-/

namespace EntityStore

open Text

/-! ### Agreement -/

/-- Two columns are the same up to the case of their names and the spelling of their types. -/
structure ColumnShape.Agrees (c d : ColumnShape) : Prop where
  name : sameName c.name d.name
  sqlType : c.sameType d
  nullable : c.nullable = d.nullable
  primaryKey : c.primaryKey = d.primaryKey

instance (c d : ColumnShape) : Decidable (c.Agrees d) :=
  decidable_of_iff
    (sameName c.name d.name ∧ c.sameType d ∧ c.nullable = d.nullable ∧
      c.primaryKey = d.primaryKey)
    ⟨fun ⟨hname, htype, hnullable, hkey⟩ => ⟨hname, htype, hnullable, hkey⟩,
      fun h => ⟨h.name, h.sqlType, h.nullable, h.primaryKey⟩⟩

namespace ColumnShape.Agrees

variable {c d e : ColumnShape}

theorem symm (h : c.Agrees d) :
  d.Agrees c
  where
  name := sameName_symm h.name
  sqlType := by
    have htype := h.sqlType
    simp only [sameType, decide_eq_true_eq] at htype ⊢
    exact htype.symm
  nullable := h.nullable.symm
  primaryKey := h.primaryKey.symm

theorem trans (h : c.Agrees d) (h' : d.Agrees e) :
  c.Agrees e
  where
  name := sameName_trans h.name h'.name
  sqlType := by
    have htype := h.sqlType
    have htype' := h'.sqlType
    simp only [sameType, decide_eq_true_eq] at htype htype' ⊢
    exact htype.trans htype'
  nullable := h.nullable.trans h'.nullable
  primaryKey := h.primaryKey.trans h'.primaryKey

end ColumnShape.Agrees

/-- Two foreign keys say the same under the same name. -/
def ReferenceShape.Agrees (r s : ReferenceShape) : Prop :=
  r.sameReference s ∧ r.name = s.name

instance (r s : ReferenceShape) : Decidable (r.Agrees s) :=
  inferInstanceAs (Decidable (r.sameReference s ∧ r.name = s.name))

namespace ReferenceShape.Agrees

variable {r s u : ReferenceShape}

theorem column (h : r.Agrees s) :
  sameName r.column s.column
  := by
  have hsame := h.1
  simp only [sameReference, Bool.and_eq_true] at hsame
  exact hsame.1.1.1

theorem symm (h : r.Agrees s) :
  s.Agrees r
  := by
  obtain ⟨hsame, hname⟩ := h
  simp only [sameReference, Bool.and_eq_true] at hsame
  obtain ⟨⟨⟨hcolumn, htable⟩, hforeign⟩, hdelete⟩ := hsame
  refine ⟨?_, hname.symm⟩
  simp only [sameReference, sameName_symm hcolumn, sameName_symm htable,
    sameName_symm hforeign, sameName_symm hdelete, Bool.and_self]

theorem trans (h : r.Agrees s) (h' : s.Agrees u) :
  r.Agrees u
  := by
  obtain ⟨hsame, hname⟩ := h
  obtain ⟨hsame', hname'⟩ := h'
  refine ⟨?_, hname.trans hname'⟩
  simp only [sameReference, Bool.and_eq_true] at hsame hsame' ⊢
  obtain ⟨⟨⟨hcolumn, htable⟩, hforeign⟩, hdelete⟩ := hsame
  obtain ⟨⟨⟨hcolumn', htable'⟩, hforeign'⟩, hdelete'⟩ := hsame'
  exact ⟨⟨⟨sameName_trans hcolumn hcolumn', sameName_trans htable htable'⟩,
    sameName_trans hforeign hforeign'⟩, sameName_trans hdelete hdelete'⟩

end ReferenceShape.Agrees

/-- What is on one of two sides is on the other too. -/
def Agree {α : Type} (same : α → α → Prop) (as bs : List α) : Prop :=
  (∀ a ∈ as, ∃ b ∈ bs, same a b) ∧ ∀ b ∈ bs, ∃ a ∈ as, same a b

namespace TableShape

/-- Two tables are the same up to the order of their parts, the case of names and indexes that
are not owned. -/
structure Agrees (target live : TableShape) : Prop where
  columns : Agree ColumnShape.Agrees target.columns live.columns
  references : Agree ReferenceShape.Agrees target.references live.references
  uniques : target.uniqueKeys.Perm live.uniqueKeys
  indexes : ∀ i : IndexShape, i.isOwned → (i ∈ target.indexes ↔ i ∈ live.indexes)

/-- A live table defines a column in one way, it has one reference for a column, and a
reference only for a column that it has. -/
structure Unambiguous (target live : TableShape) : Prop where
  columns : ∀ c ∈ live.columns, ∀ d ∈ live.columns, sameName c.name d.name → c.Agrees d
  references : ∀ r ∈ live.references, ∀ s ∈ live.references,
    sameName r.column s.column → r.Agrees s
  grounded : ∀ c ∈ target.columns, (live.reference? c.name).isSome →
    (live.column? c.name).isSome

variable {target live : TableShape}

/-! ### What is looked for -/

theorem isSome_column?_iff {t : TableShape} {name : String} :
  (t.column? name).isSome ↔ ∃ c ∈ t.columns, sameName c.name name
  := List.find?_isSome

theorem isSome_reference?_iff {t : TableShape} {column : String} :
  (t.reference? column).isSome ↔ ∃ r ∈ t.references, sameName r.column column
  := List.find?_isSome

/-- What is found has the name that it is looked for under. -/
theorem mem_of_column? {t : TableShape} {name : String} {c : ColumnShape}
    (h : t.column? name = some c) :
  c ∈ t.columns ∧ sameName c.name name
  := by
  have hname := List.find?_some h
  exact ⟨List.mem_of_find?_eq_some h, hname⟩

/-- The spelling of a name does not matter for columns. -/
theorem column?_congr {t : TableShape} {name other : String} (h : sameName name other) :
  t.column? name = t.column? other
  := by
  unfold column?
  simp only [sameName, sameName_iff.mp h]

/-- The spelling of a name does not matter for references. -/
theorem reference?_congr {t : TableShape} {column other : String} (h : sameName column other) :
  t.reference? column = t.reference? other
  := by
  unfold reference?
  simp only [sameName, sameName_iff.mp h]

/-- A table has a reference exactly if one of its own agrees. -/
theorem hasReference_iff {t : TableShape} {r : ReferenceShape} :
  t.hasReference r ↔ ∃ s ∈ t.references, r.Agrees s
  := by
  unfold hasReference
  rw [List.any_eq_true]
  apply exists_congr
  intro s
  apply and_congr_right
  intro _
  rw [Bool.and_eq_true, decide_eq_true_eq]
  exact ⟨fun h => ReferenceShape.Agrees.symm h, fun h => h.symm⟩

/-- A live column of the name of a target column is no reason for a change exactly if it has
the same definition, provided that it has a reference if the target has one. -/
theorem reasons_columnDifference_eq_nil_iff {format : String} {c current : ColumnShape}
    (hcurrent : live.column? c.name = some current)
    (hreference : (target.reference? c.name).isSome → (live.reference? current.name).isSome) :
  (columnDifference target live format c).reasons = [] ↔
    c.sameType current ∧ c.nullable = current.nullable ∧ c.primaryKey = current.primaryKey
  := by
  rw [columnDifference_of_some hcurrent, Difference.reasons_append, List.append_eq_nil_iff]
  apply and_congr
  · unfold changedType
    grind
  · have hfound : ¬ ((target.reference? c.name).isSome &&
        (live.reference? current.name).isNone) := by
      rw [Bool.and_eq_true]
      rintro ⟨htarget, hlive⟩
      rw [Option.isNone_iff_eq_none] at hlive
      rw [hlive] at hreference
      cases hreference htarget
    unfold tightenedColumn keptColumn
    rw [if_neg hfound]
    cases c.nullable <;> cases current.nullable <;> simp

/-- Nothing is planned for a table exactly if nothing is to be done about any of its parts. -/
theorem tableChange?_eq_none_iff {format : String} :
  tableChange? target live format = none ↔
    ((∀ c ∈ target.columns, (columnDifference target live format c).reasons = []) ∧
      ∀ d ∈ live.columns, (target.column? d.name).isSome) ∧
    ((∀ r ∈ target.references, ∃ s ∈ live.references, r.Agrees s) ∧
      ∀ s ∈ live.references, (target.reference? s.column).isSome) ∧
    target.uniqueKeys.Perm live.uniqueKeys ∧
    (∀ i ∈ target.indexes, i ∈ live.indexes) ∧
    ∀ i ∈ live.indexes, i.isOwned → i ∈ target.indexes
  := by
  have hchange : tableChange? target live format = none ↔
      (tableDifference target live format).reasons = [] ∧ indexChange? target live = none := by
    dsimp only [tableChange?]
    rw [← List.isEmpty_iff]
    split <;> simp_all
  have hdropped : ∀ d, (droppedColumn target d).reasons = [] ↔
      (target.column? d.name).isSome := by
    intro d
    unfold droppedColumn
    cases target.column? d.name <;> simp
  have huniques : uniqueReasons target live = [] ↔
      target.uniqueKeys.Perm live.uniqueKeys := by
    unfold uniqueReasons
    rw [← List.isPerm_iff]
    split <;> simp_all
  have hreferences : referenceReasons target live = [] ↔
      (∀ r ∈ target.references, ∃ s ∈ live.references, r.Agrees s) ∧
        ∀ s ∈ live.references, (target.reference? s.column).isSome := by
    simp only [referenceReasons, List.append_eq_nil_iff, List.map_eq_nil_iff,
      List.filter_eq_nil_iff, Bool.not_eq_true', Bool.not_eq_false, hasReference_iff,
      Option.isNone_iff_eq_none, Option.isSome_iff_ne_none, ne_eq]
  rw [hchange, reasons_tableDifference, indexChange?_eq_none_iff]
  simp only [List.append_eq_nil_iff, List.flatMap_eq_nil_iff, hdropped, hreferences, huniques]
  tauto

/-! ### What a table without changes has -/

section

variable {format : String}

/-- A reference of the target is one of the live table. -/
theorem isSome_reference?_of_tableChange? (h : tableChange? target live format = none)
    {column : String} (htarget : (target.reference? column).isSome) :
  (live.reference? column).isSome
  := by
  obtain ⟨-, ⟨hfound, -⟩, -⟩ := Iff.mp tableChange?_eq_none_iff h
  obtain ⟨r, hr, hcolumn⟩ := isSome_reference?_iff.mp htarget
  obtain ⟨s, hs, hagrees⟩ := hfound r hr
  apply isSome_reference?_iff.mpr
  exact ⟨s, hs, sameName_trans (sameName_symm hagrees.column) hcolumn⟩

/-- A column of the target agrees with the first live column of its name. -/
theorem agrees_of_tableChange? (h : tableChange? target live format = none)
    {c current : ColumnShape} (hc : c ∈ target.columns)
    (hcurrent : live.column? c.name = some current) :
  c.Agrees current
  := by
  obtain ⟨-, hname⟩ := mem_of_column? hcurrent
  have hreference : (target.reference? c.name).isSome →
      (live.reference? current.name).isSome := by
    rw [reference?_congr hname]
    apply isSome_reference?_of_tableChange? h
  obtain ⟨⟨hcolumns, -⟩, -⟩ := Iff.mp tableChange?_eq_none_iff h
  obtain ⟨htype, hnullable, hkey⟩ :=
    (reasons_columnDifference_eq_nil_iff hcurrent hreference).mp (hcolumns c hc)
  exact ⟨sameName_symm hname, htype, hnullable, hkey⟩

/-- A column of the target is missing only if the live table has a reference for it. -/
theorem exists_column_of_tableChange? (h : tableChange? target live format = none)
    {c : ColumnShape} (hc : c ∈ target.columns)
    (hgrounded : (live.reference? c.name).isSome → (live.column? c.name).isSome) :
  ∃ current, live.column? c.name = some current
  := by
  cases hcurrent : live.column? c.name with
  | some current => exact ⟨current, rfl⟩
  | none =>
      obtain ⟨⟨hcolumns, -⟩, -⟩ := Iff.mp tableChange?_eq_none_iff h
      have hnone := hcolumns c hc
      rw [columnDifference_of_none hcurrent, addedColumn] at hnone
      split at hnone
      · cases hnone
      · split at hnone
        · next htarget =>
            have hlive := hgrounded (isSome_reference?_of_tableChange? h htarget)
            rw [hcurrent] at hlive
            cases hlive
        · cases hnone

/-- All columns agree if a column has one definition. -/
theorem agree_columns (hlive : Unambiguous target live)
    (h : tableChange? target live format = none) :
  Agree ColumnShape.Agrees target.columns live.columns
  := by
  obtain ⟨⟨-, hkept⟩, -⟩ := Iff.mp tableChange?_eq_none_iff h
  have hfound : ∀ c ∈ target.columns, ∃ current, live.column? c.name = some current :=
    fun c hc => exists_column_of_tableChange? h hc (hlive.grounded c hc)
  constructor
  · intro c hc
    obtain ⟨current, hcurrent⟩ := hfound c hc
    exact ⟨current, (mem_of_column? hcurrent).1, agrees_of_tableChange? h hc hcurrent⟩
  · intro d hd
    obtain ⟨c, hc, hname⟩ := isSome_column?_iff.mp (hkept d hd)
    obtain ⟨current, hcurrent⟩ := hfound c hc
    have hagrees := agrees_of_tableChange? h hc hcurrent
    use c, hc
    apply hagrees.trans
    apply hlive.columns _ (mem_of_column? hcurrent).1 _ hd
    exact sameName_trans (sameName_symm hagrees.name) hname

/-- All references agree if a column has one. -/
theorem agree_references (hlive : Unambiguous target live)
    (h : tableChange? target live format = none) :
  Agree ReferenceShape.Agrees target.references live.references
  := by
  obtain ⟨-, ⟨hfound, hkept⟩, -⟩ := Iff.mp tableChange?_eq_none_iff h
  refine ⟨hfound, ?_⟩
  intro s hs
  obtain ⟨r, hr, hcolumn⟩ := isSome_reference?_iff.mp (hkept s hs)
  obtain ⟨u, hu, hagrees⟩ := hfound r hr
  use r, hr
  apply hagrees.trans
  apply hlive.references u hu s hs
  exact sameName_trans (sameName_symm hagrees.column) hcolumn

/-- A table that agrees with the target is unambiguous, since the target has one reference for
a column and its columns agree with the first live ones of their names. -/
theorem Agrees.unambiguous (hagrees : target.Agrees live)
    (htarget : DistinctNames ReferenceShape.column target.references)
    (h : tableChange? target live format = none) :
  Unambiguous target live
  where
  columns := by
    have hfirst : ∀ d ∈ live.columns, ∃ current, live.column? d.name = some current ∧
        d.Agrees current := by
      intro d hd
      obtain ⟨c, hc, hcd⟩ := hagrees.columns.2 d hd
      have hsome : (live.column? c.name).isSome :=
        isSome_column?_iff.mpr ⟨d, hd, sameName_symm hcd.name⟩
      obtain ⟨current, hcurrent⟩ := Option.isSome_iff_exists.mp hsome
      use current
      rw [column?_congr (sameName_symm hcd.name)]
      exact ⟨hcurrent, hcd.symm.trans (agrees_of_tableChange? h hc hcurrent)⟩
    intro c hc d hd hname
    obtain ⟨first, hfirstc, hcfirst⟩ := hfirst c hc
    obtain ⟨other, hfirstd, hdother⟩ := hfirst d hd
    rw [column?_congr hname, hfirstd, Option.some_inj] at hfirstc
    subst hfirstc
    exact hcfirst.trans hdother.symm
  references := by
    intro r hr s hs hcolumn
    obtain ⟨u, hu, hur⟩ := hagrees.references.2 r hr
    obtain ⟨v, hv, hvs⟩ := hagrees.references.2 s hs
    have hsame := sameName_trans hur.column (sameName_trans hcolumn (sameName_symm hvs.column))
    obtain rfl := htarget.eq_of_mem hu hv hsame
    exact hur.symm.trans hvs
  grounded := by
    intro c hc _
    obtain ⟨d, hd, hcd⟩ := hagrees.columns.1 c hc
    exact isSome_column?_iff.mpr ⟨d, hd, sameName_symm hcd.name⟩

/-- Nothing is planned for an unambiguous table that agrees with the target and has all its
indexes. -/
theorem Agrees.tableChange?_eq_none (hagrees : target.Agrees live)
    (hlive : Unambiguous target live) (hindexes : ∀ i ∈ target.indexes, i ∈ live.indexes) :
  tableChange? target live format = none
  := by
  have hcolumns : ∀ c ∈ target.columns,
      (columnDifference target live format c).reasons = [] := by
    intro c hc
    obtain ⟨d, hd, hcd⟩ := hagrees.columns.1 c hc
    obtain ⟨current, hcurrent⟩ := Option.isSome_iff_exists.mp
      (isSome_column?_iff.mpr ⟨d, hd, sameName_symm hcd.name⟩)
    obtain ⟨hmem, hname⟩ := mem_of_column? hcurrent
    have hagrees' := hcd.trans
      (hlive.columns d hd current hmem (sameName_symm (sameName_trans hname hcd.name)))
    apply (reasons_columnDifference_eq_nil_iff hcurrent _).mpr
      ⟨hagrees'.sqlType, hagrees'.nullable, hagrees'.primaryKey⟩
    rw [reference?_congr hname]
    intro htarget
    obtain ⟨r, hr, hcolumn⟩ := isSome_reference?_iff.mp htarget
    obtain ⟨s, hs, hrs⟩ := hagrees.references.1 r hr
    exact isSome_reference?_iff.mpr ⟨s, hs, sameName_trans (sameName_symm hrs.column) hcolumn⟩
  have hkept : ∀ d ∈ live.columns, (target.column? d.name).isSome := by
    intro d hd
    obtain ⟨c, hc, hcd⟩ := hagrees.columns.2 d hd
    exact isSome_column?_iff.mpr ⟨c, hc, hcd.name⟩
  have hreferred : ∀ s ∈ live.references, (target.reference? s.column).isSome := by
    intro s hs
    obtain ⟨r, hr, hrs⟩ := hagrees.references.2 s hs
    exact isSome_reference?_iff.mpr ⟨r, hr, hrs.column⟩
  apply Iff.mpr tableChange?_eq_none_iff
  refine ⟨⟨hcolumns, hkept⟩, ⟨hagrees.references.1, hreferred⟩, hagrees.uniques, hindexes, ?_⟩
  intro i hi howned
  exact (hagrees.indexes i howned).mpr hi

end

/-- An unambiguous table does not drift unnoticed: no change is planned for it exactly if it
agrees with the target and has all its indexes.  Where no change is planned for any table, the
constraints and owned indexes are those of the target but for further references, all columns
have the names of those of the target, and the table agrees exactly if it is unambiguous. -/
theorem agrees_iff_unambiguous
    (htarget : DistinctNames ReferenceShape.column target.references) (format : String) :
  (Unambiguous target live → (tableChange? target live format = none ↔
      target.Agrees live ∧ ∀ i ∈ target.indexes, i ∈ live.indexes)) ∧
    (tableChange? target live format = none →
      ((∀ r ∈ target.references, ∃ s ∈ live.references, r.Agrees s) ∧
        (∀ s ∈ live.references, ∃ r ∈ target.references, sameName r.column s.column) ∧
        (∀ d ∈ live.columns, ∃ c ∈ target.columns, sameName c.name d.name) ∧
        target.uniqueKeys.Perm live.uniqueKeys ∧
        ∀ i : IndexShape, i.isOwned → (i ∈ target.indexes ↔ i ∈ live.indexes)) ∧
      (target.Agrees live ↔ Unambiguous target live))
  := by
  have hnoticed : tableChange? target live format = none →
      target.uniqueKeys.Perm live.uniqueKeys ∧ (∀ i ∈ target.indexes, i ∈ live.indexes) ∧
        ∀ i : IndexShape, i.isOwned → (i ∈ target.indexes ↔ i ∈ live.indexes) := by
    intro h
    obtain ⟨-, -, huniques, hadded, hremoved⟩ := tableChange?_eq_none_iff.mp h
    exact ⟨huniques, hadded, fun i howned => ⟨hadded i, fun hi => hremoved i hi howned⟩⟩
  have hagrees : Unambiguous target live → tableChange? target live format = none →
      target.Agrees live := by
    intro hlive h
    obtain ⟨huniques, -, hindexes⟩ := hnoticed h
    exact ⟨agree_columns hlive h, agree_references hlive h, huniques, hindexes⟩
  constructor
  · intro hlive
    constructor
    · intro h
      exact ⟨hagrees hlive h, (hnoticed h).2.1⟩
    · rintro ⟨hsame, hindexes⟩
      apply hsame.tableChange?_eq_none hlive hindexes
  · intro h
    obtain ⟨⟨-, hkept⟩, ⟨hfound, hreferred⟩, -⟩ := tableChange?_eq_none_iff.mp h
    obtain ⟨huniques, -, hindexes⟩ := hnoticed h
    refine ⟨⟨hfound, ?_, ?_, huniques, hindexes⟩, ?_, fun hlive => hagrees hlive h⟩
    · intro s hs
      exact isSome_reference?_iff.mp (hreferred s hs)
    · intro d hd
      exact isSome_column?_iff.mp (hkept d hd)
    · intro hsame
      apply hsame.unambiguous htarget h

/-- Posts refer to their blogs. -/
def posts : TableShape where
  name := "Post"
  columns := [⟨"Id", "INTEGER", false, true⟩, ⟨"BlogId", "INTEGER", false, false⟩]
  references := [⟨some "FK_Post_Blog", "BlogId", "Blog", "Id", "CASCADE"⟩]
  uniques := [⟨none, ["BlogId"]⟩]
  indexes := [⟨"IX_Post_BlogId", ["BlogId"]⟩]

/-- Posts in another spelling and order, with an index that is not owned. -/
def respelledPosts : TableShape where
  name := "post"
  columns := [⟨"blogid", "integer", false, false⟩, ⟨"ID", "INTEGER", false, true⟩]
  references := [⟨some "FK_Post_Blog", "blogid", "BLOG", "id", "Cascade"⟩]
  uniques := [⟨none, ["BLOGID"]⟩]
  indexes := [⟨"ByBlog", ["blogid"]⟩, ⟨"IX_Post_BlogId", ["BlogId"]⟩]

/-- Posts that also refer to archives by the same column. -/
def archivedPosts : TableShape :=
  { posts with
    references := ⟨some "FK_Post_Archive", "BlogId", "Archive", "Id", "CASCADE"⟩ ::
      posts.references }

/-- Respelled posts are posts. -/
theorem posts_agree_respelled :
  DistinctNames ReferenceShape.column posts.references ∧
    tableChange? posts respelledPosts "" = none ∧ posts.Agrees respelledPosts
  := by
  have hdistinct : DistinctNames ReferenceShape.column posts.references := by decide
  have hnone : tableChange? posts respelledPosts "" = none := by decide +kernel
  have hlive : Unambiguous posts respelledPosts :=
    ⟨by decide +kernel, by decide +kernel, by decide +kernel⟩
  use hdistinct, hnone
  exact (((agrees_iff_unambiguous hdistinct "").2 hnone).2).mpr hlive

/-- A second reference of a column is not noticed: nothing is planned for archived posts, which
have a reference that posts do not have. -/
theorem second_reference_unnoticed :
  DistinctNames ReferenceShape.column posts.references ∧
    tableChange? posts archivedPosts "" = none ∧ ¬ posts.Agrees archivedPosts
  := by
  refine ⟨by decide, by decide +kernel, ?_⟩
  intro hagrees
  obtain ⟨r, hr, hsame, -⟩ := hagrees.references.2 _ List.mem_cons_self
  rw [List.mem_singleton.mp hr] at hsame
  revert hsame
  decide

end TableShape

end EntityStore
