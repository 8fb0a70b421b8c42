import EntityStore.Proofs.Schema.Steps

/-!
# Catalogs

The catalog of a database says which tables there are and which indexes they have.  Here the
statements of plans are executed on catalogs.  A table that is dropped takes its indexes with it,
and one that gets another name keeps them.
-/

namespace EntityStore

open Text

/-- The names of the tables of a database, and the indexes, each with the name of its table. -/
structure Catalog where
  tables : List String := []
  indexes : List (String × IndexShape) := []
  deriving DecidableEq

namespace Catalog

/-- The catalog of a database with a schema. -/
def ofSchema (s : Schema) : Catalog where
  tables := s.shapes.map (·.name)
  indexes := s.shapes.flatMap fun t => t.indexes.map fun i => (t.name, i)

/-- Whether there is a table of a name. -/
def hasTable (s : Catalog) (name : String) : Bool :=
  s.tables.any fun table => sameName table name

/-- Whether there is an index of a name. -/
def hasIndex (s : Catalog) (name : String) : Bool :=
  s.indexes.any fun entry => sameName entry.2.name name

/-- Whether a name can be given to a table or an index. -/
def isFree (s : Catalog) (name : String) : Bool :=
  !s.hasTable name && !s.hasIndex name

/-- The catalog after a statement, unless the database refuses it. -/
def step? (s : Catalog) : SchemaStep → Option Catalog
  | .createTable name _ =>
    if s.isFree name then some { s with tables := name :: s.tables } else none
  | .transfer t _ =>
    if s.hasTable (rebuildName t.name) && s.hasTable t.name then some s else none
  | .dropTable name =>
    if s.hasTable name then
      some { tables := s.tables.filter fun table => !sameName table name
             indexes := s.indexes.filter fun entry => !sameName entry.1 name }
    else none
  | .renameTable name new =>
    let renamed (table : String) := if sameName table name then new else table
    if s.hasTable name && s.isFree new then
      some ⟨s.tables.map renamed, s.indexes.map fun entry => (renamed entry.1, entry.2)⟩
    else none
  | .createIndex table i =>
    if s.hasTable table && s.isFree i.name then
      some { s with indexes := (table, i) :: s.indexes }
    else none
  | .dropIndex name =>
    if s.hasIndex name then
      some { s with indexes := s.indexes.filter fun entry => !sameName entry.2.name name }
    else none

/-- The catalog after statements, unless one of them is refused. -/
def run? (s : Catalog) (steps : List SchemaStep) : Option Catalog :=
  steps.foldlM step? s

/-- A table has an index. -/
def InPlace (s : Catalog) (table : String) (i : IndexShape) : Prop :=
  ∃ entry ∈ s.indexes, sameName entry.1 table ∧ entry.2 = i

instance (s : Catalog) (table : String) (i : IndexShape) : Decidable (s.InPlace table i) :=
  inferInstanceAs (Decidable (∃ entry ∈ s.indexes, sameName entry.1 table ∧ entry.2 = i))

/-- Indexes are on tables that there are. -/
def Coherent (s : Catalog) : Prop :=
  ∀ table i, s.InPlace table i → s.hasTable table

variable {s s' : Catalog} {table name new : String} {i : IndexShape}

/-! ### Single statements -/

/-- The spelling of the name of a table does not matter. -/
theorem InPlace.congr (h : s.InPlace table i) (hname : sameName table name) :
  s.InPlace name i
  := by
  obtain ⟨entry, hentry, htable, rfl⟩ := h
  exact ⟨entry, hentry, sameName_trans htable hname, rfl⟩

theorem hasTable_iff :
  s.hasTable name ↔ ∃ table ∈ s.tables, sameName table name
  := List.any_eq_true

theorem hasTable_congr (h : sameName table name) (htable : s.hasTable table) :
  s.hasTable name
  := by
  obtain ⟨other, hother, hsame⟩ := hasTable_iff.mp htable
  exact hasTable_iff.mpr ⟨other, hother, sameName_trans hsame h⟩

/-- A new table has no indexes, and no other table gets or loses any. -/
theorem step?_createTable {t : TableShape} (h : s.step? (.createTable name t) = some s') :
  ¬ s.hasTable name ∧ (∀ other, s'.hasTable other ↔ s.hasTable other ∨ sameName name other) ∧
    ∀ table i, s'.InPlace table i ↔ s.InPlace table i
  := by
  obtain ⟨hfree, heq⟩ := Option.ite_none_right_eq_some.mp h
  cases heq
  refine ⟨?_, ?_, fun _ _ => Iff.rfl⟩
  · intro htable
    simp [isFree, htable] at hfree
  · simp [hasTable_iff, or_comm]

theorem step?_transfer {t : TableShape} {copies : List ColumnCopy}
    (h : s.step? (.transfer t copies) = some s') :
  s' = s
  := by
  obtain ⟨-, heq⟩ := Option.ite_none_right_eq_some.mp h
  exact (Option.some.inj heq).symm

/-- A table is dropped with its indexes. -/
theorem step?_dropTable (h : s.step? (.dropTable name) = some s') :
  s.hasTable name ∧ (∀ other, s'.hasTable other ↔ s.hasTable other ∧ ¬ sameName name other) ∧
    ∀ table i, s'.InPlace table i ↔ s.InPlace table i ∧ ¬ sameName name table
  := by
  obtain ⟨htable, heq⟩ := Option.ite_none_right_eq_some.mp h
  cases heq
  refine ⟨htable, ?_, ?_⟩
  · intro other
    simp only [hasTable_iff, List.mem_filter, Bool.not_eq_true', ← Bool.not_eq_true, sameName_iff]
    grind
  · intro table i
    simp only [InPlace, List.mem_filter, Bool.not_eq_true', ← Bool.not_eq_true, sameName_iff]
    grind

/-- A table keeps its indexes under another name. -/
theorem step?_renameTable (h : s.step? (.renameTable name new) = some s') :
  (∀ other, s'.hasTable other ↔ s.hasTable other ∧ ¬ sameName name other ∨ sameName new other) ∧
    ∀ table i, s'.InPlace table i ↔
      s.InPlace table i ∧ ¬ sameName name table ∨ s.InPlace name i ∧ sameName new table
  := by
  obtain ⟨hguard, heq⟩ := Option.ite_none_right_eq_some.mp h
  cases heq
  obtain ⟨htable, -⟩ := Bool.and_eq_true_iff.mp hguard
  rw [hasTable_iff] at htable
  constructor
  · intro other
    simp only [hasTable_iff, List.mem_map, exists_exists_and_eq_and, sameName_iff,
      apply_ite lower] at htable ⊢
    grind
  · intro table i
    simp only [InPlace, List.mem_map, exists_exists_and_eq_and, sameName_iff, apply_ite lower]
    grind

theorem step?_createIndex {j : IndexShape} (h : s.step? (.createIndex name j) = some s') :
  s.hasTable name ∧ (∀ other, s'.hasTable other ↔ s.hasTable other) ∧
    ∀ table i, s'.InPlace table i ↔ s.InPlace table i ∨ sameName name table ∧ i = j
  := by
  obtain ⟨hguard, heq⟩ := Option.ite_none_right_eq_some.mp h
  cases heq
  refine ⟨(Bool.and_eq_true_iff.mp hguard).1, fun _ => Iff.rfl, ?_⟩
  intro table i
  simp only [InPlace, List.mem_cons]
  constructor
  · rintro ⟨entry, rfl | hentry, hsame, rfl⟩
    · exact .inr ⟨hsame, rfl⟩
    · exact .inl ⟨entry, hentry, hsame, rfl⟩
  · rintro (⟨entry, hentry, hsame, rfl⟩ | ⟨hsame, rfl⟩)
    · exact ⟨entry, .inr hentry, hsame, rfl⟩
    · exact ⟨(name, i), .inl rfl, hsame, rfl⟩

theorem step?_dropIndex (h : s.step? (.dropIndex name) = some s') :
  (∀ other, s'.hasTable other ↔ s.hasTable other) ∧
    ∀ table i, s'.InPlace table i ↔ s.InPlace table i ∧ ¬ sameName i.name name
  := by
  obtain ⟨-, heq⟩ := Option.ite_none_right_eq_some.mp h
  cases heq
  refine ⟨fun _ => Iff.rfl, ?_⟩
  intro table i
  simp only [InPlace, List.mem_filter, Bool.not_eq_true', ← Bool.not_eq_true]
  grind

/-- Indexes stay on tables that there are. -/
theorem Coherent.step? {step : SchemaStep} (hs : s.Coherent) (h : s.step? step = some s') :
  s'.Coherent
  := by
  intro table i hplaced
  have hbefore := hs table i
  cases step with
  | createTable name t =>
      obtain ⟨-, htables, hindexes⟩ := step?_createTable h
      rw [hindexes] at hplaced
      exact (htables table).mpr (.inl (hbefore hplaced))
  | transfer t copies =>
      obtain rfl := step?_transfer h
      exact hbefore hplaced
  | dropTable name =>
      obtain ⟨-, htables, hindexes⟩ := step?_dropTable h
      obtain ⟨hplaced, hother⟩ := (hindexes table i).mp hplaced
      exact (htables table).mpr ⟨hbefore hplaced, hother⟩
  | renameTable name new =>
      obtain ⟨htables, hindexes⟩ := step?_renameTable h
      apply (htables table).mpr
      rcases (hindexes table i).mp hplaced with ⟨hplaced, hother⟩ | ⟨-, hsame⟩
      · exact .inl ⟨hbefore hplaced, hother⟩
      · exact .inr hsame
  | createIndex name j =>
      obtain ⟨htable, htables, hindexes⟩ := step?_createIndex h
      apply (htables table).mpr
      rcases (hindexes table i).mp hplaced with hplaced | ⟨hsame, -⟩
      · exact hbefore hplaced
      · exact hasTable_congr hsame htable
  | dropIndex name =>
      obtain ⟨htables, hindexes⟩ := step?_dropIndex h
      exact (htables table).mpr (hbefore ((hindexes table i).mp hplaced).1)

/-! ### Statements one after the other -/

/-- The statements after the first are executed on what it leaves. -/
theorem exists_of_run?_cons {step : SchemaStep} {steps : List SchemaStep}
    (h : s.run? (step :: steps) = some s') :
  ∃ s₁, s.step? step = some s₁ ∧ s₁.run? steps = some s'
  := by
  rw [run?, List.foldlM_cons] at h
  exact Option.bind_eq_some_iff.mp h

/-- Statements are executed on what those before them leave. -/
theorem exists_of_run?_append {before after : List SchemaStep}
    (h : s.run? (before ++ after) = some s') :
  ∃ s₁, s.run? before = some s₁ ∧ s₁.run? after = some s'
  := by
  rw [run?, List.foldlM_append] at h
  exact Option.bind_eq_some_iff.mp h

theorem Coherent.run? {steps : List SchemaStep} (hs : s.Coherent)
    (h : s.run? steps = some s') :
  s'.Coherent
  := by
  induction steps generalizing s with
  | nil =>
      cases h
      exact hs
  | cons step steps ih =>
      obtain ⟨s₁, hfirst, hrest⟩ := exists_of_run?_cons h
      exact ih (hs.step? hfirst) hrest

/-- A table gets all indexes that are made for it. -/
theorem run?_indexSteps {indexes : List IndexShape}
    (h : s.run? (indexSteps name indexes) = some s') :
  s'.InPlace table i ↔ s.InPlace table i ∨ sameName name table ∧ i ∈ indexes
  := by
  induction indexes generalizing s with
  | nil =>
      cases h
      simp
  | cons j indexes ih =>
      obtain ⟨s₁, hfirst, hrest⟩ := exists_of_run?_cons h
      obtain ⟨-, -, hindexes⟩ := step?_createIndex hfirst
      rw [ih hrest, hindexes, List.mem_cons, or_assoc, ← and_or_left]

/-- All indexes that are removed are gone. -/
theorem run?_dropIndexes {names : List String}
    (h : s.run? (names.map .dropIndex) = some s') :
  s'.InPlace table i ↔ s.InPlace table i ∧ ∀ name ∈ names, ¬ sameName i.name name
  := by
  induction names generalizing s with
  | nil =>
      cases h
      simp
  | cons name names ih =>
      obtain ⟨s₁, hfirst, hrest⟩ := exists_of_run?_cons h
      obtain ⟨-, hindexes⟩ := step?_dropIndex hfirst
      rw [ih hrest, hindexes, List.forall_mem_cons, and_assoc]

/-- A table that is made anew loses its indexes, and no other does. -/
theorem run?_rebuildSteps {t : TableShape} {copies : List ColumnCopy} (hs : s.Coherent)
    (h : s.run? (rebuildSteps t copies) = some s') :
  s'.InPlace table i ↔ s.InPlace table i ∧ ¬ sameName t.name table
  := by
  obtain ⟨s₁, hcreate, h⟩ := exists_of_run?_cons h
  obtain ⟨s₂, htransfer, h⟩ := exists_of_run?_cons h
  obtain ⟨s₃, hdrop, h⟩ := exists_of_run?_cons h
  obtain ⟨s₄, hrename, h⟩ := exists_of_run?_cons h
  cases h
  obtain rfl := step?_transfer htransfer
  obtain ⟨hnew, -, hcreated⟩ := step?_createTable hcreate
  obtain ⟨-, -, hdropped⟩ := step?_dropTable hdrop
  obtain ⟨-, hrenamed⟩ := step?_renameTable hrename
  -- Nothing is on the new table yet, since there was none of its name.
  have hnone : ¬ s.InPlace (rebuildName t.name) i := fun h => hnew (hs _ _ h)
  have hother : s.InPlace table i → ¬ sameName (rebuildName t.name) table :=
    fun h hsame => hnone (h.congr (sameName_symm hsame))
  rw [hrenamed, hdropped, hdropped, hcreated, hcreated]
  grind

end Catalog

end EntityStore
