import EntityStore.Proofs.Schema.Difference

/-!
# Statements of plans

The statements of a plan are texts.  Here they are read as what they do, which says which
tables occur in them and which are dropped.
-/

namespace EntityStore

open Text Sql

/-- A statement that changes a schema, by what it does. -/
inductive SchemaStep where
  | createTable (name : String) (shape : TableShape)
  /-- Takes over the rows of a table into the new one. -/
  | transfer (shape : TableShape) (copies : List ColumnCopy)
  | dropTable (name : String)
  | renameTable (name new : String)
  | createIndex (table : String) (index : IndexShape)
  | dropIndex (name : String)
  deriving DecidableEq

namespace SchemaStep

/-- The text of a statement. -/
def sql : SchemaStep → String
  | createTable name shape => shape.createAs name
  | transfer shape copies => shape.transfer copies
  | dropTable name => s!"DROP TABLE {quoteName name}"
  | renameTable name new => s!"ALTER TABLE {quoteName name} RENAME TO {quoteName new}"
  | createIndex table index => index.create table
  | dropIndex name => EntityStore.dropIndex name

/-- The names of the tables that occur in a statement. -/
def tables : SchemaStep → List String
  | createTable name shape => name :: shape.references.map (·.foreignTable)
  | transfer shape _ => [rebuildName shape.name, shape.name]
  | dropTable name => [name]
  | renameTable name new => [name, new]
  | createIndex table _ => [table]
  | dropIndex _ => []

/-- The name of the table that a statement drops. -/
def dropped? : SchemaStep → Option String
  | dropTable name => some name
  | _ => none

end SchemaStep

/-- The statements that make indexes of a table. -/
def indexSteps (table : String) (indexes : List IndexShape) : List SchemaStep :=
  indexes.map (.createIndex table)

/-- The statements that make a table anew, up to its indexes. -/
def rebuildSteps (t : TableShape) (copies : List ColumnCopy) : List SchemaStep :=
  [.createTable (rebuildName t.name) t, .transfer t copies, .dropTable t.name,
    .renameTable (rebuildName t.name) t.name]

/-- The statements of a change in order. -/
def Change.steps : Change → List SchemaStep
  | create t => .createTable t.name t :: indexSteps t.name t.indexes
  | rebuild t copies _ => rebuildSteps t copies ++ indexSteps t.name t.indexes
  | indexes table added removed => removed.map .dropIndex ++ indexSteps table added

/-- The statements of a plan in order. -/
def MigrationPlan.steps (plan : MigrationPlan) : List SchemaStep :=
  plan.changes.flatMap (·.steps)

theorem Change.sql_steps (c : Change) :
  c.steps.map (·.sql) = c.statements
  := by
  cases c <;> simp [steps, statements, indexSteps, rebuildSteps, TableShape.createAll,
    TableShape.create, TableShape.rebuild, TableShape.createIndexes, SchemaStep.sql,
    Function.comp_def]

/-- The texts are those of the plan. -/
theorem MigrationPlan.sql_steps (plan : MigrationPlan) :
  plan.steps.map (·.sql) = plan.statements
  := by
  simp only [steps, statements, List.map_flatMap, Change.sql_steps]

/-! ### Tables of statements -/

namespace Change

/-- The name that a table has while it is made anew. -/
def temporary? : Change → Option String
  | rebuild t _ _ => some (rebuildName t.name)
  | _ => none

/-- The foreign keys of the table that is made. -/
def references : Change → List ReferenceShape
  | create t | rebuild t _ _ => t.references
  | indexes .. => []

variable {c : Change} {step : SchemaStep} {name : String}

theorem tables_of_mem_indexSteps {table : String} {indexes : List IndexShape}
    (h : step ∈ indexSteps table indexes) :
  step.tables = [table] ∧ step.dropped? = none
  := by
  obtain ⟨i, -, rfl⟩ := List.mem_map.mp h
  exact ⟨rfl, rfl⟩

/-- In the statements of a change occur its table, the one in the making, and those that are
referenced. -/
theorem mem_tables (hstep : step ∈ c.steps) (hname : name ∈ step.tables) :
  name = c.table ∨ c.temporary? = some name ∨ ∃ r ∈ c.references, name = r.foreignTable
  := by
  cases c with
  | create t =>
      rcases List.mem_cons.mp hstep with rfl | hstep
      · rcases List.mem_cons.mp hname with rfl | hname
        · exact .inl rfl
        · obtain ⟨r, hr, rfl⟩ := List.mem_map.mp hname
          exact .inr (.inr ⟨r, hr, rfl⟩)
      · rw [(tables_of_mem_indexSteps hstep).1, List.mem_singleton] at hname
        exact .inl hname
  | rebuild t copies reasons =>
      rcases List.mem_append.mp hstep with hstep | hstep
      · simp only [rebuildSteps, List.mem_cons, List.not_mem_nil, or_false] at hstep
        rcases hstep with rfl | rfl | rfl | rfl
        · rcases List.mem_cons.mp hname with rfl | hname
          · exact .inr (.inl rfl)
          · obtain ⟨r, hr, rfl⟩ := List.mem_map.mp hname
            exact .inr (.inr ⟨r, hr, rfl⟩)
        all_goals
          simp only [SchemaStep.tables, List.mem_cons, List.not_mem_nil, or_false] at hname
          simp only [temporary?, table, Option.some_inj]
          grind
      · rw [(tables_of_mem_indexSteps hstep).1, List.mem_singleton] at hname
        exact .inl hname
  | indexes table added removed =>
      rcases List.mem_append.mp hstep with hstep | hstep
      · obtain ⟨index, -, rfl⟩ := List.mem_map.mp hstep
        cases hname
      · rw [(tables_of_mem_indexSteps hstep).1, List.mem_singleton] at hname
        exact .inl hname

/-- A change drops no table but its own. -/
theorem eq_table_of_dropped? (hstep : step ∈ c.steps) (hname : step.dropped? = some name) :
  name = c.table
  := by
  cases c with
  | create t =>
      rcases List.mem_cons.mp hstep with rfl | hstep
      · cases hname
      · rw [(tables_of_mem_indexSteps hstep).2] at hname
        cases hname
  | rebuild t copies reasons =>
      rcases List.mem_append.mp hstep with hstep | hstep
      · simp only [rebuildSteps, List.mem_cons, List.not_mem_nil, or_false] at hstep
        rcases hstep with rfl | rfl | rfl | rfl <;> cases hname
        rfl
      · rw [(tables_of_mem_indexSteps hstep).2] at hname
        cases hname
  | indexes table added removed =>
      rcases List.mem_append.mp hstep with hstep | hstep
      · obtain ⟨index, -, rfl⟩ := List.mem_map.mp hstep
        cases hname
      · rw [(tables_of_mem_indexSteps hstep).2] at hname
        cases hname

/-- The change of a table references what the table does, if it makes it. -/
theorem references_of_changeFor? {live : Schema} {format : String} {t : TableShape}
    (h : changeFor? live format t = some c) {r : ReferenceShape} (hr : r ∈ c.references) :
  r ∈ t.references
  := by
  rcases Schema.changeFor?_eq_some h with ⟨-, rfl⟩ | ⟨current, -, ⟨-, rfl⟩ | ⟨-, hindex⟩⟩
  · exact hr
  · exact hr
  · rw [indexChange?_eq_some hindex] at hr
    cases hr

end Change

/-- If there is at most one change of each name, a table that is made anew is dropped in one
place only: after the rows have been taken over and before the new table gets its name. -/
theorem MigrationPlan.exists_rebuildSteps {plan : MigrationPlan} {t : TableShape}
    {copies : List ColumnCopy} {reasons : List Reason}
    (hapart : DistinctNames Change.table plan.changes)
    (h : .rebuild t copies reasons ∈ plan.changes) :
  ∃ before after, plan.steps = before ++ rebuildSteps t copies ++ after ∧
    ∀ step ∈ before ++ after, ∀ name ∈ step.dropped?, ¬ sameName name t.name
  := by
  obtain ⟨before, after, hsplit⟩ := List.append_of_mem h
  rw [hsplit] at hapart
  have hsteps : plan.steps = before.flatMap (·.steps) ++ rebuildSteps t copies ++
      (indexSteps t.name t.indexes ++ after.flatMap (·.steps)) := by
    rw [steps, hsplit, List.flatMap_append, List.flatMap_cons]
    simp [Change.steps]
  refine ⟨_, _, hsteps, ?_⟩
  intro step hstep name hname
  simp only [List.mem_append, List.mem_flatMap] at hstep
  have hother : ∃ c ∈ before ++ after, step ∈ c.steps := by
    rcases hstep with ⟨c, hc, hstep⟩ | hindex | ⟨c, hc, hstep⟩
    · exact ⟨c, List.mem_append_left _ hc, hstep⟩
    · rw [(Change.tables_of_mem_indexSteps hindex).2] at hname
      cases hname
    · exact ⟨c, List.mem_append_right _ hc, hstep⟩
  obtain ⟨c, hc, hstep⟩ := hother
  rw [Change.eq_table_of_dropped? hstep hname]
  apply hapart.not_sameName_of_split hc

end EntityStore
