import EntityStore.Graph.Loading
import EntityStore.Proofs.Include.Steps
import EntityStore.Proofs.Number.Decimal
import EntityStore.Proofs.Schema.Tables

/-!
# Columns of plans

The columns that a plan asks for are named by the number of their table and their own names.
So no two of them have the same name, and the reader of a table finds those of that table
under the names of its fields, and no others.
-/

namespace EntityStore

open Text Sql

/-! ### Columns of tables -/

namespace Descriptor

variable {d : Descriptor} {type : RecordType}

/-- A column that is found is one of the table, of the name that is asked for. -/
theorem column_of_resolve? {name column : String} {columnType : ColumnType}
    (h : d.resolve? name = some (column, columnType)) :
  column ∈ d.columnNames ∧ sameName name column
  := by
  unfold resolve? at h
  split at h
  · next hkey =>
      cases h
      exact ⟨mem_columnNames.mpr (.inl rfl), hkey⟩
  · split at h
    · next hflag =>
        cases h
        exact ⟨mem_columnNames.mpr (.inr (.inr rfl)), hflag⟩
    · obtain ⟨c, hc, heq⟩ := Option.map_eq_some_iff.mp h
      cases heq
      have hname := List.find?_some hc
      have hmem := List.mem_map_of_mem (f := (·.name)) (List.mem_of_find?_eq_some hc)
      exact ⟨mem_columnNames.mpr (.inr (.inl hmem)), sameName_symm hname⟩

/-- Every field of a type has a column in a table with its outline. -/
theorem exists_resolve? (h : d.outline = type.outline) {field : Field}
    (hfield : field ∈ type.fields) :
  ∃ column columnType, d.resolve? field.name = some (column, columnType)
  := by
  unfold resolve?
  split
  · exact ⟨_, _, rfl⟩
  · next hkey =>
      split
      · exact ⟨_, _, rfl⟩
      · next hflag =>
          have hdeclared : field.name ∈ type.declared.map (·.name) := by
            apply List.mem_map_of_mem
            apply List.mem_filter.mpr
            simp [hfield, Field.isImplicit, hkey, hflag]
          rw [← names_of_outline h] at hdeclared
          obtain ⟨c, hc, hname⟩ := List.mem_map.mp hdeclared
          have hfound : (d.column? field.name).isSome := by
            rw [column?, List.find?_isSome]
            use c, hc
            rw [hname]
            apply sameName_refl
          obtain ⟨found, hfound⟩ := Option.isSome_iff_exists.mp hfound
          exact ⟨found.name, found.type, by rw [hfound]; rfl⟩

/-- If the fields of a type with columns of their own have distinct names, so do all columns of
a table with its outline. -/
theorem distinct_columnNames (h : d.outline = type.outline)
    (hfields : DistinctNames Field.name type.declared) :
  DistinctNames id d.columnNames
  := by
  have hcolumns : d.columnNames = primaryKey :: type.declared.map (·.name) ++ [activeFlag] := by
    rw [← names_of_outline h]
    simp [columnNames, allColumns]
  have hdeclared : ∀ field ∈ type.declared,
      sameName field.name primaryKey = false ∧ sameName field.name activeFlag = false := by
    intro field hfield
    have hnot := (List.mem_filter.mp hfield).2
    simpa [Field.isImplicit] using hnot
  rw [DistinctNames, hcolumns, List.pairwise_append, List.pairwise_cons, List.pairwise_map]
  refine ⟨⟨?_, hfields⟩, by simp, ?_⟩
  · rw [List.forall_mem_map]
    intro field hfield
    rw [id, id, sameName_comm, (hdeclared field hfield).1]
    simp
  · intro name hname flag hflag
    obtain rfl := List.mem_singleton.mp hflag
    obtain rfl | hname := List.mem_cons.mp hname
    · decide
    · obtain ⟨field, hfield, rfl⟩ := List.mem_map.mp hname
      rw [id, id, (hdeclared field hfield).2]
      simp

end Descriptor

/-! ### Columns of results -/

namespace IncludePlan

/-- What a column of the result is called: by the number of its table and its own name. -/
def outputName (o : Nat × String) : String :=
  "t" ++ decimalText o.1 ++ "__" ++ o.2

/-- A column of the result in SQL. -/
def outputSql (o : Nat × String) : String :=
  "t" ++ decimalText o.1 ++ "." ++ o.2 ++ " AS " ++ quoteName (outputName o)

/-- The tables of a plan in the order of their numbers. -/
def descriptors (plan : IncludePlan) : List Descriptor :=
  plan.descriptor :: plan.steps.map (·.descriptor)

/-- The columns that a plan asks for, each with the number of its table. -/
def outputs (plan : IncludePlan) : List (Nat × String) :=
  plan.descriptors.zipIdx.flatMap fun (d, k) => d.columnNames.map (k, ·)

variable {plan : IncludePlan} {registry : Registry}

/-- The name of a column of the result, in small letters. -/
theorem toList_lower_outputName (o : Nat × String) :
  (lower (outputName o)).toList =
    't' :: (decimalDigits o.1 ++ '_' :: '_' :: (lower o.2).toList)
  := by
  have ht : (lower "t").toList = ['t'] := by decide
  have hline : (lower "__").toList = ['_', '_'] := by decide
  rw [outputName, lower_append, lower_append, lower_append, String.toList_append,
    String.toList_append, String.toList_append, ht, hline, toList_lower_decimalText]
  simp

/-- Columns of results have the same name only if they are the same column of one table. -/
theorem sameName_outputName_iff {o o' : Nat × String} :
  sameName (outputName o) (outputName o') ↔ o.1 = o'.1 ∧ sameName o.2 o'.2
  := by
  rw [sameName_iff, ← String.toList_inj, toList_lower_outputName, toList_lower_outputName,
    sameName_iff]
  constructor
  · intro h
    obtain ⟨hnumber, hname⟩ := decimalDigits_append_inj (by decide) (List.cons.inj h).2
    exact ⟨hnumber, String.toList_inj.mp (List.cons.inj hname).2⟩
  · rintro ⟨hnumber, hname⟩
    rw [hnumber, hname]

/-- A number leads to the table that steps can be linked from under it. -/
theorem getElem?_descriptors (plan : IncludePlan) (k : Nat) :
  plan.descriptors[k]? = (plan.anchor? k).map (·.descriptor)
  := by
  cases k with
  | zero => rfl
  | succ n =>
      simp only [descriptors, List.getElem?_cons_succ, List.getElem?_map, anchor?, Option.map_map]
      rfl

/-- A plan asks for the columns of its tables. -/
theorem mem_outputs {o : Nat × String} :
  o ∈ plan.outputs ↔
    ∃ anchor, plan.anchor? o.1 = some anchor ∧ o.2 ∈ anchor.descriptor.columnNames
  := by
  obtain ⟨k, column⟩ := o
  rw [outputs, List.mem_flatMap]
  constructor
  · rintro ⟨⟨d, n⟩, hd, ho⟩
    obtain ⟨column', hcolumn, heq⟩ := List.mem_map.mp ho
    cases heq
    rw [List.mem_zipIdx_iff_getElem?, getElem?_descriptors] at hd
    obtain ⟨anchor, hanchor, rfl⟩ := Option.map_eq_some_iff.mp hd
    exact ⟨anchor, hanchor, hcolumn⟩
  · rintro ⟨anchor, hanchor, hcolumn⟩
    refine ⟨(anchor.descriptor, k), ?_, List.mem_map_of_mem hcolumn⟩
    rw [List.mem_zipIdx_iff_getElem?, getElem?_descriptors, hanchor]
    rfl

/-- The columns of a result have distinct names if those of each table have. -/
theorem distinct_outputs
    (h : ∀ k anchor, plan.anchor? k = some anchor →
      DistinctNames id anchor.descriptor.columnNames) :
  DistinctNames outputName plan.outputs
  := by
  rw [DistinctNames, outputs, List.pairwise_flatMap]
  constructor
  · rintro ⟨d, k⟩ hd
    rw [List.mem_zipIdx_iff_getElem?, getElem?_descriptors] at hd
    obtain ⟨anchor, hanchor, rfl⟩ := Option.map_eq_some_iff.mp hd
    rw [List.pairwise_map]
    apply (h k anchor hanchor).imp
    intro a b hne hsame
    exact hne (sameName_outputName_iff.mp hsame).2
  · -- Columns of different tables have different numbers in their names.
    have hplaces : plan.descriptors.zipIdx.Pairwise fun a b => a.2 < b.2 := by
      rw [← List.pairwise_map (f := Prod.snd) (R := (· < ·)), List.zipIdx_map_snd]
      exact List.pairwise_lt_range'
    apply hplaces.imp
    rintro ⟨d, k⟩ ⟨d', k'⟩ hlt o ho o' ho' hsame
    obtain ⟨column, -, rfl⟩ := List.mem_map.mp ho
    obtain ⟨column', -, rfl⟩ := List.mem_map.mp ho'
    have hnumber := (sameName_outputName_iff.mp hsame).1
    simp only at hlt hnumber
    omega

/-- The columns of a table in the result are those under its number. -/
theorem projection_stepAlias (d : Descriptor) (k : Nat) :
  projection d (stepAlias k) = (d.columnNames.map (k, ·)).map outputSql
  := by
  rw [projection, Descriptor.columnNames, List.map_map, List.map_map]
  rfl

/-- The columns of tables under aliases with their numbers. -/
theorem flatMap_projection {steps : List IncludeStep} {first : Nat}
    (h : ∀ (n : Nat) s, steps[n]? = some s → s.tableAlias = stepAlias (first + n)) :
  (steps.flatMap fun s => projection s.descriptor s.tableAlias) =
    ((steps.map (·.descriptor)).zipIdx first).flatMap fun (d, k) => projection d (stepAlias k)
  := by
  induction steps generalizing first with
  | nil => rfl
  | cons s steps ih =>
      have hfirst := h 0 s rfl
      have haliases : ∀ (n : Nat) s, steps[n]? = some s →
          s.tableAlias = stepAlias (first + 1 + n) := by
        intro n s hs
        rw [h (n + 1) s hs]
        congr 1
        omega
      have hrest := ih haliases
      rw [List.flatMap_cons, hrest, hfirst]
      rfl

/-- A plan asks for its columns in their order, from its tables in their order. -/
theorem Connected.select_eq (h : plan.Connected registry) (filter : Option Fragment) :
  ∃ conditions, (plan.select filter).sql =
    "SELECT " ++ commaList (plan.outputs.map outputSql) ++ " FROM " ++
      quoteName plan.descriptor.table ++ " t0" ++ String.join (plan.steps.map joinSql) ++
      whereSql conditions ++ " ORDER BY t0.Id"
  := by
  have haliases : ∀ (n : Nat) s, plan.steps[n]? = some s → s.tableAlias = stepAlias (1 + n) := by
    intro n s hs
    rw [(h.steps n s hs).tableAlias, Nat.add_comm]
  have hsteps := flatMap_projection haliases
  have hcolumns : plan.outputs.map outputSql = projection plan.descriptor (stepAlias 0) ++
      plan.steps.flatMap fun s => projection s.descriptor s.tableAlias := by
    rw [hsteps, outputs, List.map_flatMap]
    simp only [← projection_stepAlias]
    rfl
  rw [hcolumns]
  have hroot : ∀ table : String, table ++ " t0" = table ++ " " ++ "t0" := by
    intro table
    rw [String.append_assoc]
    rfl
  rw [hroot]
  exact ⟨_, rfl⟩

end IncludePlan

end EntityStore
