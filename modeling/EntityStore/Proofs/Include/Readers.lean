import EntityStore.Proofs.Entity.Guards
import EntityStore.Proofs.Include.Columns

/-!
# Readers of plans

The rows of a plan have the columns that it asks for.  What reads the records of a table from
them takes each field from the column of that table, and nothing from the columns of others.
-/

namespace EntityStore

open Text Sql

/-! ### Reading rows -/

namespace RowMapper

variable {type : RecordType} {columns : Columns} {lead format : String}

/-- A field is read from the column that is found under its name. -/
theorem mem_slots_build {p i : Nat} :
  (p, i) ∈ (build type columns lead format).slots ↔
    ∃ field, type.fields[i]? = some field ∧ columns.indexOf? (lead ++ field.name) = some p
  := by
  rw [build, List.mem_filterMap]
  constructor
  · rintro ⟨⟨field, i'⟩, hfield, hp⟩
    obtain ⟨p', hindex, heq⟩ := Option.map_eq_some_iff.mp hp
    cases heq
    exact ⟨field, List.mem_zipIdx_iff_getElem?.mp hfield, hindex⟩
  · rintro ⟨field, hfield, hindex⟩
    refine ⟨(field, i), List.mem_zipIdx_iff_getElem?.mpr hfield, ?_⟩
    simp [hindex]

/-- The key is read from the column that is found under its name. -/
theorem keyColumn_build :
  (build type columns lead format).keyColumn = columns.indexOf? (lead ++ primaryKey)
  := rfl

/-- Every field is read once if every field has a column. -/
theorem places_build
    (h : ∀ field ∈ type.fields, ∃ p, columns.indexOf? (lead ++ field.name) = some p) :
  (build type columns lead format).slots.map (·.2) = List.range type.fields.length
  := by
  have hplace : ∀ x ∈ type.fields.zipIdx,
      ((columns.indexOf? (lead ++ x.1.name)).map (·, x.2)).map Prod.snd = some x.2 := by
    rintro ⟨field, i⟩ hx
    obtain ⟨p, hp⟩ := h field (List.fst_mem_of_mem_zipIdx hx)
    simp [hp]
  calc
    (build type columns lead format).slots.map (·.2) =
        type.fields.zipIdx.filterMap fun x =>
          ((columns.indexOf? (lead ++ x.1.name)).map (·, x.2)).map Prod.snd := by
      rw [build, List.map_filterMap]
    _ = type.fields.zipIdx.filterMap (some ∘ Prod.snd) := List.filterMap_congr hplace
    _ = List.range type.fields.length := by
      rw [List.filterMap_eq_map, List.zipIdx_map_snd, List.range_eq_range']

/-- A record depends on the columns of its fields only. -/
theorem map_congr {m : RowMapper} {row row' : Row}
    (h : ∀ slot ∈ m.slots, row.at? slot.1 = row'.at? slot.1) :
  m.map row = m.map row'
  := by
  apply foldlM_congr
  intro slot hslot r
  unfold fill
  rw [h slot hslot]

/-- A key depends on its column only. -/
theorem key?_congr {m : RowMapper} {row row' : Row}
    (h : ∀ p ∈ m.keyColumn, row.at? p = row'.at? p) :
  m.key? row = m.key? row'
  := by
  unfold key?
  cases hkey : m.keyColumn with
  | none => rfl
  | some p =>
      show (row.at? p).bind Value.asInt? = (row'.at? p).bind Value.asInt?
      rw [h p hkey]

end RowMapper

/-- The reader of a table of a plan, by its number. -/
def RowReaders.reader? (readers : RowReaders) : Nat → Option RowMapper
  | 0 => some readers.root
  | n + 1 => readers.steps[n]?

namespace IncludePlan

variable {plan : IncludePlan} {registry : Registry} {k : Nat} {anchor : Anchor}

/-- The reader of a table takes its records from the columns of that table: each field from the
one that has its name, and the key from that of the key.  It takes nothing from others. -/
structure ReadsOwn (plan : IncludePlan) (k : Nat) (anchor : Anchor) (reader : RowMapper) :
    Prop where
  type : reader.type = anchor.type.record
  fields : reader.slots.map (·.2) = List.range anchor.type.record.fields.length
  columns : ∀ p i, (p, i) ∈ reader.slots →
    ∃ field column columnType, anchor.type.record.fields[i]? = some field ∧
      anchor.descriptor.resolve? field.name = some (column, columnType) ∧
      plan.outputs[p]? = some (k, column)
  key : ∃ p, reader.keyColumn = some p ∧ plan.outputs[p]? = some (k, "Id")
  own : ∀ row row' : Row,
    (∀ p column, plan.outputs[p]? = some (k, column) → row.at? p = row'.at? p) →
    reader.map row = reader.map row' ∧ reader.key? row = reader.key? row'

/-- The table of the root or of a step is that of its type. -/
theorem type_of_anchor? (h : plan.anchor? k = some anchor) :
  anchor.type = plan.root ∨ anchor.type ∈ plan.steps.map (·.type)
  := by
  cases k with
  | zero =>
      cases h
      left
      rfl
  | succ n =>
      obtain ⟨s, hs, rfl⟩ := Option.map_eq_some_iff.mp h
      right
      apply List.mem_map_of_mem (List.mem_of_getElem? hs)

/-- Every table has its reader. -/
theorem reader?_build (hconnected : plan.Connected registry)
    (hanchor : plan.anchor? k = some anchor) (columns : Columns) (format : String) :
  (RowReaders.build plan columns format).reader? k =
    some (.build anchor.type.record columns (columnLead (stepAlias k)) format)
  := by
  have halias := hconnected.alias_of_anchor? hanchor
  cases k with
  | zero =>
      cases hanchor
      rfl
  | succ n =>
      obtain ⟨s, hs, rfl⟩ := Option.map_eq_some_iff.mp hanchor
      have halias : s.tableAlias = stepAlias (n + 1) := halias
      simp [RowReaders.reader?, RowReaders.build, hs, halias]

/-- A column of a table is found under any spelling of its name behind the lead of the table. -/
theorem exists_indexOf? (hdistinct : DistinctNames outputName plan.outputs)
    (hanchor : plan.anchor? k = some anchor) {name column : String}
    (hcolumn : column ∈ anchor.descriptor.columnNames) (hsame : sameName name column) :
  ∃ p, plan.outputs[p]? = some (k, column) ∧
    Columns.indexOf? (plan.outputs.map outputName) (columnLead (stepAlias k) ++ name) = some p
  := by
  have hmem : (k, column) ∈ plan.outputs := mem_outputs.mpr ⟨anchor, hanchor, hcolumn⟩
  obtain ⟨p, hp⟩ := List.mem_iff_getElem?.mp hmem
  use p, hp
  apply hdistinct.findIdx?_eq hp
  have hname : sameName (outputName (k, name)) (outputName (k, column)) :=
    sameName_outputName_iff.mpr ⟨rfl, hsame⟩
  exact hname

/-- What is built to read the records of a table reads its own columns. -/
theorem readsOwn_build (hdistinct : DistinctNames outputName plan.outputs)
    (hanchor : plan.anchor? k = some anchor)
    (houtline : anchor.descriptor.outline = anchor.type.record.outline) (format : String) :
  plan.ReadsOwn k anchor
    (.build anchor.type.record (plan.outputs.map outputName) (columnLead (stepAlias k)) format)
  := by
  -- The spelling of a field may differ from that of its column, which is found all the same.
  have hfield : ∀ field ∈ anchor.type.record.fields, ∃ p column columnType,
      anchor.descriptor.resolve? field.name = some (column, columnType) ∧
      plan.outputs[p]? = some (k, column) ∧
      Columns.indexOf? (plan.outputs.map outputName)
        (columnLead (stepAlias k) ++ field.name) = some p := by
    intro field hfield
    obtain ⟨column, columnType, hresolve⟩ := Descriptor.exists_resolve? houtline hfield
    obtain ⟨hcolumn, hsame⟩ := Descriptor.column_of_resolve? hresolve
    obtain ⟨p, hp, hindex⟩ := exists_indexOf? hdistinct hanchor hcolumn hsame
    exact ⟨p, column, columnType, hresolve, hp, hindex⟩
  have hcolumns : ∀ p i, (p, i) ∈ (RowMapper.build anchor.type.record
      (plan.outputs.map outputName) (columnLead (stepAlias k)) format).slots →
      ∃ field column columnType, anchor.type.record.fields[i]? = some field ∧
        anchor.descriptor.resolve? field.name = some (column, columnType) ∧
        plan.outputs[p]? = some (k, column) := by
    intro p i hslot
    obtain ⟨field, hi, hindex⟩ := RowMapper.mem_slots_build.mp hslot
    obtain ⟨p', column, columnType, hresolve, hp, hindex'⟩ :=
      hfield field (List.mem_of_getElem? hi)
    rw [hindex] at hindex'
    cases hindex'
    exact ⟨field, column, columnType, hi, hresolve, hp⟩
  obtain ⟨p, hp, hindex⟩ := exists_indexOf? hdistinct hanchor
    (Descriptor.mem_columnNames.mpr (.inl rfl)) (sameName_refl primaryKey)
  constructor
  · rfl
  · apply RowMapper.places_build
    intro field hmem
    obtain ⟨p, column, columnType, -, -, hindex⟩ := hfield field hmem
    exact ⟨p, hindex⟩
  · exact hcolumns
  · rw [RowMapper.keyColumn_build]
    exact ⟨p, hindex, hp⟩
  · intro row row' hrows
    constructor
    · apply RowMapper.map_congr
      rintro ⟨p, i⟩ hslot
      obtain ⟨field, column, columnType, -, -, hp⟩ := hcolumns p i hslot
      exact hrows p column hp
    · apply RowMapper.key?_congr
      intro q hq
      rw [RowMapper.keyColumn_build, hindex] at hq
      cases hq
      exact hrows p primaryKey hp

/-! ### Plans -/

/-- A step hangs below the root or an earlier step: its table is joined under the alias of its
number, by a column of its own and one of the table that it hangs below. -/
structure Hangs (plan : IncludePlan) (n : Nat) (s : IncludeStep) : Prop where
  parent : s.parent < n + 1
  join : ∃ anchor, plan.anchor? s.parent = some anchor ∧
    anchor.tableAlias = stepAlias s.parent ∧
    ∃ own ∈ s.descriptor.columnNames, ∃ other ∈ anchor.descriptor.columnNames,
      joinSql s =
        " LEFT JOIN " ++ quoteName s.descriptor.table ++ " " ++ stepAlias (n + 1) ++ " ON " ++
          (stepAlias (n + 1) ++ "." ++ own ++ " = " ++ stepAlias s.parent ++ "." ++ other) ++
          if s.descriptor.softDelete then " AND " ++ stepAlias (n + 1) ++ ".IsActive = 1" else ""

/-- The rows of a step are joined by its pairing, and by its guard if it has one. -/
theorem joinSql_eq (s : IncludeStep) :
  joinSql s =
    " LEFT JOIN " ++ quoteName s.descriptor.table ++ " " ++ s.tableAlias ++ " ON " ++
      s.pairing.sql ++
      if s.descriptor.softDelete then " AND " ++ s.tableAlias ++ ".IsActive = 1" else ""
  := by
  have hboth : ∀ a b, allOf [a, b] = a ++ (" AND " ++ b) := by
    intro a b
    rw [allOf, String.intercalate_cons_cons, String.intercalate_singleton, String.append_assoc]
  have hone : ∀ a, allOf [a] = a := fun a => String.intercalate_singleton
  unfold joinSql
  cases s.descriptor.softDelete with
  | false =>
      show " LEFT JOIN " ++ quoteName s.descriptor.table ++ " " ++ s.tableAlias ++ " ON " ++
        allOf [s.pairing.sql] = _
      rw [hone]
      exact String.append_empty.symm
  | true =>
      show " LEFT JOIN " ++ quoteName s.descriptor.table ++ " " ++ s.tableAlias ++ " ON " ++
        allOf [s.pairing.sql, activeGuard s.tableAlias] = _
      rw [hboth, activeGuard_eq, if_pos rfl]
      simp only [String.append_assoc]

/-- The steps of a plan hang below each other. -/
theorem Connected.hangs (h : plan.Connected registry) {n : Nat} {s : IncludeStep}
    (hs : plan.steps[n]? = some s) :
  plan.Hangs n s
  := by
  have hfits := h.steps n s hs
  obtain ⟨anchor, hanchor, halias, own, hown, other, hother, hpairing⟩ := hfits.pairing
  refine ⟨Nat.lt_succ_of_le hfits.parent, anchor, hanchor, halias, own, hown, other, hother, ?_⟩
  have hsql : s.pairing.sql =
      stepAlias (n + 1) ++ "." ++ own ++ " = " ++ stepAlias s.parent ++ "." ++ other := by
    rw [hpairing, hfits.tableAlias, halias]
    rfl
  rw [← hsql, ← hfits.tableAlias]
  apply joinSql_eq

end IncludePlan

/-- However a plan is put together for types of a model, its steps form a tree and are joined in
its order.  The columns that it asks for have distinct names, and what reads the records of a
table takes each field from the column of that table that has its name, and nothing from the
columns of other tables. -/
theorem IncludePlan.columns_apart {m : Model} {registry : Registry} {root : EntityType}
    {inclusions : List Inclusion} {plan : IncludePlan} (hbuild : Registry.build m = .ok registry)
    (hfields : ∀ e ∈ m.entities, DistinctNames Field.name e.record.declared)
    (hroot : root ∈ m.entities) (hchildren : ∀ i ∈ inclusions, i.child ∈ m.entities)
    (hplan : IncludePlan.build registry root inclusions = .ok plan) :
  (plan.root = root ∧ plan.steps.map (·.type) = inclusions.map (·.child)) ∧
  (∀ (n : Nat) s, plan.steps[n]? = some s → plan.Hangs n s) ∧
  (∀ filter, ∃ conditions, (plan.select filter).sql =
    "SELECT " ++ commaList (plan.outputs.map outputSql) ++ " FROM " ++
      quoteName plan.descriptor.table ++ " t0" ++ String.join (plan.steps.map joinSql) ++
      whereSql conditions ++ " ORDER BY t0.Id") ∧
  DistinctNames outputName plan.outputs ∧
  ∀ k anchor, plan.anchor? k = some anchor → ∀ format, ∃ reader,
    (RowReaders.build plan (plan.outputs.map outputName) format).reader? k = some reader ∧
      plan.ReadsOwn k anchor reader
  := by
  obtain ⟨hconnected, hplanRoot, htypes⟩ := connected_of_build hplan
  have houtline : ∀ k anchor, plan.anchor? k = some anchor →
      anchor.type ∈ m.entities ∧ anchor.descriptor.outline = anchor.type.record.outline := by
    intro k anchor hanchor
    have htype : anchor.type = root ∨ ∃ i ∈ inclusions, i.child = anchor.type := by
      rw [← hplanRoot, ← List.mem_map, ← htypes]
      apply type_of_anchor? hanchor
    have hmem : anchor.type ∈ m.entities := by
      obtain heq | ⟨i, hi, heq⟩ := htype
      · rwa [heq]
      · rw [← heq]
        apply hchildren i hi
    obtain ⟨d, hd, houtline⟩ := Registry.exists_of_mem hbuild hmem
    rw [hconnected.registered hanchor] at hd
    cases hd
    exact ⟨hmem, houtline⟩
  have hdistinct : DistinctNames outputName plan.outputs := by
    apply distinct_outputs
    intro k anchor hanchor
    obtain ⟨hmem, houtline⟩ := houtline k anchor hanchor
    apply Descriptor.distinct_columnNames houtline (hfields _ hmem)
  refine ⟨⟨hplanRoot, htypes⟩, fun n s => hconnected.hangs, hconnected.select_eq, hdistinct, ?_⟩
  intro k anchor hanchor format
  obtain ⟨-, houtline⟩ := houtline k anchor hanchor
  exact ⟨_, reader?_build hconnected hanchor _ format,
    readsOwn_build hdistinct hanchor houtline format⟩

/-- Nodes with a reference to their parents, and a column whose name could end that of a lead. -/
def node : EntityType where
  record := ⟨"Node", [.ofColumn "Id" .integer false, .ofColumn "ParentId" .integer true,
    .ofColumn "_1" .integer false]⟩
  table := "Node"
  description := [.foreignKey "ParentId" { table := "Node" }]

/-- Nodes with the nodes above them, eleven levels up. -/
theorem ancestors_apart :
  let registry : Registry := ⟨[node.draft.descriptor]⟩
  let inclusions : List IncludePlan.Inclusion := (List.range 11).map fun n =>
    { cardinality := .one, child := node, navigation := "Parent", parent := n }
  Registry.build ⟨[node], []⟩ = .ok registry ∧
    (∀ e ∈ [node], DistinctNames Field.name e.record.declared) ∧ node ∈ [node] ∧
    (∀ i ∈ inclusions, i.child ∈ [node]) ∧
    ∃ plan, IncludePlan.build registry node inclusions = .ok plan ∧ plan.steps.length = 11 ∧
      DistinctNames IncludePlan.outputName plan.outputs ∧
      ∀ k anchor, plan.anchor? k = some anchor → ∃ reader,
        (RowReaders.build plan (plan.outputs.map IncludePlan.outputName) "").reader? k =
          some reader ∧ plan.ReadsOwn k anchor reader
  := by
  intro registry inclusions
  have hbuild : Registry.build ⟨[node], []⟩ = .ok registry := by decide +kernel
  have hfields : ∀ e ∈ [node], DistinctNames Field.name e.record.declared := by decide
  have hroot : node ∈ [node] := List.mem_singleton_self node
  have hchildren : ∀ i ∈ inclusions, i.child ∈ [node] := by
    rw [List.forall_mem_map]
    intro n _
    exact hroot
  have hplan : (IncludePlan.build registry node inclusions).toOption.isSome = true := by
    decide +kernel
  obtain ⟨plan, hplan⟩ := Option.isSome_iff_exists.mp hplan
  have hplan := toOption_eq_some_iff.mp hplan
  obtain ⟨⟨-, htypes⟩, -, -, hdistinct, hreaders⟩ :=
    IncludePlan.columns_apart hbuild hfields hroot hchildren hplan
  have hlength := congrArg List.length htypes
  refine ⟨hbuild, hfields, hroot, hchildren, plan, hplan, ?_, hdistinct, ?_⟩
  · simpa [inclusions] using hlength
  · intro k anchor hanchor
    exact hreaders k anchor hanchor ""

end EntityStore
