import EntityStore.Proofs.Include.Columns
import EntityStore.Proofs.Schema.ConstraintText

/-!
# Names of constraints of accepted models

The names in the tables of an accepted model are identifiers.  So whatever its columns are
called, the statement that makes a table names exactly its foreign keys and its unique
constraints, and each of them has its own name under its columns.
-/

namespace EntityStore

open Text Sql Recognize

/-! ### Identifiers -/

namespace Sql

/-- A capital letter becomes a small one. -/
theorem isLower_toLower {c : Char} (h : c.val ≥ 'A'.val ∧ c.val ≤ 'Z'.val) :
  c.toLower.isLower = true
  := by
  have hval : c.toLower.val = c.val + 32 := by
    unfold Char.toLower
    rw [dif_pos h]
    rfl
  have hleast : 65 ≤ c.toNat := h.1
  have hmost : c.toNat ≤ 90 := h.2
  have hsmall : c.toLower.toNat = c.toNat + 32 := by
    show c.toLower.val.toNat = c.val.toNat + 32
    rw [hval, UInt32.toNat_add]
    have hthirty : (32 : UInt32).toNat = 32 := rfl
    have hcode : c.val.toNat = c.toNat := rfl
    omega
  have hfrom : 'a'.val ≤ c.toLower.val := by
    show 97 ≤ c.toLower.toNat
    omega
  have hto : c.toLower.val ≤ 'z'.val := by
    show c.toLower.toNat ≤ 122
    omega
  exact (Bool.and_eq_true _ _).mpr ⟨decide_eq_true hfrom, decide_eq_true hto⟩

/-- Only letters have another case, and they begin identifiers in either. -/
theorem toLower_cases (c : Char) :
  c.toLower = c ∨ startsIdentifier c = true ∧ startsIdentifier c.toLower = true
  := by
  by_cases h : c.val ≥ 'A'.val ∧ c.val ≤ 'Z'.val
  · right
    have hupper : c.isUpper = true := decide_eq_true h
    constructor
    · show (c.isUpper || c.isLower || c == '_') = true
      rw [hupper]
      rfl
    · show (c.toLower.isUpper || c.toLower.isLower || c.toLower == '_') = true
      rw [isLower_toLower h, Bool.or_true]
      rfl
  · left
    unfold Char.toLower
    rw [dif_neg h]

/-- Case makes no difference to identifiers. -/
theorem isIdentifier_lower (name : String) :
  isIdentifier (lower name) = isIdentifier name
  := by
  have hstarts (c : Char) : startsIdentifier c.toLower = startsIdentifier c := by
    obtain h | ⟨h, hlower⟩ := toLower_cases c
    · rw [h]
    · rw [h, hlower]
  have hcontinues (c : Char) : continuesIdentifier c.toLower = continuesIdentifier c := by
    obtain h | ⟨h, hlower⟩ := toLower_cases c
    · rw [h]
    · rw [continuesIdentifier_of_startsIdentifier h,
        continuesIdentifier_of_startsIdentifier hlower]
  unfold isIdentifier lower
  rw [String.toList_ofList]
  cases name.toList with
  | nil => rfl
  | cons c cs => simp [hstarts, List.all_map, Function.comp_def, hcontinues]

/-- A name that is an identifier but for the case of its letters is one. -/
theorem isIdentifier_of_sameName {a b : String} (h : sameName a b = true)
    (hb : isIdentifier b = true) :
  isIdentifier a = true
  := by
  rw [← isIdentifier_lower, sameName_iff.mp h, isIdentifier_lower, hb]

/-- An identifier with more characters of identifiers is one. -/
theorem isIdentifier_append {a b : String} (ha : isIdentifier a = true)
    (hb : ∀ c ∈ b.toList, continuesIdentifier c = true) :
  isIdentifier (a ++ b) = true
  := by
  obtain ⟨c, cs, hname, hc, hcs⟩ := exists_of_isIdentifier ha
  have hchars : (a ++ b).toList = c :: (cs ++ b.toList) := by
    rw [String.toList_append, hname, List.cons_append]
  rw [isIdentifier, hchars]
  simp only [Bool.and_eq_true, List.all_eq_true, List.forall_mem_append]
  exact ⟨hc, hcs, hb⟩

end Sql

/-! ### Shapes -/

/-- No digit begins the keyword of a constraint. -/
theorem isLetter_of_isDigit {c : Char} (h : c.isDigit = true) :
  isLetter 'C' c.toUpper = false
  := by
  obtain ⟨-, hmost⟩ := Char.isDigit_iff_toNat.mp h
  have hnine : '9'.toNat = 57 := rfl
  have hupper : c.toUpper = c := by
    unfold Char.toUpper
    rw [dif_neg]
    rintro ⟨hleast, -⟩
    have hleast : 97 ≤ c.toNat := hleast
    omega
  have hne : c ≠ 'C' := by
    rintro rfl
    cases h
  simp [isLetter, hupper, hne]

/-- No constraint begins in the type of a column. -/
theorem silent_sqlName? {type : ColumnType} {length : Option Nat} {sqlType : String}
    (h : type.sqlName? length = some sqlType) :
  Silent (upper sqlType).toList
  := by
  cases type with
  | text =>
      cases length with
      | none =>
          cases h
          exact silent_of_calm (by decide +kernel)
      | some n =>
          cases h
          have hlead : Silent (upper "VARCHAR(").toList := silent_of_calm (by decide +kernel)
          have hend : Silent (upper ")").toList := silent_of_calm (by decide +kernel)
          have hdigits : Silent ((decimalDigits n).map Char.toUpper) := by
            apply silent_of_forall
            rw [List.forall_mem_map]
            intro c hc
            apply isLetter_of_isDigit (isDigit_of_mem_decimalDigits hc)
          have htext : (upper ("VARCHAR(" ++ decimalText n ++ ")")).toList =
              (upper "VARCHAR(").toList ++ (decimalDigits n).map Char.toUpper ++
                (upper ")").toList := by
            simp only [upper, String.toList_ofList, String.toList_append, List.map_append,
              toList_decimalText]
          show Silent (upper ("VARCHAR(" ++ decimalText n ++ ")")).toList
          rw [htext]
          apply (hlead.append hdigits).append hend
  | integer | real | boolean | guid | dateTime | blob =>
      cases h
      exact silent_of_calm (by decide +kernel)
  | custom name => cases h

/-- No constraint begins in what happens to a row that loses what it references. -/
theorem silent_onDelete (action : ReferentialAction) :
  Silent action.sql.toList
  := by cases action <;> exact silent_of_calm (by decide +kernel)

namespace Descriptor

variable {d : Descriptor} {t : TableShape}

/-- The names that the shape of a table is made from are identifiers. -/
structure Spelled (d : Descriptor) : Prop where
  table : isIdentifier d.table = true
  columns : ∀ c ∈ d.columns, isIdentifier c.name = true
  references : ∀ c fk, (c, fk) ∈ d.foreignKeys →
    isIdentifier fk.table = true ∧ isIdentifier fk.column = true

/-- The names in a registry that is built are identifiers. -/
theorem spelled_of_build {m : Model} {r : Registry} (h : Registry.build m = .ok r) :
  ∀ d ∈ r.descriptors, d.Spelled
  := by
  obtain ⟨hnames, hreferences⟩ := Registry.problems_of_build h
  intro d hd
  have htables := Assembly.isIdentifier_of_allNameProblems hnames
  have hcolumns := Assembly.named_of_allNameProblems hnames
  refine ⟨htables d hd, hcolumns d hd, ?_⟩
  intro c fk hfk
  obtain ⟨e, he, hcolumn⟩ := Assembly.exists_column_of_referenceProblems hreferences hd hfk
  obtain ⟨⟨name, type⟩, hname⟩ := Option.isSome_iff_exists.mp hcolumn
  obtain ⟨hmem, hsame⟩ := column_of_resolve? hname
  have htable : sameName e.table fk.table = true := by simpa using List.find?_some he
  have he := List.mem_of_find?_eq_some he
  constructor
  · apply isIdentifier_of_sameName (sameName_symm htable) (htables e he)
  · apply isIdentifier_of_sameName hsame
    obtain rfl | hmem | rfl := mem_columnNames.mp hmem
    · decide
    · obtain ⟨c, hc, rfl⟩ := List.mem_map.mp hmem
      apply hcolumns e he c hc
    · decide

/-- The name of a foreign key is an identifier. -/
theorem isIdentifier_referenceName (h : d.Spelled) {column : String}
    (hcolumn : isIdentifier column = true) :
  isIdentifier (referenceName d.table column) = true
  := by
  show isIdentifier ("FK_" ++ d.table ++ "_" ++ column) = true
  have hlead : isIdentifier "FK_" = true := by decide
  apply isIdentifier_append _ (chars_of_isIdentifier hcolumn).2
  apply isIdentifier_append _ (List.all_eq_true.mp (by decide))
  apply isIdentifier_append hlead (chars_of_isIdentifier h.table).2

/-- The name of a unique constraint is an identifier. -/
theorem isIdentifier_uniqueName (h : d.Spelled) (number : Nat) :
  isIdentifier (uniqueName d.table number) = true
  := by
  show isIdentifier ("UQ_" ++ d.table ++ "_" ++ decimalText number) = true
  have hlead : isIdentifier "UQ_" = true := by decide
  apply isIdentifier_append_decimalText
  apply isIdentifier_append _ (List.all_eq_true.mp (by decide))
  apply isIdentifier_append hlead (chars_of_isIdentifier h.table).2

/-- A unique group has its columns in order, of which there is at least one. -/
theorem columns_of_mem_uniqueGroups {group : UInt32} {columns : List String}
    (h : (group, columns) ∈ d.uniqueGroups) :
  columns = (d.columns.filter fun c => c.uniqueGroup = some group).map (·.name) ∧ columns ≠ []
  := by
  obtain ⟨g, hg, heq⟩ := List.mem_map.mp h
  cases heq
  use rfl
  rw [groupNumbers, List.mem_mergeSort, List.mem_eraseDups, List.mem_filterMap] at hg
  obtain ⟨c, hc, hgroup⟩ := hg
  rw [Ne, List.map_eq_nil_iff, List.filter_eq_nil_iff]
  intro hnone
  apply hnone c hc
  simpa using hgroup

/-- The unique constraints of the table of a descriptor are its unique groups. -/
theorem uniques_of_shape (ht : d.shape = .ok t) {u : UniqueShape} (hu : u ∈ t.uniques) :
  ∃ group columns, (group, columns) ∈ d.uniqueGroups ∧
    u = ⟨some (uniqueName d.table group.toNat), columns⟩
  := by
  obtain ⟨declared, -, heq⟩ := exists_of_bind_ok ht
  cases heq
  obtain ⟨⟨group, columns⟩, hgroup, rfl⟩ := List.mem_map.mp (List.mem_mergeSort.mp hu)
  exact ⟨group, columns, hgroup, rfl⟩

/-- The shape of a declared column. -/
theorem legible_columnShape {c : Column} {shape : ColumnShape} (hc : isIdentifier c.name = true)
    (h : d.columnShape c = .ok shape) :
  shape.Legible
  := by
  unfold columnShape at h
  split at h
  · next sqlType htype =>
      cases h
      exact ⟨hc, silent_sqlName? htype⟩
  · cases h

/-- The columns of the table of a descriptor can be told apart from constraints. -/
theorem legible_columns (h : d.Spelled) (ht : d.shape = .ok t) :
  ∀ c ∈ t.columns, c.Legible
  := by
  obtain ⟨declared, hdeclared, heq⟩ := exists_of_bind_ok ht
  cases heq
  show ∀ c ∈ keyShape :: declared ++ [activeShape], c.Legible
  rw [List.forall_mem_append, List.forall_mem_cons, List.forall_mem_singleton]
  have hkey : keyShape.Legible := ⟨by decide, silent_of_calm (by decide +kernel)⟩
  have hflag : activeShape.Legible := ⟨by decide, silent_of_calm (by decide +kernel)⟩
  refine ⟨⟨hkey, ?_⟩, hflag⟩
  intro shape hshape
  have hmem : .ok shape ∈ d.columns.map d.columnShape := by
    rw [map_eq_of_mapM_ok hdeclared]
    apply List.mem_map_of_mem hshape
  obtain ⟨c, hc, hok⟩ := List.mem_map.mp hmem
  apply legible_columnShape (h.columns c hc) hok

/-- All parts of the shape of a table can be told apart in a text. -/
theorem legible_shape (h : d.Spelled) (ht : d.shape = .ok t) :
  t.Legible
  := by
  constructor
  · rw [name_of_shape ht]
    apply h.table
  · apply legible_columns h ht
  · intro u hu
    obtain ⟨group, columns, hgroup, rfl⟩ := uniques_of_shape ht hu
    obtain ⟨hcolumns, hne⟩ := columns_of_mem_uniqueGroups hgroup
    have hname := isIdentifier_uniqueName h group.toNat
    have hidentifiers : ∀ name ∈ columns, isIdentifier name = true := by
      rw [hcolumns, List.forall_mem_map]
      intro c hc
      apply h.columns c (List.mem_of_mem_filter hc)
    exact ⟨⟨_, rfl, hname⟩, hne, hidentifiers⟩
  · intro f hf
    obtain ⟨c, fk, hfk, rfl⟩ := references_of_shape ht hf
    have hcolumn : isIdentifier c.name = true := by
      obtain ⟨column, hmem, heq⟩ := List.mem_filterMap.mp hfk
      obtain ⟨other, -, heq⟩ := Option.map_eq_some_iff.mp heq
      cases heq
      apply h.columns c hmem
    obtain ⟨htable, hforeign⟩ := h.references c fk hfk
    exact ⟨⟨_, rfl, isIdentifier_referenceName h hcolumn⟩, hcolumn, htable, hforeign,
      silent_onDelete fk.onDelete⟩

end Descriptor

/-! ### Names under columns -/

/-- Names of constraints that are those of a table, no more and no fewer. -/
structure ConstraintNames.Of (n : ConstraintNames) (t : TableShape) : Prop where
  foreignKeys : n.foreignKeys.map (fun e => (e.1, some e.2)) =
    t.references.map fun f => (lower f.column, f.name)
  nodup : (n.foreignKeys.map (·.1)).Nodup
  uniques : n.uniques.map (fun e => (some e.1, e.2)) = t.uniques.map fun u => (u.name, u.columns)
  foreignKey? : ∀ column, n.foreignKey? column = (t.reference? column).bind (·.name)
  unique? : ∀ u ∈ t.uniques, n.unique? u.columns = u.name

namespace ConstraintNames

/-- Names of foreign keys under different columns are all kept. -/
theorem foldl_insertForeignKey {entries names : List (String × String)}
    (h : (names.map (·.1) ++ entries.map fun e => lower e.2).Nodup) :
  entries.foldl (fun names (name, column) => insertForeignKey names column name) names =
    names ++ entries.map fun e => (lower e.2, e.1)
  := by
  induction entries generalizing names with
  | nil => simp
  | cons e entries ih =>
      obtain ⟨name, column⟩ := e
      have hnew : ∀ entry ∈ names, decide (entry.1 ≠ lower column) = true := by
        intro entry hentry
        apply decide_eq_true
        have hapart := (List.nodup_append.mp h).2.2
        apply hapart _ (List.mem_map_of_mem hentry) _ List.mem_cons_self
      have hinsert : insertForeignKey names column name = names ++ [(lower column, name)] := by
        rw [insertForeignKey, List.filter_eq_self.mpr hnew]
      show entries.foldl _ (insertForeignKey names column name) = _
      rw [hinsert, ih]
      · simp
      · simpa using h

/-- A foreign key is found under every spelling of its column. -/
theorem lookup_references {references : List ReferenceShape}
    (hnamed : ∀ f ∈ references, ∃ name, f.name = some name) (column : String) :
  (references.map fun f => (lower f.column, f.name.getD "")).lookup (lower column) =
    (references.find? fun f => sameName f.column column).bind (·.name)
  := by
  induction references with
  | nil => rfl
  | cons f references ih =>
      rw [List.forall_mem_cons] at hnamed
      obtain ⟨⟨name, hname⟩, hnamed⟩ := hnamed
      rw [List.map_cons, List.lookup_cons, List.find?_cons]
      by_cases hsame : sameName f.column column = true
      · have hkey : (lower column == lower f.column) = true :=
          beq_iff_eq.mpr (sameName_iff.mp hsame).symm
        simp [hkey, hsame, hname]
      · have hkey : (lower column == lower f.column) = false := by
          rw [← Bool.not_eq_true, beq_iff_eq]
          intro heq
          exact hsame (sameName_iff.mpr heq.symm)
        simp [hkey, hsame, ih hnamed]

/-- A unique constraint is the first one with its columns if no other one has them. -/
theorem find?_sameNames {uniques : List UniqueShape}
    (h : ∀ u ∈ uniques, ∀ v ∈ uniques, sameNames u.columns v.columns = true → u = v)
    {u : UniqueShape} (hu : u ∈ uniques) :
  (uniques.find? fun v => sameNames v.columns u.columns) = some u
  := by
  cases hfind : uniques.find? fun v => sameNames v.columns u.columns with
  | none => simpa [sameNames] using List.find?_eq_none.mp hfind u hu
  | some v =>
      have hsame : sameNames v.columns u.columns = true := by
        simpa using List.find?_some hfind
      rw [h v (List.mem_of_find?_eq_some hfind) u hu hsame]

/-- The names in the statement that makes a table are those of the table, if its foreign keys
have different columns and no two unique constraints have the same ones. -/
theorem of_create {t : TableShape} (h : t.Legible)
    (hreferences : DistinctNames ReferenceShape.column t.references)
    (huniques : ∀ u ∈ t.uniques, ∀ v ∈ t.uniques, sameNames u.columns v.columns = true → u = v) :
  (ofText t.create).Of t
  := by
  have hnamed : ∀ f ∈ t.references, ∃ name, f.name = some name := by
    intro f hf
    obtain ⟨name, hname, -⟩ := (h.references f hf).name
    exact ⟨name, hname⟩
  have hkeys : (t.references.map fun f => lower f.column).Nodup := by
    rw [List.nodup_iff_pairwise_ne, List.pairwise_map]
    apply hreferences.imp
    intro f g hne heq
    apply hne (sameName_iff.mpr heq)
  have hforeignKeys : (ofText t.create).foreignKeys =
      t.references.map fun f => (lower f.column, f.name.getD "") := by
    unfold ofText
    rw [h.references_create, foldl_insertForeignKey]
    · simp [Function.comp_def]
    · simpa [Function.comp_def] using hkeys
  have huniqueNames : (ofText t.create).uniques =
      t.uniques.map fun u => (u.name.getD "", u.columns) := by
    unfold ofText
    rw [h.uniques_create]
  constructor
  · rw [hforeignKeys, List.map_map]
    apply List.map_congr_left
    intro f hf
    obtain ⟨name, hname⟩ := hnamed f hf
    simp [hname]
  · rw [hforeignKeys, List.map_map]
    exact hkeys
  · rw [huniqueNames, List.map_map]
    apply List.map_congr_left
    intro u hu
    obtain ⟨name, hname, -⟩ := (h.uniques u hu).name
    simp [hname]
  · intro column
    rw [ConstraintNames.foreignKey?, hforeignKeys]
    apply lookup_references hnamed
  · intro u hu
    obtain ⟨name, hname, -⟩ := (h.uniques u hu).name
    rw [ConstraintNames.unique?, huniqueNames, List.find?_map, Function.comp_def,
      find?_sameNames huniques hu]
    simp [hname]

end ConstraintNames

/-! ### Registries -/

namespace Descriptor

variable {d : Descriptor} {t : TableShape}

/-- The foreign keys of a table have different columns if the columns have different names. -/
theorem distinct_references (hcolumns : DistinctNames Column.name d.columns)
    (ht : d.shape = .ok t) :
  DistinctNames ReferenceShape.column t.references
  := by
  have hkeys : DistinctNames ReferenceShape.column
      (d.foreignKeys.map fun x => d.referenceShape x.1 x.2) := by
    unfold DistinctNames foreignKeys
    rw [List.pairwise_map]
    apply hcolumns.filterMap
    intro a b hne x hx y hy
    obtain ⟨fk, -, rfl⟩ := Option.map_eq_some_iff.mp hx
    obtain ⟨other, -, rfl⟩ := Option.map_eq_some_iff.mp hy
    exact hne
  have hsymm {f g : ReferenceShape} (hne : ¬ sameName f.column g.column) :
      ¬ sameName g.column f.column := by rwa [sameName_comm]
  obtain ⟨declared, -, heq⟩ := exists_of_bind_ok ht
  cases heq
  exact ((List.mergeSort_perm _ _).pairwise_iff hsymm).mpr hkeys

/-- Unique constraints of a table with the same columns are the same if the columns have
different names. -/
theorem eq_of_sameNames (hcolumns : DistinctNames Column.name d.columns) (ht : d.shape = .ok t) :
  ∀ u ∈ t.uniques, ∀ v ∈ t.uniques,
    ConstraintNames.sameNames u.columns v.columns = true → u = v
  := by
  intro u hu v hv hsame
  obtain ⟨group, columns, hgroup, rfl⟩ := uniques_of_shape ht hu
  obtain ⟨other, others, hother, rfl⟩ := uniques_of_shape ht hv
  obtain ⟨rfl, hne⟩ := columns_of_mem_uniqueGroups hgroup
  obtain ⟨rfl, -⟩ := columns_of_mem_uniqueGroups hother
  have hlower := of_decide_eq_true hsame
  -- The first columns of both are one column, and this belongs to one group only.
  cases ha : d.columns.filter fun c => c.uniqueGroup = some group with
  | nil => simp [ha] at hne
  | cons a as =>
      cases hb : d.columns.filter fun c => c.uniqueGroup = some other with
      | nil => simp [ha, hb] at hlower
      | cons b bs =>
          have hfirst : lower a.name = lower b.name := by
            simp only [ha, hb, List.map_cons, List.cons.injEq] at hlower
            exact hlower.1
          have hmem : a ∈ d.columns ∧ a.uniqueGroup = some group := by
            have hmem := List.mem_filter.mp (ha ▸ List.mem_cons_self)
            simpa using hmem
          have hmem' : b ∈ d.columns ∧ b.uniqueGroup = some other := by
            have hmem := List.mem_filter.mp (hb ▸ List.mem_cons_self)
            simpa using hmem
          obtain rfl := hcolumns.eq_of_mem hmem.1 hmem'.1 (sameName_iff.mpr hfirst)
          have hgroups : group = other := Option.some.inj (hmem.2.symm.trans hmem'.2)
          subst hgroups
          rw [← ha, ← hb]

end Descriptor

/-- The statement that makes the table of a model without problems names exactly its foreign
keys and its unique constraints, if its columns have different names. -/
theorem Registry.names_of_create {m : Model} {r : Registry} (hbuild : Registry.build m = .ok r)
    {d : Descriptor} (hd : d ∈ r.descriptors) (hcolumns : DistinctNames Column.name d.columns)
    {t : TableShape} (ht : d.shape = .ok t) :
  (ConstraintNames.ofText t.create).Of t
  := by
  have hspelled := Descriptor.spelled_of_build hbuild d hd
  apply ConstraintNames.of_create (Descriptor.legible_shape hspelled ht)
  · apply Descriptor.distinct_references hcolumns ht
  · apply Descriptor.eq_of_sameNames hcolumns ht

/-- Clauses that follow others, with columns that are called like keywords. -/
def clauses : EntityType where
  record := ⟨"Clause", [.ofColumn "Id" .integer false, .ofColumn "CONSTRAINT" .integer false,
    .ofColumn "Unique" .text true]⟩
  table := "Clause"
  description := [.foreignKey "constraint" { table := "CLAUSE", column := "ID" },
    .unique "CONSTRAINT" 3, .unique "unique" 3, .maxLength "Unique" 40]

/-- The table of clauses. -/
def clauseTable : TableShape where
  name := "Clause"
  columns := [⟨"Id", "INTEGER", false, true⟩, ⟨"CONSTRAINT", "INTEGER", false, false⟩,
    ⟨"Unique", "VARCHAR(40)", true, false⟩, ⟨"IsActive", "BOOLEAN", false, false⟩]
  references := [⟨some "FK_Clause_CONSTRAINT", "CONSTRAINT", "CLAUSE", "ID", "NO ACTION"⟩]
  uniques := [⟨some "UQ_Clause_3", ["CONSTRAINT", "Unique"]⟩]

/-- The constraints of the table of clauses are found between its columns. -/
theorem names_of_clauses :
  ∃ r d, Registry.build ⟨[clauses], []⟩ = .ok r ∧ d ∈ r.descriptors ∧
    DistinctNames Column.name d.columns ∧ d.shape = .ok clauseTable ∧
    (ConstraintNames.ofText clauseTable.create).Of clauseTable ∧
    (ConstraintNames.ofText clauseTable.create).foreignKey? "Constraint" =
      some "FK_Clause_CONSTRAINT" ∧
    (ConstraintNames.ofText clauseTable.create).unique? ["CONSTRAINT", "Unique"] =
      some "UQ_Clause_3"
  := by
  obtain ⟨r, hbuild⟩ : ∃ r, Registry.build ⟨[clauses], []⟩ = .ok r := ⟨_, rfl⟩
  have hd : clauses.draft.descriptor ∈ r.descriptors := by
    cases hbuild
    exact List.mem_singleton.mpr rfl
  have hcolumns : DistinctNames Column.name clauses.draft.descriptor.columns := by
    decide +kernel
  have ht : clauses.draft.descriptor.shape = .ok clauseTable := by decide +kernel
  have hnames := Registry.names_of_create hbuild hd hcolumns ht
  use r, clauses.draft.descriptor, hbuild, hd, hcolumns, ht, hnames
  constructor
  · rw [hnames.foreignKey?]
    decide +kernel
  · apply hnames.unique? ⟨some "UQ_Clause_3", ["CONSTRAINT", "Unique"]⟩ List.mem_cons_self

end EntityStore
