import EntityStore.Proofs.Schema.ConstraintNames

/-!
# Columns of registries

The statement that makes a table declares its columns, one a line, and behind them come the lines
of its constraints.  The names of columns are not compared when a registry is built: they are as
distinct as those of the fields, and lead to their columns only as far as equal names belong to
equal columns.
-/

namespace EntityStore

open Text Sql Recognize

/-! ### Lines of statements -/

namespace Sql

/-- A text without line breaks. -/
def OneLine (s : String) : Prop :=
  '\n' ∉ s.toList

instance (s : String) : Decidable (OneLine s) :=
  inferInstanceAs (Decidable ('\n' ∉ s.toList))

/-- The column that a line declares: the quoted name behind its two blanks, if there is one. -/
def declaredIn? : List Char → Option String
  | ' ' :: ' ' :: '"' :: rest => some (.ofList (rest.takeWhile (· ≠ '"')))
  | _ => none

/-- The columns that a statement declares, line by line. -/
def declaredColumns (sql : String) : List String :=
  (splitAt '\n' sql.toList).filterMap declaredIn?

/-- A definition on one line that declares a column, or none. -/
def Declares (definition : String) (column? : Option String) : Prop :=
  OneLine definition ∧
    ∀ rest, declaredIn? (' ' :: ' ' :: (definition.toList ++ rest)) = column?

/-- The text in which definitions stand between those of a table. -/
def definitionLines (definitions : List String) : List Char :=
  ' ' :: ' ' :: (",\n  ".intercalate definitions).toList ++ ['\n', ')']

/-- Texts without line breaks have none together. -/
theorem oneLine_append {a b : String} :
  OneLine (a ++ b) ↔ OneLine a ∧ OneLine b
  := by simp [OneLine, not_or]

/-- A quoted identifier has no line breaks. -/
theorem oneLine_quoteName {name : String} (h : isIdentifier name = true) :
  OneLine (quoteName name)
  := not_mem_quoteName h (by decide) (by decide)

/-- Quoted identifiers have no line breaks. -/
theorem oneLine_quoteNames {names : List String} (h : ∀ name ∈ names, isIdentifier name = true) :
  OneLine (quoteNames names)
  := by
  induction names with
  | nil => decide
  | cons name names ih =>
      rw [List.forall_mem_cons] at h
      cases names with
      | nil =>
          rw [quoteNames_singleton]
          exact oneLine_quoteName h.1
      | cons next names =>
          have hrest := ih h.2
          have hfirst := oneLine_quoteName h.1
          unfold OneLine at hrest hfirst ⊢
          rw [toList_quoteNames]
          simp [hrest, hfirst]

/-- A line that begins with a quoted identifier declares the column of that name. -/
theorem declaredIn?_quoteName {name : String} (h : isIdentifier name = true) (rest : List Char) :
  declaredIn? (' ' :: ' ' :: ((quoteName name).toList ++ rest)) = some name
  := by
  have hquote : ∀ c ∈ name.toList, decide (c ≠ '"') = true := by
    intro c hc
    apply decide_eq_true
    rintro rfl
    exact ne_of_kind ((chars_of_isIdentifier h).2 '"' hc) (by decide) rfl
  rw [toList_quoteName h]
  simp only [List.cons_append, List.nil_append, List.append_assoc, declaredIn?]
  rw [List.takeWhile_append_of_pos hquote]
  simp

/-- Definitions of one line declare what each of them declares alone. -/
theorem filterMap_definitionLines {definitions : List (String × Option String)}
    (hne : definitions ≠ []) (h : ∀ d ∈ definitions, Declares d.1 d.2) :
  (splitAt '\n' (definitionLines (definitions.map (·.1)))).filterMap declaredIn? =
    definitions.filterMap (·.2)
  := by
  induction definitions with
  | nil => cases hne rfl
  | cons d definitions ih =>
      rw [List.forall_mem_cons] at h
      obtain ⟨⟨hline, hdeclared⟩, hrest⟩ := h
      have hline : '\n' ∉ d.1.toList := hline
      cases definitions with
      | nil =>
          have htext : definitionLines [d.1] = (' ' :: ' ' :: d.1.toList) ++ '\n' :: [')'] := by
            rw [definitionLines, String.intercalate_singleton]
          have hlast := hdeclared []
          rw [List.append_nil] at hlast
          rw [List.map_singleton, htext, splitAt_append (by simpa using hline),
            splitAt_of_not_mem (by decide), List.filterMap_cons, hlast]
          rfl
      | cons next definitions =>
          have htext : definitionLines ((d :: next :: definitions).map (·.1)) =
              (' ' :: ' ' :: (d.1.toList ++ [','])) ++
                '\n' :: definitionLines ((next :: definitions).map (·.1)) := by
            unfold definitionLines
            rw [List.map_cons, List.map_cons, String.intercalate_cons_cons, String.toList_append,
              String.toList_append]
            simp
          rw [htext, splitAt_append (by simpa using hline), List.filterMap_cons, hdeclared,
            ih (by simp) hrest]
          rfl

/-- Letters of the other case break no lines. -/
theorem oneLine_upper {s : String} (h : OneLine s) :
  OneLine (upper s)
  := by
  unfold OneLine upper
  rw [String.toList_ofList, List.mem_map]
  rintro ⟨c, hc, hupper⟩
  by_cases hletter : c.val ≥ 'a'.val ∧ c.val ≤ 'z'.val
  · -- The code of a capital letter is 32 less than that of the small one.
    have hleast : 97 ≤ c.val.toNat := hletter.1
    have hmost : c.val.toNat ≤ 122 := hletter.2
    have hvalue := congrArg (fun c : Char => c.val.toNat) hupper
    unfold Char.toUpper at hvalue
    rw [dif_pos hletter] at hvalue
    have hbreak : (c.val + ('A'.val - 'a'.val)).toNat = 10 := hvalue
    rw [UInt32.toNat_add] at hbreak
    have hless : ('A'.val - 'a'.val).toNat = 4294967264 := by decide
    omega
  · unfold Char.toUpper at hupper
    rw [dif_neg hletter] at hupper
    exact h (hupper ▸ hc)

/-- The types of columns break no lines. -/
theorem oneLine_sqlName? {type : ColumnType} {length : Option Nat} {sqlType : String}
    (h : type.sqlName? length = some sqlType) :
  OneLine sqlType
  := by
  cases type with
  | text =>
      cases length with
      | none =>
          cases h
          decide
      | some n =>
          cases h
          show OneLine ("VARCHAR(" ++ decimalText n ++ ")")
          rw [oneLine_append, oneLine_append]
          refine ⟨⟨by decide, ?_⟩, by decide⟩
          unfold OneLine
          rw [toList_decimalText]
          intro hmem
          have := isDigit_of_mem_decimalDigits hmem
          cases this
  | integer | real | boolean | guid | dateTime | blob =>
      cases h
      decide
  | custom name => cases h

end Sql

/-! ### Definitions -/

namespace ColumnShape

variable {c : ColumnShape}

/-- The definition of a column is its quoted name, its type, and what else is asked of it. -/
theorem exists_definition (c : ColumnShape) :
  ∃ rest, c.definition = quoteName c.name ++ (" " ++ c.sqlType ++ rest) ∧ OneLine rest
  := by
  have hstart : ∀ rest, quoteName c.name ++ " " ++ c.sqlType ++ rest =
      quoteName c.name ++ (" " ++ c.sqlType ++ rest) := by
    intro rest
    simp only [String.append_assoc]
  by_cases hkey : c.primaryKey
  · refine ⟨" PRIMARY KEY AUTOINCREMENT", ?_, by decide⟩
    rw [← hstart]
    simp only [definition, hkey, if_true]
    rfl
  · refine ⟨(if c.nullable then "" else " NOT NULL") ++
      (if sameName c.name activeFlag then " DEFAULT 1" else ""), ?_, ?_⟩
    · rw [← hstart, ← String.append_assoc]
      simp only [definition, hkey]
      rfl
    · rw [oneLine_append]
      constructor
      all_goals
        split
        all_goals decide

/-- The definition of a column declares it. -/
theorem declares_definition (hname : isIdentifier c.name = true) (htype : OneLine c.sqlType) :
  Declares c.definition (some c.name)
  := by
  obtain ⟨behind, hdefinition, hbehind⟩ := c.exists_definition
  rw [hdefinition]
  constructor
  · simp [oneLine_append, oneLine_quoteName hname, htype, hbehind]
    decide
  · intro rest
    rw [String.toList_append, List.append_assoc]
    apply declaredIn?_quoteName hname

end ColumnShape

/-- A clause of a constraint that is on one line declares no column. -/
theorem Sql.declares_clause {name clause : String} (hname : isIdentifier name = true)
    (hclause : OneLine clause) :
  Declares (headText name ++ clause) none
  := by
  have hwords : OneLine "CONSTRAINT " ∧ OneLine " " := by decide
  constructor
  · simp [headText, oneLine_append, hwords, oneLine_quoteName hname, hclause]
  · intro rest
    simp only [headText, String.toList_append, List.append_assoc]
    rfl

/-- The definition of a unique constraint declares no column. -/
theorem UniqueShape.declares_definition {u : UniqueShape} (h : u.Legible) (table : String)
    (number : Nat) :
  Declares (u.definition table number) none
  := by
  obtain ⟨name, hname, hidentifier⟩ := h.name
  have hopen : "UNIQUE (".toList = "UNIQUE".toList ++ [' '] ++ ['('] := by decide
  have hclose : ")".toList = [')'] := by decide
  have htext : u.definition table number =
      headText name ++ ("UNIQUE (" ++ quoteNames u.columns ++ ")") := by
    rw [← String.toList_inj, toList_definition hname]
    simp only [String.toList_append, hopen, hclose, List.append_assoc, List.cons_append,
      List.nil_append]
  have hwords : OneLine "UNIQUE (" ∧ OneLine ")" := by decide
  rw [htext]
  apply declares_clause hidentifier
  simp [oneLine_append, hwords, oneLine_quoteNames h.columns]

/-- The definition of a foreign key declares no column. -/
theorem ReferenceShape.declares_definition {f : ReferenceShape} (h : f.Legible)
    (haction : OneLine f.onDelete) (table : String) :
  Declares (f.definition table) none
  := by
  obtain ⟨name, hname, hidentifier⟩ := h.name
  have hopen : "FOREIGN KEY (".toList =
      "FOREIGN".toList ++ [' '] ++ "KEY".toList ++ [' '] ++ ['('] := by decide
  have hclose : ")".toList = [')'] := by decide
  have htext : f.definition table =
      headText name ++ ("FOREIGN KEY (" ++ quoteName f.column ++ ")" ++ f.target) := by
    rw [← String.toList_inj, toList_definition hname]
    simp only [String.toList_append, hopen, hclose, List.append_assoc, List.cons_append,
      List.nil_append]
  have hwords : OneLine "FOREIGN KEY (" ∧ OneLine ")" ∧ OneLine " REFERENCES " ∧ OneLine " (" ∧
      OneLine "" ∧ OneLine " ON DELETE " := by decide
  have htarget : OneLine f.target := by
    unfold target
    rw [oneLine_append]
    constructor
    · simp [oneLine_append, hwords, oneLine_quoteName h.foreignTable,
        oneLine_quoteName h.foreignColumn]
    · split <;> simp [oneLine_append, hwords, haction]
  rw [htext]
  apply declares_clause hidentifier
  simp [oneLine_append, hwords, oneLine_quoteName h.column, htarget]

namespace TableShape

variable {t : TableShape}

/-- The definitions of the constraints of a table. -/
def constraints (t : TableShape) : List String :=
  (t.uniques.zipIdx 1).map (fun (u, number) => u.definition t.name number) ++
    t.references.map (·.definition t.name)

/-- The definitions of constraints declare no columns. -/
theorem declares_constraints (h : t.Legible)
    (hactions : ∀ f ∈ t.references, OneLine f.onDelete) :
  ∀ definition ∈ t.constraints, Declares definition none
  := by
  unfold constraints
  rw [List.forall_mem_append, List.forall_mem_map, List.forall_mem_map]
  constructor
  · rintro ⟨u, number⟩ hu
    apply UniqueShape.declares_definition (h.uniques u (List.fst_mem_of_mem_zipIdx hu))
  · intro f hf
    apply ReferenceShape.declares_definition (h.references f hf) (hactions f hf)

/-- The statement that makes a table declares its columns and no others. -/
theorem declaredColumns_createAs (h : t.Legible) (hcolumns : t.columns ≠ [])
    (htypes : ∀ c ∈ t.columns, OneLine c.sqlType)
    (hactions : ∀ f ∈ t.references, OneLine f.onDelete) {name : String}
    (hname : isIdentifier name = true) :
  declaredColumns (t.createAs name) = t.columns.map (·.name)
  := by
  let definitions := t.columns.map (fun c => (c.definition, some c.name)) ++
    t.constraints.map (·, none)
  have hdefinitions : ∀ d ∈ definitions, Declares d.1 d.2 := by
    rw [List.forall_mem_append, List.forall_mem_map, List.forall_mem_map]
    constructor
    · intro c hc
      apply ColumnShape.declares_definition (h.columns c hc).name (htypes c hc)
    · apply declares_constraints h hactions
  have hbody : t.body = ",\n  ".intercalate (definitions.map (·.1)) := by
    simp [body, definitions, constraints, Function.comp_def]
  have htext : (t.createAs name).toList =
      ("CREATE TABLE " ++ quoteName name ++ " (").toList ++
        '\n' :: definitionLines (definitions.map (·.1)) := by
    have hopen : " (\n  ".toList = " (".toList ++ ['\n', ' ', ' '] := by decide
    have hclose : "\n)".toList = ['\n', ')'] := by decide
    have hcreate : t.createAs name =
        "CREATE TABLE " ++ quoteName name ++ " (\n  " ++ t.body ++ "\n)" := rfl
    rw [hcreate, hbody]
    simp only [String.toList_append, hopen, hclose, definitionLines, List.append_assoc,
      List.cons_append, List.nil_append]
  have hhead : OneLine ("CREATE TABLE " ++ quoteName name ++ " (") := by
    have hwords : OneLine "CREATE TABLE " ∧ OneLine " (" := by decide
    simp [oneLine_append, hwords, oneLine_quoteName hname]
  have hnone : declaredIn? ("CREATE TABLE " ++ quoteName name ++ " (").toList = none := by
    simp only [String.toList_append, List.append_assoc]
    rfl
  rw [declaredColumns, htext, splitAt_append hhead, List.filterMap_cons, hnone]
  show (splitAt '\n' (definitionLines (definitions.map (·.1)))).filterMap declaredIn? = _
  rw [filterMap_definitionLines (by simp [definitions, hcolumns]) hdefinitions,
    List.filterMap_append, List.filterMap_map, List.filterMap_map]
  simp

end TableShape

/-! ### Columns of tables -/

namespace Descriptor

/-- Every spelling of the name of a column leads to that column. -/
def Resolves (d : Descriptor) : Prop :=
  ∀ column ∈ d.allColumns, ∀ name, sameName name column.1 → d.resolve? name = some column

variable {d : Descriptor} {type : RecordType} {name : String} {column : String × ColumnType}

/-- The key column is found under every spelling of its name. -/
theorem resolve?_primaryKey (h : sameName name primaryKey) :
  d.resolve? name = some (primaryKey, .integer)
  := if_pos h

/-- The activation flag is found under every spelling of its name. -/
theorem resolve?_activeFlag (h : sameName name activeFlag) :
  d.resolve? name = some (activeFlag, .boolean)
  := by
  have hkey : ¬ sameName name primaryKey := by
    rw [sameName_iff, sameName_iff.mp h]
    decide
  rw [resolve?, if_neg hkey, if_pos h]

/-- A column that is found is one of the table, of the name that is asked for. -/
theorem mem_of_resolve? (h : d.resolve? name = some column) :
  column ∈ d.allColumns ∧ sameName name column.1
  := by
  unfold resolve? at h
  split at h
  · next hkey =>
      cases h
      exact ⟨by simp [allColumns], hkey⟩
  · split at h
    · next hflag =>
        cases h
        exact ⟨by simp [allColumns], hflag⟩
    · obtain ⟨c, hc, rfl⟩ := Option.map_eq_some_iff.mp h
      have hmem := List.mem_of_find?_eq_some hc
      have hname : sameName c.name name := by simpa using List.find?_some hc
      refine ⟨?_, sameName_symm hname⟩
      simp only [allColumns, List.cons_append, List.mem_cons, List.mem_append, List.mem_map]
      exact .inr (.inl ⟨c, hmem, rfl⟩)

/-- Some column is found under the name of one of the table. -/
theorem exists_resolve?_of_mem (hcolumn : column ∈ d.allColumns) (hsame : sameName name column.1) :
  ∃ found, d.resolve? name = some found
  := by
  by_cases hkey : sameName name primaryKey
  · exact ⟨_, resolve?_primaryKey hkey⟩
  · by_cases hflag : sameName name activeFlag
    · exact ⟨_, resolve?_activeFlag hflag⟩
    · obtain ⟨c, hc, hname⟩ : ∃ c ∈ d.columns, sameName c.name name := by
        simp only [allColumns, List.cons_append, List.mem_cons, List.mem_append, List.mem_map,
          List.not_mem_nil, or_false] at hcolumn
        obtain rfl | ⟨c, hc, rfl⟩ | rfl := hcolumn
        · exact absurd hsame hkey
        · exact ⟨c, hc, sameName_symm hsame⟩
        · exact absurd hsame hflag
      have hfound : (d.column? name).isSome := by
        rw [column?, List.find?_isSome]
        exact ⟨c, hc, hname⟩
      obtain ⟨found, hfound⟩ := Option.isSome_iff_exists.mp hfound
      use (found.name, found.type)
      rw [resolve?, if_neg hkey, if_neg hflag, hfound]
      rfl

/-- Among columns with distinct names the one of a name is found under it. -/
theorem resolve?_eq_some_iff (h : DistinctNames id d.columnNames) :
  d.resolve? name = some column ↔ column ∈ d.allColumns ∧ sameName name column.1
  := by
  constructor
  · exact mem_of_resolve?
  · rintro ⟨hcolumn, hsame⟩
    obtain ⟨found, hfound⟩ := exists_resolve?_of_mem hcolumn hsame
    obtain ⟨hmem, hname⟩ := mem_of_resolve? hfound
    have hdistinct : DistinctNames Prod.fst d.allColumns := List.pairwise_map.mp h
    rw [hfound, hdistinct.eq_of_mem hmem hcolumn (sameName_trans (sameName_symm hname) hsame)]

/-- The columns of a table have distinct names exactly if the fields with columns of their own
have. -/
theorem distinct_columnNames_iff (h : d.outline = type.outline) :
  DistinctNames id d.columnNames ↔ DistinctNames Field.name type.declared
  := by
  constructor
  · intro hdistinct
    have hsublist : (type.declared.map (·.name)).Sublist d.columnNames := by
      rw [← names_of_outline h, columnNames, allColumns, List.map_append, List.map_cons,
        List.map_map]
      apply List.Sublist.trans (List.sublist_cons_self _ _)
      apply List.sublist_append_left
    have hnames := hdistinct.sublist hsublist
    rwa [List.pairwise_map] at hnames
  · exact distinct_columnNames h

/-- The columns of a table besides those of every table are those of fields. -/
theorem mem_allColumns (h : d.outline = type.outline) :
  column ∈ d.allColumns ↔ column = (primaryKey, .integer) ∨
    (∃ field ∈ type.declared, column = (field.name, field.columnType)) ∨
    column = (activeFlag, .boolean)
  := by
  have hcolumns : d.columns.map (fun c => (c.name, c.type)) =
      type.declared.map fun f => (f.name, f.columnType) := congrArg Prod.snd h
  rw [allColumns, hcolumns]
  simp [eq_comm]

/-- A field with a column of its own has not the name of one of every table. -/
theorem not_sameName_of_declared {field : Field} (hfield : field ∈ type.declared)
    (hsame : sameName name field.name) :
  ¬ sameName name primaryKey ∧ ¬ sameName name activeFlag
  := by
  have hnot : sameName field.name primaryKey = false ∧ sameName field.name activeFlag = false := by
    simpa [Field.isImplicit] using (List.mem_filter.mp hfield).2
  simp only [sameName, sameName_iff.mp hsame] at hnot ⊢
  simp [hnot]

/-- Names lead to their columns exactly if fields of one name are spelled alike and have one
type. -/
theorem resolves_iff (h : d.outline = type.outline) :
  d.Resolves ↔ ∀ f ∈ type.declared, ∀ g ∈ type.declared, sameName f.name g.name →
    f.name = g.name ∧ f.columnType = g.columnType
  := by
  constructor
  · intro hresolves f hf g hg hsame
    have hfirst := hresolves _ ((mem_allColumns h).mpr (.inr (.inl ⟨f, hf, rfl⟩))) f.name
      (sameName_refl f.name)
    have hsecond := hresolves _ ((mem_allColumns h).mpr (.inr (.inl ⟨g, hg, rfl⟩))) f.name hsame
    rw [hfirst] at hsecond
    exact Prod.mk.inj (Option.some.inj hsecond)
  · intro hfields column hcolumn name hsame
    obtain ⟨found, hfound⟩ := exists_resolve?_of_mem hcolumn hsame
    obtain ⟨hmem, hname⟩ := mem_of_resolve? hfound
    obtain rfl | ⟨f, hf, rfl⟩ | rfl := (mem_allColumns h).mp hcolumn
    · exact resolve?_primaryKey hsame
    · -- The column that is found is one of a field too, which is equal to the one of this name.
      obtain ⟨hkey, hflag⟩ := not_sameName_of_declared hf hsame
      obtain rfl | ⟨g, hg, rfl⟩ | rfl := (mem_allColumns h).mp hmem
      · exact absurd hname hkey
      · obtain ⟨hspelling, htype⟩ := hfields g hg f hf (sameName_trans (sameName_symm hname) hsame)
        rw [hfound, hspelling, htype]
      · exact absurd hname hflag
    · exact resolve?_activeFlag hsame

/-- The shape of a declared column has its name, and a type on one line. -/
theorem name_of_columnShape {c : Column} {shape : ColumnShape}
    (h : d.columnShape c = .ok shape) :
  shape.name = c.name ∧ OneLine shape.sqlType
  := by
  unfold columnShape at h
  split at h
  · next sqlType htype =>
      cases h
      exact ⟨rfl, oneLine_upper (oneLine_sqlName? htype)⟩
  · cases h

/-- The columns of the table of a descriptor have its names, and types on one line. -/
theorem columns_of_shape {t : TableShape} (ht : d.shape = .ok t) :
  t.columns.map (·.name) = d.columnNames ∧ ∀ c ∈ t.columns, OneLine c.sqlType
  := by
  obtain ⟨shapes, hshapes, heq⟩ := exists_of_bind_ok ht
  cases heq
  show (keyShape :: shapes ++ [activeShape]).map (·.name) = d.columnNames ∧
    ∀ c ∈ keyShape :: shapes ++ [activeShape], OneLine c.sqlType
  have hnames : shapes.map (·.name) = d.columns.map (·.name) :=
    map_eq_map_of_mapM_ok (fun c shape hc => (name_of_columnShape hc).1) hshapes
  constructor
  · have hcolumns : d.columnNames = primaryKey :: d.columns.map (·.name) ++ [activeFlag] := by
      simp [columnNames, allColumns]
    rw [hcolumns, List.map_append, List.map_cons, hnames]
    rfl
  · rw [List.forall_mem_append, List.forall_mem_cons, List.forall_mem_singleton]
    refine ⟨⟨by decide, ?_⟩, by decide⟩
    intro shape hshape
    have hok : .ok shape ∈ d.columns.map d.columnShape := by
      rw [map_eq_of_mapM_ok hshapes]
      apply List.mem_map_of_mem hshape
    obtain ⟨c, -, hc⟩ := List.mem_map.mp hok
    exact (name_of_columnShape hc).2

/-- The statement that makes the table declares its columns. -/
theorem declaredColumns_create (h : d.Spelled) {t : TableShape} (ht : d.shape = .ok t) :
  declaredColumns t.create = d.columnNames
  := by
  have hlegible := legible_shape h ht
  have hactions : ∀ f ∈ t.references, OneLine f.onDelete := by
    intro f hf
    obtain ⟨c, fk, -, rfl⟩ := references_of_shape ht hf
    show OneLine fk.onDelete.sql
    cases fk.onDelete <;> decide
  obtain ⟨hnames, htypes⟩ := columns_of_shape ht
  have hne : t.columns ≠ [] := by
    rintro hnil
    rw [hnil] at hnames
    cases hnames
  rw [TableShape.create, TableShape.declaredColumns_createAs hlegible hne htypes hactions
    hlegible.name, hnames]

end Descriptor

/-- In a registry that is built a descriptor is that of a type, and the statement that makes its
table declares its columns.  They have distinct names exactly if the fields of the type that
have columns of their own have, and each is found under every spelling of its name exactly if
fields of one name are equal. -/
theorem Registry.columns_once_iff {m : Model} {r : Registry} (hbuild : Registry.build m = .ok r)
    {d : Descriptor} (hd : d ∈ r.descriptors) :
  ∃ e ∈ m.entities, r.ofType? e.record.name = some d ∧
    (DistinctNames id d.columnNames ↔ DistinctNames Field.name e.record.declared) ∧
    (d.Resolves ↔ ∀ f ∈ e.record.declared, ∀ g ∈ e.record.declared, sameName f.name g.name →
      f.name = g.name ∧ f.columnType = g.columnType) ∧
    ∀ t, d.shape = .ok t → declaredColumns t.create = d.columnNames
  := by
  obtain ⟨houtlines, hnodup⟩ := outlines_of_build hbuild
  obtain ⟨e, he, houtline⟩ : ∃ e ∈ m.entities, e.record.outline = d.outline := by
    apply List.mem_map.mp
    rw [← houtlines]
    apply List.mem_map_of_mem hd
  have hfound : r.ofType? e.record.name = some d := by
    obtain ⟨d', hd', -⟩ := exists_of_mem hbuild he
    have hnames : r.descriptors.map (·.typeName) = m.entities.map (·.record.name) := by
      have hfirst := congrArg (List.map Prod.fst) houtlines
      rwa [List.map_map, List.map_map] at hfirst
    rw [← hnames] at hnodup
    have hname : d'.typeName = d.typeName := by
      have htype : d'.typeName = e.record.name := by simpa using List.find?_some hd'
      exact htype.trans (congrArg Prod.fst houtline)
    rw [hd', List.inj_on_of_nodup_map hnodup (List.mem_of_find?_eq_some hd') hd hname]
  exact ⟨e, he, hfound, Descriptor.distinct_columnNames_iff houtline.symm,
    Descriptor.resolves_iff houtline.symm, fun t =>
    Descriptor.declaredColumns_create (Descriptor.spelled_of_build hbuild d hd)⟩

/-- Every column of clauses is declared once and found under its name. -/
theorem clauses_once :
  ∃ r d, Registry.build ⟨[clauses], []⟩ = .ok r ∧ d ∈ r.descriptors ∧
    DistinctNames id d.columnNames ∧ d.Resolves ∧
    declaredColumns clauseTable.create = ["Id", "CONSTRAINT", "Unique", "IsActive"]
  := by
  have hbuild : Registry.build ⟨[clauses], []⟩ = .ok ⟨[clauses.draft.descriptor]⟩ := by rfl
  have hd := List.mem_singleton_self clauses.draft.descriptor
  obtain ⟨e, he, -, hdistinct, hresolves, hdeclared⟩ := Registry.columns_once_iff hbuild hd
  obtain rfl := List.mem_singleton.mp he
  refine ⟨_, _, hbuild, hd, hdistinct.mpr (by decide), hresolves.mpr (by decide), ?_⟩
  rw [hdeclared clauseTable (by decide +kernel)]
  decide +kernel

/-- Labels with two columns whose names differ in case only. -/
def label : EntityType where
  record := ⟨"Label", [.ofColumn "Id" .integer false, .ofColumn "Name" .text false,
    .ofColumn "name" .integer false]⟩
  table := "Label"
  description := []

/-- A registry is built although its table has two columns of one name.  The statement that makes
the table declares both, and the second is not found under its own name. -/
theorem label_named_twice :
  ∃ r d, Registry.build ⟨[label], []⟩ = .ok r ∧ d ∈ r.descriptors ∧
    ¬ DistinctNames id d.columnNames ∧
    ("name", .integer) ∈ d.allColumns ∧ d.resolve? "name" = some ("Name", .text) ∧
    ∃ t, d.shape = .ok t ∧ declaredColumns t.create = ["Id", "Name", "name", "IsActive"]
  := by
  have hbuild : Registry.build ⟨[label], []⟩ = .ok ⟨[label.draft.descriptor]⟩ := by rfl
  have hd := List.mem_singleton_self label.draft.descriptor
  obtain ⟨t, hshape⟩ : ∃ t, label.draft.descriptor.shape = .ok t := ⟨_, rfl⟩
  refine ⟨_, _, hbuild, hd, by decide, by decide, by decide, t, hshape, ?_⟩
  rw [Descriptor.declaredColumns_create (Descriptor.spelled_of_build hbuild _ hd) hshape]
  rfl

end EntityStore
