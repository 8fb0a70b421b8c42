import EntityStore.Proofs.Except
import EntityStore.Proofs.Number.Decimal
import EntityStore.Proofs.Schema.Tables
import EntityStore.Row.Mapper

/-!
# Records by the names of columns

A record is made of what its row has under the names of its fields.  The first column of a name
counts, whatever its place and its spelling, and null counts like nothing.  The fields are read
in their order, and the first of them that cannot be read is told.
-/

namespace EntityStore

open Text

/-! ### Values under names -/

namespace Row

/-- A row has a value in the first column of a name. -/
def Carries (row : Row) (columns : Columns) (name : String) (v : Value) : Prop :=
  ∃ before column behind, columns = before ++ column :: behind ∧ sameName name column ∧
    (∀ c ∈ before, ¬ sameName name c) ∧ row.at? before.length = some v

/-- A row has a value in some column of a name. -/
def Has (row : Row) (columns : Columns) (name : String) (v : Value) : Prop :=
  ∃ (i : Nat) (column : String), columns[i]? = some column ∧ sameName name column ∧
    row.at? i = some v

/-- The value in the first column of a name, null if there is none. -/
def under (row : Row) (columns : Columns) (name : String) : Value :=
  ((columns.indexOf? name).bind row.at?).getD .null

/-- Whether two rows tell the same under a name: what is not null in the first column of the name
of one is so in that of the other. -/
def Alike (row : Row) (columns : Columns) (row' : Row) (columns' : Columns) (name : String) :
    Prop :=
  ∀ v, v ≠ .null → (row.Carries columns name v ↔ row'.Carries columns' name v)

variable {row row' : Row} {columns columns' : Columns} {name : String} {v : Value}

/-- The first column of a name is the one that is found. -/
theorem carries_iff :
  row.Carries columns name v ↔ (columns.indexOf? name).bind row.at? = some v
  := by
  rw [Option.bind_eq_some_iff]
  constructor
  · rintro ⟨before, column, behind, rfl, hname, hbefore, hv⟩
    refine ⟨before.length, ?_, hv⟩
    apply List.findIdx?_eq_some_iff_getElem.mpr
    refine ⟨by simp, by simpa using hname, ?_⟩
    intro j hj
    rw [List.getElem_append_left hj]
    apply hbefore _ (List.getElem_mem hj)
  · rintro ⟨i, hi, hv⟩
    obtain ⟨hlt, hname, hbefore⟩ := List.findIdx?_eq_some_iff_getElem.mp hi
    refine ⟨columns.take i, columns[i], columns.drop (i + 1), by simp, hname, ?_, ?_⟩
    · intro c hc
      obtain ⟨j, hj, rfl⟩ := List.mem_take_iff_getElem.mp hc
      apply hbefore j (by omega)
    · rw [List.length_take, Nat.min_eq_left (Nat.le_of_lt hlt)]
      exact hv

/-- Among columns with distinct names the first of a name is the only one. -/
theorem carries_iff_has (h : DistinctNames id columns) :
  row.Carries columns name v ↔ row.Has columns name v
  := by
  constructor
  · rintro ⟨before, column, behind, rfl, hname, -, hv⟩
    exact ⟨before.length, column, by simp, hname, hv⟩
  · rintro ⟨i, column, hcolumn, hname, hv⟩
    have hindex := h.findIdx?_eq hcolumn hname
    rw [List.map_id] at hindex
    rw [carries_iff, Columns.indexOf?, hindex]
    exact hv

/-- A row has the value of the first column of a name under it. -/
theorem under_of_carries (h : row.Carries columns name v) :
  row.under columns name = v
  := by
  have hfound := carries_iff.mp h
  rw [under, hfound]
  rfl

/-- A row has a value other than null under a name if its first column has it. -/
theorem under_eq_iff (hv : v ≠ .null) :
  row.under columns name = v ↔ row.Carries columns name v
  := by
  rw [carries_iff, under]
  cases (columns.indexOf? name).bind row.at? with
  | none => simpa using hv.symm
  | some w => simp

/-- A row has null under a name if it has nothing else there. -/
theorem under_eq_null_iff :
  row.under columns name = .null ↔ ∀ v, row.Carries columns name v → v = .null
  := by
  constructor
  · intro hnull v hv
    by_contra hne
    exact hne (((under_eq_iff hne).mpr hv).symm.trans hnull)
  · intro h
    by_contra hne
    exact hne (h _ ((under_eq_iff hne).mp rfl))

/-- Two rows tell the same under a name if they have the same there. -/
theorem alike_iff :
  row.Alike columns row' columns' name ↔ row.under columns name = row'.under columns' name
  := by
  constructor
  · intro h
    by_cases hnull : row.under columns name = .null
    · rw [hnull, eq_comm, under_eq_null_iff]
      intro v hv
      by_contra hne
      exact hne (under_eq_null_iff.mp hnull v ((h v hne).mpr hv))
    · rw [eq_comm, under_eq_iff hnull, ← h _ hnull, ← under_eq_iff hnull]
  · intro h v hne
    rw [← under_eq_iff hne, ← under_eq_iff hne, h]

/-- The spelling of a name does not matter. -/
theorem under_sameName {other : String} (h : sameName name other) :
  row.under columns name = row.under columns other
  := by
  have hsame : sameName name = sameName other := by
    funext column
    simp only [sameName, sameName_iff.mp h]
  simp only [under, Columns.indexOf?, hsame]

end Row

/-! ### Fields of records -/

/-- What a field keeps of a value: nothing of null, and of any other value what it means in the
column, in the form of the field. -/
def Field.read? (format : String) (field : Field) (v : Value) : Except Error (Option Value) :=
  if v.isNull then .ok none
  else Except.mapError (Error.inColumn field.name) do
    let w ← v.coerce field.columnType format
    (field.type.convert w).map some

/-- A field keeps what a value means, in its own form, unless the value is null. -/
theorem Field.exists_of_read? {format : String} {field : Field} {v : Value} (hv : v ≠ .null)
    {kept : Option Value} (h : field.read? format v = .ok kept) :
  ∃ w stored, v.coerce field.columnType format = .ok w ∧ field.type.convert w = .ok stored ∧
    kept = some stored
  := by
  have hnull : ¬ v.isNull = true := by cases v <;> simp_all [Value.isNull]
  unfold read? at h
  rw [if_neg hnull] at h
  cases hw : v.coerce field.columnType format with
  | error e =>
      rw [hw] at h
      cases h
  | ok w =>
      rw [hw] at h
      change ((field.type.convert w).map some).mapError _ = _ at h
      cases hstored : field.type.convert w with
      | error e =>
          rw [hstored] at h
          cases h
      | ok stored =>
          rw [hstored] at h
          cases h
          exact ⟨w, stored, rfl, hstored, rfl⟩

namespace Record

/-- What is kept in a field, unless it is at its default. -/
def field? (r : Record) (i : Nat) : Option Value :=
  (r.values[i]?).join

/-- The record with a value kept in a field. -/
def keep (type : RecordType) (r : Record) (x : Field × Nat) : Option Value → Record
  | none => r
  | some stored =>
    { key := match stored with
        | .int n => if sameName x.1.name primaryKey then n else r.key
        | _ => r.key
      values := (r.padded type.fields.length).set x.2 (some stored) }

/-- The record that keeps what is read of the fields of its type. -/
def ofFields (type : RecordType) (kept : List (Option Value)) : Record :=
  (type.fields.zipIdx.zip kept).foldl (fun r x => r.keep type x.1 x.2) {}

variable {type : RecordType} {r : Record}

/-- A field is set to what it keeps of a value. -/
theorem setField_eq {i : Nat} {field : Field} (h : type.fields[i]? = some field) (v : Value) :
  r.setField type i v = ((field.type.convert v).map some).map (r.keep type (field, i))
  := by
  unfold setField
  rw [h]
  dsimp only
  cases field.type.convert v <;> rfl

/-- Room for more fields holds nothing. -/
theorem join_padded (n i : Nat) :
  ((r.padded n)[i]?).join = r.field? i
  := by
  unfold padded field?
  by_cases hi : i < r.values.length
  · rw [List.getElem?_append_left hi]
  · rw [List.getElem?_append_right (by omega), List.getElem?_replicate,
      List.getElem?_eq_none (by omega)]
    split <;> rfl

/-- Keeping something in a field changes no other field. -/
theorem field?_keep_of_ne {x : Field × Nat} {i : Nat} (h : i ≠ x.2) (kept : Option Value) :
  (r.keep type x kept).field? i = r.field? i
  := by
  cases kept with
  | none => rfl
  | some stored =>
      show (((r.padded type.fields.length).set x.2 (some stored))[i]?).join = r.field? i
      rw [List.getElem?_set_ne h.symm, join_padded]

/-- A field of the type that holds nothing holds what is kept in it. -/
theorem field?_keep_self {x : Field × Nat} (hx : x.2 < type.fields.length)
    (hnone : r.field? x.2 = none) (kept : Option Value) :
  (r.keep type x kept).field? x.2 = kept
  := by
  cases kept with
  | none => exact hnone
  | some stored =>
      show (((r.padded type.fields.length).set x.2 (some stored))[x.2]?).join = some stored
      have hroom : x.2 < (r.padded type.fields.length).length := by
        simp only [padded, List.length_append, List.length_replicate]
        omega
      rw [List.getElem?_set_self hroom]
      rfl

/-- What is kept in fields one after the other is there in the end. -/
theorem field?_foldl_keep {fields : List Field} {kept : List (Option Value)} {first i : Nat}
    (hlength : kept.length = fields.length) (hroom : first + fields.length ≤ type.fields.length)
    (hnone : ∀ i, first ≤ i → r.field? i = none) :
  (((fields.zipIdx first).zip kept).foldl (fun r x => r.keep type x.1 x.2) r).field? i =
    if i < first then r.field? i else (kept[i - first]?).join
  := by
  induction fields generalizing kept first r with
  | nil =>
      obtain rfl := List.length_eq_zero_iff.mp hlength
      split
      · rfl
      · next hi => exact hnone i (by omega)
  | cons field fields ih =>
      obtain _ | ⟨k, kept⟩ := kept
      · cases hlength
      · simp only [List.length_cons] at hlength hroom
        rw [List.zipIdx_cons, List.zip_cons_cons, List.foldl_cons, ih (by omega) (by omega)]
        · have hself : (r.keep type (field, first) k).field? first = k :=
            field?_keep_self (x := (field, first)) (by omega) (hnone first (Nat.le_refl first)) k
          obtain hlt | rfl | hgt := Nat.lt_trichotomy i first
          · rw [if_pos (by omega), if_pos hlt, field?_keep_of_ne (Nat.ne_of_lt hlt)]
          · rw [if_pos (by omega), if_neg (by omega), hself, Nat.sub_self]
            rfl
          · have hsub : i - first = i - (first + 1) + 1 := by omega
            rw [if_neg (by omega), if_neg (by omega), hsub, List.getElem?_cons_succ]
        · intro i hi
          rw [field?_keep_of_ne (by simp only; omega), hnone i (by omega)]

/-- A record keeps what is read of its fields. -/
theorem field?_ofFields {kept : List (Option Value)} (h : kept.length = type.fields.length)
    (i : Nat) :
  (ofFields type kept).field? i = (kept[i]?).join
  := by
  have hnone : ∀ i, 0 ≤ i → ({} : Record).field? i = none := fun _ _ => rfl
  rw [ofFields, field?_foldl_keep h (by omega) hnone, if_neg (Nat.not_lt_zero i), Nat.sub_zero]

/-- The key of a record is left as it is where nothing is read of a field that is named so. -/
theorem key_ofFields {kept : List (Option Value)}
    (h : ∀ x ∈ type.fields.zipIdx.zip kept, sameName x.1.1.name primaryKey → x.2 = none) :
  (ofFields type kept).key = 0
  := by
  unfold ofFields
  apply List.foldlRecOn (motive := fun r : Record => r.key = 0) (type.fields.zipIdx.zip kept) _ rfl
  rintro r hr ⟨x, stored⟩ hx
  cases stored with
  | none => exact hr
  | some v =>
      have hname : sameName x.1.name primaryKey ≠ true := by
        intro hname
        cases h _ hx hname
      cases v <;> simp [keep, hname, hr]

end Record

/-! ### Reading and keeping -/

namespace RowMapper

variable {type : RecordType} {columns columns' : Columns} {lead format : String} {row row' : Row}

/-- What is read of the fields of a type, in their order, or the error of the first of them that
cannot be read. -/
def readFields (type : RecordType) (lead format : String) (columns : Columns) (row : Row) :
    Except Error (List (Option Value)) :=
  type.fields.mapM fun field => field.read? format (row.under columns (lead ++ field.name))

/-- A field with a column is filled with what it keeps of the value there. -/
theorem fill_eq {m : RowMapper} {r : Record} {p i : Nat} {field : Field}
    (h : m.type.fields[i]? = some field) :
  m.fill row r (p, i) =
    (field.read? m.format ((row.at? p).getD .null)).map (r.keep m.type (field, i))
  := by
  unfold fill Field.read?
  dsimp only
  rw [h]
  cases row.at? p with
  | none => rfl
  | some v =>
      dsimp only [Option.getD_some]
      split
      · rfl
      · cases v.coerce field.columnType m.format with
        | error e => rfl
        | ok w =>
            show (r.setField m.type i w).mapError _ =
              (((field.type.convert w).map some).mapError _).map _
            rw [Record.setField_eq h]
            cases field.type.convert w <;> rfl

/-- A record is made by reading its fields in their order, and keeping what is read. -/
theorem map_build :
  (build type columns lead format).map row =
    (readFields type lead format columns row).map (Record.ofFields type)
  := by
  have hfold : (build type columns lead format).map row =
      type.fields.zipIdx.foldlM (fun r x =>
        (x.1.read? format (row.under columns (lead ++ x.1.name))).map (r.keep type x)) {} := by
    unfold RowMapper.map
    show (type.fields.zipIdx.filterMap _).foldlM _ _ = _
    rw [List.foldlM_filterMap]
    apply foldlM_congr
    rintro ⟨field, i⟩ hx r
    have hi : type.fields[i]? = some field := List.mem_zipIdx_iff_getElem?.mp hx
    unfold Row.under
    dsimp only
    cases columns.indexOf? (lead ++ field.name) with
    | none => rfl
    | some p => apply fill_eq (m := build type columns lead format) hi
  have hread : type.fields.zipIdx.mapM
      (fun x => x.1.read? format (row.under columns (lead ++ x.1.name))) =
      readFields type lead format columns row := by
    unfold readFields
    conv_rhs => rw [← List.zipIdx_map_fst 0 type.fields]
    rw [List.mapM_map]
    rfl
  rw [hfold, foldlM_map_eq, hread]
  rfl

/-- The key is that of the value under its name. -/
theorem key?_build :
  (build type columns lead format).key? row = (row.under columns (lead ++ primaryKey)).asInt?
  := by
  unfold RowMapper.key? Row.under build
  dsimp only
  cases columns.indexOf? (lead ++ primaryKey) with
  | none => rfl
  | some p =>
      show (row.at? p).bind Value.asInt? = ((row.at? p).getD .null).asInt?
      cases row.at? p <;> rfl

/-- What a mapper makes of a row by what the row has under names.  A field is at its default if it
is null there, or not there at all, and otherwise keeps what the value means.  The error is that
of the first field that has none. -/
structure Makes (type : RecordType) (lead format : String) (columns : Columns) (row : Row) :
    Prop where
  unset : ∀ record, (build type columns lead format).map row = .ok record →
    ∀ i field, type.fields[i]? = some field →
      (∀ v, row.Carries columns (lead ++ field.name) v → v = .null) → record.field? i = none
  set : ∀ record, (build type columns lead format).map row = .ok record →
    ∀ i field v, type.fields[i]? = some field → row.Carries columns (lead ++ field.name) v →
      v ≠ .null → ∃ w kept, v.coerce field.columnType format = .ok w ∧
        field.type.convert w = .ok kept ∧ record.field? i = some kept
  refused : ∀ e, (build type columns lead format).map row = .error e →
    ∃ before field behind, type.fields = before ++ field :: behind ∧
      (∃ v, row.Carries columns (lead ++ field.name) v ∧ v ≠ .null ∧
        field.read? format v = .error e) ∧
      ∀ f ∈ before, ∃ kept, f.read? format (row.under columns (lead ++ f.name)) = .ok kept
  unkeyed : (∀ v, row.Carries columns (lead ++ primaryKey) v → v = .null) →
    (build type columns lead format).key? row = none ∧
      ∀ record, (build type columns lead format).map row = .ok record → record.key = 0
  keyed : ∀ v, row.Carries columns (lead ++ primaryKey) v →
    (build type columns lead format).key? row = v.asInt?

/-- A record that is made of a row keeps what is read of its fields. -/
theorem exists_of_map {record : Record}
    (h : (build type columns lead format).map row = .ok record) :
  ∃ kept, readFields type lead format columns row = .ok kept ∧ record = .ofFields type kept
  := by
  rw [map_build] at h
  cases hread : readFields type lead format columns row with
  | error e =>
      rw [hread] at h
      cases h
  | ok kept =>
      rw [hread] at h
      cases h
      use kept

/-- Each field has what is read of it. -/
theorem read?_of_readFields {kept : List (Option Value)}
    (h : readFields type lead format columns row = .ok kept) {i : Nat} {field : Field}
    (hfield : type.fields[i]? = some field) :
  ∃ stored, kept[i]? = some stored ∧
    field.read? format (row.under columns (lead ++ field.name)) = .ok stored
  := by
  have hi := congrArg (·[i]?) (map_eq_of_mapM_ok h)
  simp only [List.getElem?_map, hfield, Option.map_some] at hi
  obtain ⟨stored, hstored, heq⟩ := Option.map_eq_some_iff.mp hi.symm
  exact ⟨stored, hstored, heq.symm⟩

/-- As many fields are kept as there are. -/
theorem length_of_readFields {kept : List (Option Value)}
    (h : readFields type lead format columns row = .ok kept) :
  kept.length = type.fields.length
  := by simpa using (congrArg List.length (map_eq_of_mapM_ok h)).symm

/-- A field of a record is what is read of it. -/
theorem read?_of_map {record : Record} (h : (build type columns lead format).map row = .ok record)
    {i : Nat} {field : Field} (hfield : type.fields[i]? = some field) :
  field.read? format (row.under columns (lead ++ field.name)) = .ok (record.field? i)
  := by
  obtain ⟨kept, hkept, rfl⟩ := exists_of_map h
  obtain ⟨stored, hstored, hread⟩ := read?_of_readFields hkept hfield
  rw [hread, Record.field?_ofFields (length_of_readFields hkept), hstored]
  rfl

/-- A row that has null or nothing under the name of the key gives a record none. -/
theorem key_of_map {record : Record} (h : (build type columns lead format).map row = .ok record)
    (hnull : row.under columns (lead ++ primaryKey) = .null) :
  record.key = 0
  := by
  obtain ⟨kept, hkept, rfl⟩ := exists_of_map h
  apply Record.key_ofFields
  rintro ⟨⟨field, n⟩, stored⟩ hx hname
  obtain ⟨i, hi⟩ := List.mem_iff_getElem?.mp hx
  obtain ⟨hfield, hstored⟩ := List.getElem?_zip_eq_some.mp hi
  have hfield : type.fields[i]? = some field := by
    rw [List.getElem?_zipIdx, Option.map_eq_some_iff] at hfield
    obtain ⟨field', hfield', heq⟩ := hfield
    cases heq
    exact hfield'
  have hsame : sameName (lead ++ field.name) (lead ++ primaryKey) := by
    rw [sameName_iff, lower_append, lower_append, sameName_iff.mp hname]
  obtain ⟨stored', hstored', hread⟩ := read?_of_readFields hkept hfield
  rw [Row.under_sameName hsame, hnull] at hread
  rw [hstored] at hstored'
  cases hstored'
  exact (Except.ok.inj hread).symm

/-- The error that a row gives is that of the first field that cannot be read. -/
theorem exists_of_map_error {e : Error}
    (h : (build type columns lead format).map row = .error e) :
  ∃ before field behind, type.fields = before ++ field :: behind ∧
    field.read? format (row.under columns (lead ++ field.name)) = .error e ∧
    ∀ f ∈ before, ∃ kept, f.read? format (row.under columns (lead ++ f.name)) = .ok kept
  := by
  rw [map_build] at h
  apply exists_of_mapM_error
  show readFields type lead format columns row = .error e
  cases hread : readFields type lead format columns row with
  | error e' =>
      rw [hread] at h
      cases h
      rfl
  | ok kept =>
      rw [hread] at h
      cases h

/-- What a mapper makes of a row. -/
theorem makes_build (type : RecordType) (lead format : String) (columns : Columns) (row : Row) :
  Makes type lead format columns row
  := by
  constructor
  · intro record hmap i field hfield hnull
    have hread := read?_of_map hmap hfield
    rw [Row.under_eq_null_iff.mpr hnull] at hread
    exact (Except.ok.inj hread).symm
  · intro record hmap i field v hfield hv hne
    have hread := read?_of_map hmap hfield
    rw [Row.under_of_carries hv] at hread
    exact Field.exists_of_read? hne hread
  · intro e hmap
    obtain ⟨before, field, behind, hfields, hread, hbefore⟩ := exists_of_map_error hmap
    have hne : row.under columns (lead ++ field.name) ≠ .null := by
      intro hnull
      rw [hnull] at hread
      cases hread
    exact ⟨before, field, behind, hfields, ⟨_, (Row.under_eq_iff hne).mp rfl, hne, hread⟩, hbefore⟩
  · intro hnull
    rw [← Row.under_eq_null_iff] at hnull
    constructor
    · rw [key?_build, hnull]
      rfl
    · intro record hmap
      exact key_of_map hmap hnull
  · intro v hv
    rw [key?_build, Row.under_of_carries hv]

/-- Rows that tell the same under the names of the fields give the same record or the same error,
and the same key if they do so under the name of the key, whatever their columns are.  Where
several columns have one name it is the first of them that tells, and where names are distinct
any that has the name.  What is made of a row is told field by field. -/
theorem reads_by_name (type : RecordType) (lead format : String) :
  (∀ (columns columns' : Columns) (row row' : Row),
    (∀ field ∈ type.fields, row.Alike columns row' columns' (lead ++ field.name)) →
    (build type columns lead format).map row = (build type columns' lead format).map row') ∧
  (∀ (columns columns' : Columns) (row row' : Row),
    row.Alike columns row' columns' (lead ++ primaryKey) →
    (build type columns lead format).key? row = (build type columns' lead format).key? row') ∧
  (∀ (columns : Columns) (row : Row), DistinctNames id columns →
    ∀ name v, row.Carries columns name v ↔ row.Has columns name v) ∧
  ∀ (columns : Columns) (row : Row), Makes type lead format columns row
  := by
  refine ⟨?_, ?_, fun _ _ h _ _ => Row.carries_iff_has h, makes_build type lead format⟩
  · intro columns columns' row row' h
    have hread : readFields type lead format columns row =
        readFields type lead format columns' row' := by
      apply mapM_congr
      intro field hfield
      rw [Row.alike_iff.mp (h field hfield)]
    rw [map_build, map_build, hread]
  · intro columns columns' row row' h
    rw [key?_build, key?_build, Row.alike_iff.mp h]

end RowMapper

/-- Scouts with a badge, which not all of them have. -/
def scout : RecordType :=
  ⟨"Scout", [.ofColumn "Id" .integer false, .ofColumn "Name" .text false,
    .ofColumn "Badge" .guid true]⟩

/-- A scout without a badge, once with a column for it and once without, among columns in another
order and spelling, with one that is there twice. -/
theorem scout_by_name :
  let columns : Columns := ["t1__Id", "t1__Name", "t1__Badge"]
  let row : Row := ⟨columns, [.int 7, .text "Ida", .null]⟩
  let columns' : Columns := ["Name", "T1__NAME", "t0__Id", "t1__id", "t1__ID"]
  let row' : Row := ⟨columns', [.text "Jo", .text "Ida", .int 1, .int 7]⟩
  (∀ field ∈ scout.fields, row.Alike columns row' columns' ("t1__" ++ field.name)) ∧
    row.Alike columns row' columns' ("t1__" ++ primaryKey) ∧
    (RowMapper.build scout columns "t1__" "").map row =
      (RowMapper.build scout columns' "t1__" "").map row' ∧
    (RowMapper.build scout columns "t1__" "").key? row =
      (RowMapper.build scout columns' "t1__" "").key? row' ∧
    (RowMapper.build scout columns' "t1__" "").map row' =
      .ok ⟨7, [some (.int 7), some (.text "Ida"), none]⟩
  := by
  intro columns row columns' row'
  have hfields : ∀ field ∈ scout.fields,
      row.Alike columns row' columns' ("t1__" ++ field.name) := by
    intro field hfield
    rw [Row.alike_iff]
    revert hfield field
    decide +kernel
  have hkey : row.Alike columns row' columns' ("t1__" ++ primaryKey) := by
    rw [Row.alike_iff]
    decide +kernel
  obtain ⟨hmap, hkeys, -, -⟩ := RowMapper.reads_by_name scout "t1__" ""
  refine ⟨hfields, hkey, hmap _ _ _ _ hfields, hkeys _ _ _ _ hkey, ?_⟩
  apply toOption_eq_some_iff.mp
  decide +kernel

end EntityStore
