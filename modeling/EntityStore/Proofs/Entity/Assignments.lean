import EntityStore.Connection.Scripted
import EntityStore.Proofs.Entity.Declared
import EntityStore.Proofs.Number.Decimal
import EntityStore.Proofs.Session.Sent
import EntityStore.Sqlite.Database

/-!
# Assignments of columns

The parameters of a statement that stores a record are named after columns and their places,
and nothing stands between the two.  Their names are distinct unless a column is named after a
later one with a number behind it.  Where they are, binding by name gives every column the
value of its own field.
-/

namespace EntityStore

open Text Sql Sqlite

/-! ### Names with places -/

/-- Names with their places behind them. -/
def placedNames (names : List String) : List String :=
  names.zipIdx.map fun (name, n) => name ++ decimalText n

/-- No name is a later one with a number behind it that makes the place of the later one from
that of the name. -/
def Apart (names : List String) : Prop :=
  ∀ (i j k : Nat) (a b : String), i < j → 0 < k → names[i]? = some a → names[j]? = some b →
    a = b ++ decimalText k → decimalText j ≠ decimalText k ++ decimalText i

/-- Names with places are distinct exactly if the names are apart. -/
theorem nodup_placedNames_iff (names : List String) :
  (placedNames names).Nodup ↔ Apart names
  := by
  have hsame : ∀ {i j : Nat} (a b : String), i < j → (a ++ decimalText i = b ++ decimalText j ↔
      ∃ k : Nat, 0 < k ∧ a = b ++ decimalText k ∧
        decimalText j = decimalText k ++ decimalText i) := by
    intro i j a b hij
    simp only [← String.toList_inj, String.toList_append, toList_decimalText,
      append_decimalDigits_eq_iff hij]
  rw [List.Nodup, List.pairwise_iff_getElem]
  simp only [placedNames, List.length_map, List.length_zipIdx, List.getElem_map,
    List.getElem_zipIdx, Nat.zero_add]
  constructor
  · intro h i j k a b hij hk hi hj hab hplace
    obtain ⟨hilt, rfl⟩ := List.getElem?_eq_some_iff.mp hi
    obtain ⟨hjlt, rfl⟩ := List.getElem?_eq_some_iff.mp hj
    exact h i j hilt hjlt hij ((hsame _ _ hij).mpr ⟨k, hk, hab, hplace⟩)
  · intro h i j hi hj hij heq
    obtain ⟨k, hk, hab, hplace⟩ := (hsame _ _ hij).mp heq
    exact h i j k _ _ hij hk (List.getElem?_eq_getElem hi) (List.getElem?_eq_getElem hj) hab hplace

/-- Up to ten names are apart. -/
theorem apart_of_length_le {names : List String} (h : names.length ≤ 10) :
  Apart names
  := by
  intro i j k a b _ _ _ hj _ hplace
  have hlt : j < 10 := by
    have := (List.getElem?_eq_some_iff.mp hj).1
    omega
  -- The place of the later name has one digit, and would have two.
  have hlength := congrArg (fun s => s.toList.length) hplace
  have hk : 0 < (decimalDigits k).length := Nat.length_toDigits_pos
  have hi : 0 < (decimalDigits i).length := Nat.length_toDigits_pos
  simp only [String.toList_append, toList_decimalText, List.length_append,
    decimalDigits_of_lt_ten hlt, List.length_singleton] at hlength
  omega

/-! ### Binding -/

/-- A parameter is known by its slot. -/
theorem Param.name_eq_of_slot {p q : Param} (h : p.slot = q.slot) :
  p.name = q.name
  := by
  have hchars := congrArg String.toList h
  simp only [slot, String.toList_append, List.append_cancel_left_eq] at hchars
  exact String.toList_inj.mp hchars

section

variable {sql format : String} {slots : List String} {params : List Param}
  {start bound : Database.Bindings}

/-- A parameter that can be bound has a value that can be stored, and that is bound to it. -/
theorem bound_of_bindOne {p : Param} (h : Database.bindOne sql format slots start p = .ok bound) :
  ∃ v, p.value.stored? format = some v ∧ bound = (p.slot, v) :: start
  := by
  unfold Database.bindOne at h
  split at h
  · cases h
  · split at h
    · cases h
    · split at h
      · next v hv =>
          cases h
          use v, hv
      · cases h

/-- Parameters of other names leave bound what is bound to a slot. -/
theorem lookup_of_not_mem {slot : String} (hslot : slot ∉ params.map (·.slot))
    (h : params.foldlM (Database.bindOne sql format slots) start = .ok bound) :
  bound.lookup slot = start.lookup slot
  := by
  induction params generalizing start with
  | nil =>
      cases h
      rfl
  | cons p params ih =>
      rw [List.map_cons, List.mem_cons, not_or] at hslot
      rw [List.foldlM_cons] at h
      obtain ⟨next, hnext, hrest⟩ := exists_of_bind_ok h
      obtain ⟨v, -, rfl⟩ := bound_of_bindOne hnext
      have hne : (slot == p.slot) = false := by simpa using hslot.1
      rw [ih hslot.2 hrest, List.lookup_cons, hne]

/-- If parameters have different names, each is bound to its own value as it is stored. -/
theorem exists_lookup_of_nodup (hnames : (params.map (·.name)).Nodup)
    (h : params.foldlM (Database.bindOne sql format slots) start = .ok bound) {p : Param}
    (hp : p ∈ params) :
  ∃ v, p.value.stored? format = some v ∧ bound.lookup p.slot = some v
  := by
  induction params generalizing start with
  | nil => cases hp
  | cons q params ih =>
      obtain ⟨hnew, hnames⟩ := List.nodup_cons.mp hnames
      rw [List.foldlM_cons] at h
      obtain ⟨next, hnext, hrest⟩ := exists_of_bind_ok h
      rcases List.mem_cons.mp hp with rfl | hp
      · obtain ⟨v, hv, rfl⟩ := bound_of_bindOne hnext
        have hslot : p.slot ∉ params.map (·.slot) := by
          intro hmem
          obtain ⟨q, hq, hsame⟩ := List.mem_map.mp hmem
          apply hnew
          exact List.mem_map.mpr ⟨q, hq, Param.name_eq_of_slot hsame⟩
        use v, hv
        rw [lookup_of_not_mem hslot hrest]
        simp
      · apply ih hnames hrest hp

end

/-- Whether a parameter gets a value, stored as it is, wherever parameters are bound by name. -/
def Binds (params : List Param) (p : Param) (v : Value) : Prop :=
  ∀ sql format slots bound, params.foldlM (Database.bindOne sql format slots) [] = .ok bound →
    v.stored? format = some (Database.valueOf bound p.slot)

/-- If parameters have different names, each gets its own value. -/
theorem binds_of_nodup {params : List Param} (h : (params.map (·.name)).Nodup) {p : Param}
    (hp : p ∈ params) :
  Binds params p p.value
  := by
  intro sql format slots bound hbound
  obtain ⟨v, hv, hlookup⟩ := exists_lookup_of_nodup h hbound hp
  rw [Database.valueOf, hlookup, hv]
  rfl

/-! ### Assignments -/

section

variable {d : Descriptor} {type : RecordType}

/-- What is assigned to a column is the value of its own field. -/
theorem value_of_mem_assignments {r : Record} {a : String × Param}
    (h : a ∈ d.assignments type r) :
  ∃ i, type.fieldIndex? a.1 = some i ∧ a.2.value = r.valueAt i
  := by
  obtain ⟨⟨column, n⟩, -, hassigned⟩ := List.mem_filterMap.mp h
  obtain ⟨i, hi, rfl⟩ := Option.map_eq_some_iff.mp hassigned
  use i, hi

/-- Every declared column of a type is assigned to, by a parameter that is named after it and its
place. -/
theorem map_assignments (h : d.outline = type.outline) (r : Record) :
  (d.assignments type r).map (fun a => (a.1, a.2.name)) =
    (d.columns.map (·.name)).zipIdx.map fun (name, n) => (name, name ++ decimalText n)
  := by
  rw [Descriptor.assignments, List.map_filterMap, List.zipIdx_map, List.map_map,
    ← List.filterMap_eq_map]
  apply List.filterMap_congr
  intro (column, n) hmem
  obtain ⟨i, hi⟩ := Descriptor.exists_fieldIndex? h (List.fst_mem_of_mem_zipIdx hmem)
  simp [hi]

/-- The columns that are assigned to are the declared ones. -/
theorem columns_assignments (h : d.outline = type.outline) (r : Record) :
  (d.assignments type r).map (·.1) = d.columns.map (·.name)
  := by
  have hcolumns := congrArg (List.map Prod.fst) (map_assignments h r)
  rw [List.map_map, List.map_map] at hcolumns
  exact hcolumns.trans (List.zipIdx_map_fst 0 _)

/-- The parameters are named after the columns and their places. -/
theorem names_assignments (h : d.outline = type.outline) (r : Record) :
  ((d.assignments type r).map (·.2)).map (·.name) = placedNames (d.columns.map (·.name))
  := by
  have hnames := congrArg (List.map Prod.snd) (map_assignments h r)
  rw [List.map_map, List.map_map] at hnames
  rw [List.map_map]
  exact hnames

/-- The parameter with the key is named as a column of that name behind the others. -/
theorem names_keyed (h : d.outline = type.outline) (r : Record) :
  ((d.assignments type r).map (·.2) ++
      [Descriptor.keyParam r (d.assignments type r).length]).map (·.name) =
    placedNames (d.columns.map (·.name) ++ [primaryKey])
  := by
  have hlength := congrArg List.length (columns_assignments h r)
  rw [List.length_map] at hlength
  rw [List.map_append, names_assignments h, placedNames, placedNames, List.zipIdx_append,
    List.map_append, hlength]
  simp [Descriptor.keyParam]

end

/-! ### Statements -/

/-- The command that stores what is assigned to columns as a new row. -/
def insertion (table : String) (assigned : List (String × Param)) : Command where
  kind := .insert
  sql :=
    let columns := quoteNames (assigned.map (·.1))
    let slots := commaList (assigned.map (·.2.slot))
    if assigned.isEmpty then s!"INSERT INTO {quoteName table} DEFAULT VALUES"
    else s!"INSERT INTO {quoteName table} ({columns}) VALUES ({slots})"
  params := assigned.map (·.2)

/-- The command that writes what is assigned to columns into the row with a key. -/
def replacement (table : String) (assigned : List (String × Param)) (key : Param) : Command where
  kind := .execute
  sql := s!"UPDATE {quoteName table} SET " ++
    commaList (assigned.map Descriptor.assignmentSql) ++
    s!" WHERE {quoteName primaryKey} = {key.slot}"
  params := assigned.map (·.2) ++ [key]

variable {σ : Type} {s : Session σ} {e : EntityType} {d : Descriptor}

/-- What is sent for a new record. -/
theorem sent_insert (hd : s.context.registry.ofType? e.record.name = some d) (r : Record)
    (t : SessionState σ) :
  s.sent (.insert e r) t =
    if s.isReady t.inner then [insertion d.table (d.assignments e.record r)] else []
  := by
  have hrequest : s.request? (.insert e r) =
      some (insertion d.table (d.assignments e.record r)) := by
    rw [Session.request?, hd]
    show some _ = some _
    unfold Descriptor.insertRow insertion
    cases h : d.assignments e.record r with
    | nil => rfl
    | cons a rest => rfl
  rw [Session.sent_eq, hrequest]
  rfl

/-- What is sent for a record that is written back. -/
theorem sent_update (hd : s.context.registry.ofType? e.record.name = some d) (r : Record)
    (t : SessionState σ) :
  s.sent (.update e r) t =
    if s.isReady t.inner && !r.isNew && !(d.assignments e.record r).isEmpty then
      [replacement d.table (d.assignments e.record r)
        (Descriptor.keyParam r (d.assignments e.record r).length)]
    else []
  := by
  have hwhere : ∀ key : Param, whereSql [(Descriptor.keyIs key).sql] =
      s!" WHERE {quoteName primaryKey} = {key.slot}" := by
    intro key
    unfold whereSql allOf
    rw [if_neg (by simp), String.intercalate_singleton]
    show " WHERE " ++ (quoteName primaryKey ++ " = " ++ key.slot) =
      " WHERE " ++ quoteName primaryKey ++ " = " ++ key.slot
    simp only [String.append_assoc]
  have hrequest : s.request? (.update e r) =
      if !r.isNew && !(d.assignments e.record r).isEmpty then
        some (replacement d.table (d.assignments e.record r)
          (Descriptor.keyParam r (d.assignments e.record r).length))
      else none := by
    rw [Session.request?, hd]
    show (if r.isNew then none else (d.updateRow? e.record r).map Session.execution) = _
    dsimp only [Descriptor.updateRow?, Descriptor.clause]
    rw [hwhere]
    cases r.isNew <;> cases d.assignments e.record r <;> rfl
  rw [Session.sent_eq, hrequest]
  cases s.isReady t.inner <;> cases r.isNew <;>
    cases (d.assignments e.record r).isEmpty <;> rfl

/-- Whether every assigned column gets the value of its own field of a record. -/
def Stores (type : RecordType) (r : Record) (params : List Param)
    (assigned : List (String × Param)) : Prop :=
  ∀ a ∈ assigned, ∃ i, type.fieldIndex? a.1 = some i ∧ Binds params a.2 (r.valueAt i)

/-- The statements that store a record assign to its declared columns, and the one that writes it
back asks for its key.  The names of their parameters are distinct exactly if the columns are
apart, with the column of the key last in the other.  Then every column gets the value of its
own field and the key that of the record.  Few columns are always apart. -/
theorem distinct_iff_apart {m : Model} (hbuild : Registry.build m = .ok s.context.registry)
    (he : e ∈ m.entities) (r : Record) :
  ∃ (d : Descriptor) (assigned : List (String × Param)) (key : Param),
    let columns := e.record.declared.map (·.name)
    let params := assigned.map (·.2)
    s.context.registry.ofType? e.record.name = some d ∧ assigned.map (·.1) = columns ∧
    (∀ t, s.sent (.insert e r) t =
      if s.isReady t.inner then [insertion d.table assigned] else []) ∧
    (∀ t, s.sent (.update e r) t =
      if s.isReady t.inner && !r.isNew && !assigned.isEmpty then
        [replacement d.table assigned key] else []) ∧
    ((params.map (·.name)).Nodup ↔ Apart columns) ∧
    (((params ++ [key]).map (·.name)).Nodup ↔ Apart (columns ++ [primaryKey])) ∧
    (Apart columns → Stores e.record r params assigned) ∧
    (Apart (columns ++ [primaryKey]) →
      Stores e.record r (params ++ [key]) assigned ∧ Binds (params ++ [key]) key (.int r.key)) ∧
    (columns.length ≤ 10 → Apart columns) ∧
    (columns.length < 10 → Apart (columns ++ [primaryKey]))
  := by
  obtain ⟨d, hd, houtline⟩ := Registry.exists_of_mem hbuild he
  have hcolumns := Descriptor.names_of_outline houtline
  have hinsert := names_assignments houtline r
  have hupdate := names_keyed houtline r
  rw [hcolumns] at hinsert hupdate
  have hstores : ∀ params : List Param, (params.map (·.name)).Nodup →
      (∀ a ∈ d.assignments e.record r, a.2 ∈ params) →
      Stores e.record r params (d.assignments e.record r) := by
    intro params hnodup hparams a ha
    obtain ⟨i, hi, hvalue⟩ := value_of_mem_assignments ha
    use i, hi
    rw [← hvalue]
    apply binds_of_nodup hnodup (hparams a ha)
  have hmem : ∀ a ∈ d.assignments e.record r, a.2 ∈ (d.assignments e.record r).map (·.2) :=
    fun a => List.mem_map_of_mem
  refine ⟨d, d.assignments e.record r, Descriptor.keyParam r (d.assignments e.record r).length,
    hd, ?_, sent_insert hd r, sent_update hd r, ?_, ?_, ?_, ?_, ?_, ?_⟩
  · rw [columns_assignments houtline, hcolumns]
  · rw [hinsert, nodup_placedNames_iff]
  · rw [hupdate, nodup_placedNames_iff]
  · intro hapart
    rw [← nodup_placedNames_iff, ← hinsert] at hapart
    exact hstores _ hapart hmem
  · intro hapart
    rw [← nodup_placedNames_iff, ← hupdate] at hapart
    constructor
    · exact hstores _ hapart fun a ha => List.mem_append_left _ (hmem a ha)
    · exact binds_of_nodup hapart (List.mem_append_right _ (List.mem_singleton_self _))
  · exact apart_of_length_le
  · intro hlength
    apply apart_of_length_le
    rw [List.length_append, List.length_singleton]
    omega

/-- A type of entities with integers in the columns of some names. -/
def integers (name : String) (columns : List String) : EntityType where
  record := ⟨name, (primaryKey :: columns).map fun column => .ofColumn column .integer false⟩
  table := name
  description := []

/-- A session on a scripted connection with one type of entities. -/
def sessionOf (e : EntityType) : Session Script where
  context := { registry := ⟨[e.draft.descriptor]⟩ }
  connection := Script.connection

/-- Two columns of which one is the other with a number are apart. -/
theorem pair_stored :
  let e := integers "Pair" ["A1", "A"]
  Registry.build ⟨[e], []⟩ = .ok (sessionOf e).context.registry ∧ e ∈ [e] ∧
    ∀ r, ∃ assigned, (sessionOf e).sent (.insert e r) ⟨{}, []⟩ = [insertion "Pair" assigned] ∧
      ((assigned.map (·.2)).map (·.name)).Nodup ∧
      Stores e.record r (assigned.map (·.2)) assigned
  := by
  intro e
  have hbuild : Registry.build ⟨[e], []⟩ = .ok (sessionOf e).context.registry := by
    decide +kernel
  have he : e ∈ [e] := List.mem_singleton_self e
  refine ⟨hbuild, he, ?_⟩
  intro r
  obtain ⟨d, assigned, key, hd, -, hinsert, -, hnames, -, hstores, -, hfew, -⟩ :=
    distinct_iff_apart hbuild he r
  have hapart := hfew (by decide)
  obtain rfl : e.draft.descriptor = d := Option.some.inj hd
  exact ⟨assigned, hinsert _, hnames.mpr hapart, hstores hapart⟩

/-- Eleven columns, the first of which is the last with a number: both parameters have one name,
and the first column gets the value of the last. -/
theorem first_overwritten :
  let e := integers "Wide" ["A1", "B", "C", "D", "E", "F", "G", "H", "I", "J", "A"]
  let r : Record := ⟨0, (List.range 12).map fun n => some (.int (Int64.ofNat n))⟩
  let assigned := e.draft.descriptor.assignments e.record r
  let c := insertion "Wide" assigned
  Registry.build ⟨[e], []⟩ = .ok (sessionOf e).context.registry ∧
    (sessionOf e).sent (.insert e r) ⟨{}, []⟩ = [c] ∧
    ¬ (c.params.map (·.name)).Nodup ∧
    e.record.fieldIndex? "A1" = some 1 ∧ r.valueAt 1 = .int 1 ∧
    ∃ p, ("A1", p) ∈ assigned ∧
      (c.params.foldlM (Database.bindOne c.sql "" (c.params.map (·.slot))) []).map
        (Database.valueOf · p.slot) = .ok (.int 11)
  := by
  intro e r assigned c
  refine ⟨by decide +kernel, ?_, ?_, ?_, ?_, ⟨"A10", .int 1⟩, ?_, ?_⟩
  · decide +kernel
  · decide +kernel
  · decide +kernel
  · decide +kernel
  · decide +kernel
  · decide +kernel

end EntityStore
