import EntityStore.Join.Statement
import EntityStore.Proofs.Include.Readers
import EntityStore.Proofs.Join.Cursor
import EntityStore.Proofs.Schema.Definitions

/-!
# Sources of fields

A record is read from a join by the names of its fields.  A field comes from the table it was
pinned to last, if that has a column of its name, and else from the first table with a column of
its name and type.  The statement asks for the fields that have a source, unless a table has
another column of the name, and what reads the result takes each of them from its own place.
-/

namespace EntityStore

open Text Sql

namespace Join

/-! ### Sources -/

/-- A binding has a column of the name of a field. -/
def HasColumn (b : Binding) (field : Field) (column : String) (type : ColumnType) : Prop :=
  (column, type) ∈ b.descriptor.allColumns ∧ sameName field.name column

instance (b : Binding) (field : Field) (column : String) (type : ColumnType) :
    Decidable (HasColumn b field column type) :=
  inferInstanceAs (Decidable (_ ∧ _))

/-- The latest pin of a field leads to a binding. -/
def PinnedTo (j : Join) (field : Field) (b : Binding) : Prop :=
  ∃ before pin behind, j.pins = before ++ pin :: behind ∧ pin.binding = b ∧
    sameName pin.property field.name ∧ ∀ p ∈ behind, ¬ sameName p.property field.name

/-- A field is not pinned to a binding with a column of its name. -/
def Unpinned (j : Join) (field : Field) : Prop :=
  ∀ b, j.PinnedTo field b → ∀ column type, ¬ HasColumn b field column type

/-- A binding is the first with a column of the name and the type of a field. -/
def FirstWith (j : Join) (field : Field) (b : Binding) : Prop :=
  ∃ before behind, j.bindings = before ++ b :: behind ∧
    (∃ column, HasColumn b field column field.columnType) ∧
    ∀ b' ∈ before, ∀ column, ¬ HasColumn b' field column field.columnType

/-- A field comes from a binding: from the one it is pinned to, if that has a column of its name,
and else from the first one that has a column of its name and type. -/
inductive Sourced (j : Join) (field : Field) (b : Binding) : Prop
  | pinned {column : String} {type : ColumnType} (hpin : j.PinnedTo field b)
      (hcolumn : HasColumn b field column type)
  | first (hfree : j.Unpinned field) (hfirst : j.FirstWith field b)

/-- The first binding with a column of the name and the type of a field, if it counts, has none of
the name and of another type that is found in its place. -/
def Unshadowed (j : Join) (field : Field) : Prop :=
  j.Unpinned field → ∀ b, j.FirstWith field b →
    ∃ column, b.descriptor.resolve? field.name = some (column, field.columnType)

variable {j : Join} {field : Field} {b : Binding} {column : String}

/-- What is found under the name of a field is a column of that name. -/
theorem hasColumn_of_resolve? {type : ColumnType}
    (h : b.descriptor.resolve? field.name = some (column, type)) :
  HasColumn b field column type
  := Descriptor.mem_of_resolve? h

/-- Something is found under the name of a field if there is a column of that name. -/
theorem exists_hasColumn_iff :
  (∃ column type, HasColumn b field column type) ↔
    ∃ column type, b.descriptor.resolve? field.name = some (column, type)
  := by
  constructor
  · rintro ⟨column, type, hcolumn, hsame⟩
    obtain ⟨⟨found, type⟩, hfound⟩ := Descriptor.exists_resolve?_of_mem hcolumn hsame
    exact ⟨found, type, hfound⟩
  · rintro ⟨column, type, hfound⟩
    exact ⟨column, type, hasColumn_of_resolve? hfound⟩

/-- The binding that a field is pinned to is that of the first of its pins from the end. -/
theorem pinnedTo_iff :
  j.PinnedTo field b ↔
    ((j.pins.reverse.find? fun p => sameName p.property field.name).map (·.binding)) = some b
  := by
  rw [Option.map_eq_some_iff]
  constructor
  · rintro ⟨before, pin, behind, hpins, hb, hname, hbehind⟩
    refine ⟨pin, List.find?_eq_some_iff_append.mpr ⟨hname, behind.reverse, before.reverse, ?_, ?_⟩,
      hb⟩
    · simp [hpins]
    · simpa using hbehind
  · rintro ⟨pin, hpin, hb⟩
    obtain ⟨hname, before, behind, hpins, hbefore⟩ := List.find?_eq_some_iff_append.mp hpin
    refine ⟨behind.reverse, pin, before.reverse, ?_, hb, hname, by simpa using hbefore⟩
    rw [List.reverse_eq_append_iff.mp hpins]
    simp

/-- A field is pinned to what is found in the binding of its latest pin. -/
theorem pinned?_eq_some_iff :
  j.pinned? field = some (b, column) ↔
    j.PinnedTo field b ∧ ∃ type, b.descriptor.resolve? field.name = some (column, type)
  := by
  unfold pinned?
  rw [pinnedTo_iff]
  constructor
  · intro h
    obtain ⟨pin, hpin, hcolumn⟩ := Option.bind_eq_some_iff.mp h
    obtain ⟨⟨c, type⟩, hresolve, heq⟩ := Option.bind_eq_some_iff.mp hcolumn
    cases heq
    exact ⟨Option.map_eq_some_iff.mpr ⟨pin, hpin, rfl⟩, type, hresolve⟩
  · rintro ⟨h, type, hresolve⟩
    obtain ⟨pin, hpin, rfl⟩ := Option.map_eq_some_iff.mp h
    apply Option.bind_eq_some_iff.mpr ⟨pin, hpin, _⟩
    exact Option.bind_eq_some_iff.mpr ⟨(column, type), hresolve, rfl⟩

/-- A field is pinned to nothing if the binding of its latest pin has no column of its name. -/
theorem pinned?_eq_none_iff :
  j.pinned? field = none ↔ j.Unpinned field
  := by
  rw [Option.eq_none_iff_forall_ne_some]
  constructor
  · intro h b hpin column type hcolumn
    obtain ⟨found, type, hfound⟩ := exists_hasColumn_iff.mp ⟨column, type, hcolumn⟩
    exact h (b, found) (pinned?_eq_some_iff.mpr ⟨hpin, type, hfound⟩)
  · rintro h ⟨b, column⟩ hsome
    obtain ⟨hpin, type, hfound⟩ := pinned?_eq_some_iff.mp hsome
    exact h b hpin column type (hasColumn_of_resolve? hfound)

/-- What is found in a binding counts for a field if it has the type of the field. -/
theorem columnFor?_eq_some_iff {b' : Binding} :
  columnFor? b' field = some (b, column) ↔
    b' = b ∧ b.descriptor.resolve? field.name = some (column, field.columnType)
  := by
  unfold columnFor?
  constructor
  · intro h
    split at h
    · next c type hresolve =>
        split at h
        · next htype =>
            cases h
            exact ⟨rfl, htype ▸ hresolve⟩
        · cases h
    · cases h
  · rintro ⟨rfl, hresolve⟩
    simp [hresolve]

/-- What is found for a field is what it is pinned to, or else the first that is found among the
bindings and has the type of the field. -/
theorem source?_eq_some_iff :
  j.source? field = some (b, column) ↔
    (j.PinnedTo field b ∧ ∃ type, b.descriptor.resolve? field.name = some (column, type)) ∨
    (j.Unpinned field ∧ ∃ before behind, j.bindings = before ++ b :: behind ∧
      b.descriptor.resolve? field.name = some (column, field.columnType) ∧
      ∀ b' ∈ before, ∀ c, b'.descriptor.resolve? field.name ≠ some (c, field.columnType))
  := by
  unfold source?
  rw [Option.or_eq_some_iff, pinned?_eq_some_iff, pinned?_eq_none_iff, List.findSome?_eq_some_iff]
  refine or_congr Iff.rfl (and_congr Iff.rfl ?_)
  have hnone : ∀ b' : Binding, columnFor? b' field = none ↔
      ∀ c, b'.descriptor.resolve? field.name ≠ some (c, field.columnType) := by
    intro b'
    rw [Option.eq_none_iff_forall_ne_some]
    constructor
    · intro h c hc
      exact h (b', c) (columnFor?_eq_some_iff.mpr ⟨rfl, hc⟩)
    · rintro h ⟨b'', c⟩ hsome
      obtain ⟨rfl, hc⟩ := columnFor?_eq_some_iff.mp hsome
      exact h c hc
  simp only [columnFor?_eq_some_iff, hnone]
  constructor
  · rintro ⟨before, b', behind, hbindings, ⟨rfl, hresolve⟩, hbefore⟩
    exact ⟨before, behind, hbindings, hresolve, hbefore⟩
  · rintro ⟨before, behind, hbindings, hresolve, hbefore⟩
    exact ⟨before, b, behind, hbindings, ⟨rfl, hresolve⟩, hbefore⟩

/-- What is found for a field is a column of its name, and of its type unless it is pinned there. -/
theorem hasColumn_of_source? (h : j.source? field = some (b, column)) :
  ∃ type, HasColumn b field column type ∧ (type = field.columnType ∨ j.PinnedTo field b)
  := by
  obtain ⟨hpin, type, hfound⟩ | ⟨-, before, behind, -, hfound, -⟩ := source?_eq_some_iff.mp h
  · exact ⟨type, hasColumn_of_resolve? hfound, .inr hpin⟩
  · exact ⟨_, hasColumn_of_resolve? hfound, .inl rfl⟩

/-- Some binding is the first with a column of the name and the type of a field if one has such a
column. -/
theorem exists_firstWith {before behind : List Binding} (hbindings : j.bindings = before ++ behind)
    (h : ∃ b ∈ before, ∃ column, HasColumn b field column field.columnType) :
  ∃ b ∈ before, j.FirstWith field b
  := by
  classical
  let has (b : Binding) : Bool := decide (∃ column, HasColumn b field column field.columnType)
  obtain ⟨b, hb⟩ : ∃ b, before.find? has = some b := by
    apply Option.isSome_iff_exists.mp
    rw [List.find?_isSome]
    obtain ⟨b, hmem, hb⟩ := h
    exact ⟨b, hmem, decide_eq_true hb⟩
  obtain ⟨hhas, between, rest, rfl, hnone⟩ := List.find?_eq_some_iff_append.mp hb
  refine ⟨b, by simp, between, rest ++ behind, by simp [hbindings], of_decide_eq_true hhas, ?_⟩
  simpa [has] using hnone

/-- What is found for a field comes from its source, unless a column of its name and type is
shadowed in the first binding that has one. -/
theorem source?_iff_sourced :
  (∀ b, (∃ column, j.source? field = some (b, column)) ↔ j.Sourced field b) ↔ j.Unshadowed field
  := by
  constructor
  · intro h hfree b hfirst
    obtain ⟨column, hsource⟩ := (h b).mpr (.first hfree hfirst)
    obtain ⟨hpin, type, hfound⟩ | ⟨-, before, behind, -, hfound, -⟩ :=
      source?_eq_some_iff.mp hsource
    · exact absurd (hasColumn_of_resolve? hfound) (hfree b hpin column type)
    · exact ⟨column, hfound⟩
  · intro h b
    constructor
    · rintro ⟨column, hsource⟩
      obtain ⟨hpin, type, hfound⟩ | ⟨hfree, before, behind, hbindings, hfound, hbefore⟩ :=
        source?_eq_some_iff.mp hsource
      · exact .pinned hpin (hasColumn_of_resolve? hfound)
      · refine .first hfree ⟨before, behind, hbindings, ⟨column, hasColumn_of_resolve? hfound⟩, ?_⟩
        -- If a binding before had such a column, the first of these would have been found.
        intro b' hb' c hc
        obtain ⟨first, hmem, hfirst⟩ := exists_firstWith hbindings ⟨b', hb', c, hc⟩
        obtain ⟨found, hfound⟩ := h hfree first hfirst
        exact hbefore first hmem found hfound
    · intro hsourced
      cases hsourced with
      | pinned hpin hcolumn =>
          obtain ⟨column, type, hfound⟩ := exists_hasColumn_iff.mp ⟨_, _, hcolumn⟩
          exact ⟨column, source?_eq_some_iff.mpr (.inl ⟨hpin, type, hfound⟩)⟩
      | first hfree hfirst =>
          obtain ⟨column, hfound⟩ := h hfree b hfirst
          obtain ⟨before, behind, hbindings, -, hbefore⟩ := hfirst
          refine ⟨column, source?_eq_some_iff.mpr
            (.inr ⟨hfree, before, behind, hbindings, hfound, ?_⟩)⟩
          intro b' hb' c hc
          exact hbefore b' hb' c (hasColumn_of_resolve? hc)

/-- Where the names of columns are distinct none is shadowed. -/
theorem unshadowed_of_distinct
    (h : ∀ b ∈ j.bindings, DistinctNames id b.descriptor.columnNames) (field : Field) :
  j.Unshadowed field
  := by
  rintro - b ⟨before, behind, hbindings, ⟨column, hcolumn⟩, -⟩
  use column
  apply (Descriptor.resolve?_eq_some_iff (h b _)).mpr hcolumn
  simp [hbindings]

/-- A new pin of a property to the latest binding of a type of entities is the latest one of the
fields of this name, and changes nothing for the others. -/
theorem pinnedTo_pin (hvoid : j.isVoid = false) {e : EntityType} {latest : Binding}
    (hlatest : j.latest? e = some latest) (property : String) :
  (j.pin e property).PinnedTo field b ↔
    if sameName property field.name then b = latest else j.PinnedTo field b
  := by
  have hpins : (j.pin e property).pins = j.pins ++ [⟨latest, property⟩] := by
    simp [pin, unlessVoid, hvoid, hlatest]
  rw [pinnedTo_iff, pinnedTo_iff, hpins, List.reverse_append, List.reverse_singleton,
    List.singleton_append, List.find?_cons]
  cases sameName property field.name with
  | false => simp
  | true => simp [eq_comm]

/-! ### Columns of the result -/

variable {destination : RecordType}

/-- The fields that have a source. -/
def sourcedFields (j : Join) (destination : RecordType) : List Field :=
  (j.projection destination).map (·.1)

/-- The statement asks for each field for which something is found, and for what is found. -/
theorem mem_projection :
  (field, b, column) ∈ j.projection destination ↔
    field ∈ destination.fields ∧ j.source? field = some (b, column)
  := by
  rw [projection, List.mem_filterMap]
  constructor
  · rintro ⟨field', hfield, hsource⟩
    obtain ⟨source, hsource, heq⟩ := Option.map_eq_some_iff.mp hsource
    cases heq
    exact ⟨hfield, hsource⟩
  · rintro ⟨hfield, hsource⟩
    exact ⟨field, hfield, by rw [hsource]; rfl⟩

/-- The fields that have a source are those for which one is found. -/
theorem sourcedFields_eq (j : Join) (destination : RecordType) :
  j.sourcedFields destination = destination.fields.filter fun field => (j.source? field).isSome
  := by
  rw [sourcedFields, projection, List.map_filterMap, ← List.filterMap_eq_filter]
  apply List.filterMap_congr
  intro field _
  cases hsource : j.source? field <;> simp [Option.guard, hsource]

/-- The fields that have a source are in the order of all. -/
theorem sourcedFields_sublist (j : Join) (destination : RecordType) :
  (j.sourcedFields destination).Sublist destination.fields
  := by
  rw [sourcedFields_eq]
  apply List.filter_sublist

/-- A column of the result is found under the name of the field at its place. -/
theorem indexOf?_sourcedFields (h : DistinctNames Field.name destination.fields)
    (hfield : field ∈ destination.fields) {p : Nat} :
  Columns.indexOf? ((j.sourcedFields destination).map (·.name)) field.name = some p ↔
    (j.sourcedFields destination)[p]? = some field
  := by
  have hsublist := j.sourcedFields_sublist destination
  constructor
  · intro hindex
    obtain ⟨hp, hname, -⟩ := List.findIdx?_eq_some_iff_getElem.mp hindex
    rw [List.length_map] at hp
    rw [List.getElem_map] at hname
    have hmem := hsublist.subset (List.getElem_mem hp)
    rw [List.getElem?_eq_getElem hp, h.eq_of_mem hfield hmem hname]
  · intro hp
    apply DistinctNames.findIdx?_eq (h.sublist hsublist) hp (sameName_refl field.name)

/-- What reads the result takes each field that has a source from its place, and no others. -/
theorem mem_slots_sourcedFields (h : DistinctNames Field.name destination.fields)
    {format : String} {p i : Nat} :
  (p, i) ∈ (RowMapper.build destination ((j.sourcedFields destination).map (·.name)) ""
      format).slots ↔
    ∃ field, destination.fields[i]? = some field ∧
      (j.sourcedFields destination)[p]? = some field
  := by
  rw [RowMapper.mem_slots_build]
  constructor
  · rintro ⟨field, hfield, hindex⟩
    rw [String.empty_append, indexOf?_sourcedFields h (List.mem_of_getElem? hfield)] at hindex
    exact ⟨field, hfield, hindex⟩
  · rintro ⟨field, hfield, hp⟩
    refine ⟨field, hfield, ?_⟩
    rw [String.empty_append, indexOf?_sourcedFields h (List.mem_of_getElem? hfield)]
    exact hp

/-- The places of the result are taken in their order, each of them once. -/
theorem places_sourcedFields (h : DistinctNames Field.name destination.fields)
    {format : String} :
  (RowMapper.build destination ((j.sourcedFields destination).map (·.name)) "" format).slots.map
      (·.1) = List.range (j.sourcedFields destination).length
  := by
  let columns : Columns := (j.sourcedFields destination).map (·.name)
  have hplace : ∀ x ∈ (j.sourcedFields destination).zipIdx,
      columns.indexOf? x.1.name = some x.2 := by
    rintro ⟨field, p⟩ hx
    have hp := List.mem_zipIdx_iff_getElem?.mp hx
    have hfield := (j.sourcedFields_sublist destination).subset (List.mem_of_getElem? hp)
    exact (indexOf?_sourcedFields h hfield).mpr hp
  have hnone : ∀ field ∈ destination.fields,
      (if (j.source? field).isSome then columns.indexOf? field.name else none) =
        columns.indexOf? field.name := by
    intro field hfield
    split
    · rfl
    · next hsource =>
        rw [eq_comm, Option.eq_none_iff_forall_ne_some]
        intro p hp
        have hmem := List.mem_of_getElem? ((indexOf?_sourcedFields h hfield).mp hp)
        rw [sourcedFields_eq, List.mem_filter] at hmem
        exact hsource hmem.2
  calc
    (RowMapper.build destination columns "" format).slots.map (·.1) =
        destination.fields.zipIdx.filterMap fun x => columns.indexOf? x.1.name := by
      rw [RowMapper.build, List.map_filterMap]
      apply List.filterMap_congr
      rintro ⟨field, i⟩ _
      show ((columns.indexOf? ("" ++ field.name)).map (·, i)).map (·.1) = _
      rw [String.empty_append, Option.map_map]
      exact Option.map_id'
    _ = destination.fields.filterMap fun field => columns.indexOf? field.name := by
      conv_rhs => rw [← List.zipIdx_map_fst 0 destination.fields, List.filterMap_map]
      rfl
    _ = (j.sourcedFields destination).filterMap fun field => columns.indexOf? field.name := by
      rw [sourcedFields_eq, List.filterMap_filter]
      exact (List.filterMap_congr hnone).symm
    _ = (j.sourcedFields destination).zipIdx.filterMap fun x => columns.indexOf? x.1.name := by
      conv_lhs => rw [← List.zipIdx_map_fst 0 (j.sourcedFields destination), List.filterMap_map]
      rfl
    _ = (j.sourcedFields destination).zipIdx.filterMap (some ∘ Prod.snd) :=
      List.filterMap_congr hplace
    _ = List.range (j.sourcedFields destination).length := by
      rw [List.filterMap_eq_map, List.zipIdx_map_snd, List.range_eq_range']

/-- A statement selects the columns that are found. -/
theorem selects_of_render {conditions : List String} {f : Fragment}
    (hf : j.render destination conditions = .ok f) :
  ∃ tables, f.sql =
    "SELECT " ++ commaList ((j.projection destination).map projected) ++ " FROM " ++ tables
  := by
  unfold render at hf
  split at hf
  · cases hf
  · dsimp only at hf
    split at hf
    · cases hf
    · cases hf
      use bound j.base ++ String.join (j.clauses.map clauseSql) ++
        whereSql (j.filters.map (·.sql) ++ conditions)
      simp only [← String.append_assoc]
      rfl

/-- Whatever a join is read into, its statement asks for fields in their order, each once and for
a column of its name.  A field is asked for exactly if it has a source, and from there, unless a
column of its name and type is shadowed in the first table that has one, which happens to none if
the names of columns are distinct.  What reads the result takes each of these fields from its own
place, and no other field from anywhere. -/
theorem projection_iff_sourced (j : Join) {destination : RecordType}
    (h : DistinctNames Field.name destination.fields) :
  (∀ conditions f, j.render destination conditions = .ok f → ∃ tables, f.sql =
    "SELECT " ++ commaList ((j.projection destination).map projected) ++ " FROM " ++ tables) ∧
  (j.sourcedFields destination).Sublist destination.fields ∧
  DistinctNames Field.name (j.sourcedFields destination) ∧
  (∀ field b column, (field, b, column) ∈ j.projection destination →
    ∃ type, HasColumn b field column type ∧ (type = field.columnType ∨ j.PinnedTo field b)) ∧
  (∀ field ∈ destination.fields,
    (∀ b, (∃ column, (field, b, column) ∈ j.projection destination) ↔ j.Sourced field b) ↔
      j.Unshadowed field) ∧
  ((∀ b ∈ j.bindings, DistinctNames id b.descriptor.columnNames) → ∀ field, j.Unshadowed field) ∧
  ∀ format, ∃ reader, reader = RowMapper.build destination
      ((j.sourcedFields destination).map (·.name)) "" format ∧
    reader.slots.map (·.1) = List.range (j.sourcedFields destination).length ∧
    ∀ p i, (p, i) ∈ reader.slots ↔ ∃ field, destination.fields[i]? = some field ∧
      (j.sourcedFields destination)[p]? = some field
  := by
  have hsublist := j.sourcedFields_sublist destination
  refine ⟨fun _ _ => selects_of_render, hsublist, h.sublist hsublist, ?_, ?_,
    unshadowed_of_distinct, ?_⟩
  · intro field b column hmem
    apply hasColumn_of_source? (mem_projection.mp hmem).2
  · intro field hfield
    rw [← source?_iff_sourced]
    simp only [mem_projection, hfield, true_and]
  · intro format
    exact ⟨_, rfl, places_sourcedFields h, fun _ _ => mem_slots_sourcedFields h⟩

/-- A pair of persons: who has a mentor, which mentor it is, and what is said of them. -/
def pair : RecordType :=
  ⟨"Pair", [.ofColumn "id" .integer false, .ofColumn "Remark" .text false,
    .ofColumn "MENTORID" .integer true]⟩

/-- The key of a pair is that of the mentor, to which it is pinned, and the mentor is that of the
first person.  Nothing is read into the remark. -/
theorem projection_pair :
  let j := mentors.pin mentored "Id"
  DistinctNames Field.name pair.fields ∧
    j.Sourced (.ofColumn "id" .integer false) ⟨mentored, mentored.draft.descriptor, "P1"⟩ ∧
    j.Sourced (.ofColumn "MENTORID" .integer true) ⟨mentored, mentored.draft.descriptor, "p"⟩ ∧
    j.sourcedFields pair = [.ofColumn "id" .integer false, .ofColumn "MENTORID" .integer true] ∧
    (∃ f tables, j.select pair = .ok f ∧ f.sql =
      "SELECT P1.Id AS \"id\", p.MentorId AS \"MENTORID\" FROM " ++ tables) ∧
    ∀ i, (1, i) ∈ (RowMapper.build pair ["id", "MENTORID"] "" "").slots ↔ i = 2
  := by
  intro j
  have hfields : DistinctNames Field.name pair.fields := by decide
  have hprojection : j.projection pair =
      [(.ofColumn "id" .integer false, ⟨mentored, mentored.draft.descriptor, "P1"⟩, "Id"),
        (.ofColumn "MENTORID" .integer true, ⟨mentored, mentored.draft.descriptor, "p"⟩,
          "MentorId")] := by
    decide +kernel
  obtain ⟨f, hf⟩ : ∃ f, j.select pair = .ok f := ⟨_, rfl⟩
  obtain ⟨hselect, -, -, -, hsourced, hdistinct, hreader⟩ := j.projection_iff_sourced hfields
  obtain ⟨reader, hbuild, -, hslots⟩ := hreader ""
  have hunshadowed := hdistinct (by decide)
  simp only [sourcedFields, hprojection, List.map_cons, List.map_nil] at hbuild hslots
  refine ⟨hfields, ((hsourced _ ?_).mpr (hunshadowed _) _).mp ⟨"Id", ?_⟩,
    ((hsourced _ ?_).mpr (hunshadowed _) _).mp ⟨"MentorId", ?_⟩, ?_, ?_, ?_⟩
  · simp [pair]
  · simp [hprojection]
  · simp [pair]
  · simp [hprojection]
  · simp [sourcedFields, hprojection]
  · obtain ⟨tables, htables⟩ := hselect [] f hf
    rw [hprojection] at htables
    exact ⟨f, tables, hf, htables⟩
  · intro i
    have hslot := hslots 1 i
    rw [hbuild] at hslot
    apply hslot.trans
    constructor
    · rintro ⟨field, hi, hfield⟩
      cases hfield
      match i, hi with
      | 2, _ => rfl
    · rintro rfl
      exact ⟨_, rfl, rfl⟩

/-- Parcels with the number of the label on them. -/
def parcel : EntityType where
  record := ⟨"Parcel", [.ofColumn "Id" .integer false, .ofColumn "LabelId" .integer false,
    .ofColumn "Name" .integer false]⟩
  table := "Parcel"
  description := []

/-- Labels joined with the parcels that they are on. -/
def labels : Join where
  registry := ⟨[label.draft.descriptor, parcel.draft.descriptor]⟩
  rules := {}
  base := ⟨label, label.draft.descriptor, "l"⟩
  left := ⟨label, label.draft.descriptor, "l"⟩
  current := ⟨.inner, ⟨parcel, parcel.draft.descriptor, "p"⟩, none⟩

/-- Labels have a number of the name that is asked for behind a text of this name, and the number
is that of the parcel. -/
theorem name_of_parcel :
  let field := Field.ofColumn "name" .integer false
  let j := labels.on "Id" "LabelId"
  Registry.build ⟨[label, parcel], []⟩ = .ok labels.registry ∧
    start labels.registry {} label parcel "l" "p" .inner = .ok labels ∧
    labels.follow [.on "Id" "LabelId"] = (j, none) ∧ j.Sourced field labels.base ∧
    j.projection ⟨"Line", [field]⟩ = [(field, labels.right, "Name")] ∧
    (j.select ⟨"Line", [field]⟩).map (·.sql) = .ok ("SELECT p.Name AS \"name\" FROM " ++
      "\"Label\" l INNER JOIN \"Parcel\" p ON l.Id = p.LabelId")
  := by
  intro field j
  have hbuild : Registry.build ⟨[label, parcel], []⟩ = .ok labels.registry := by rfl
  have hsourced : j.Sourced field labels.base := by
    apply Sourced.first
    · rintro b ⟨before, pin, behind, hpins, -⟩
      cases before <;> cases hpins
    · exact ⟨[], _, rfl, ⟨"name", by decide⟩, by simp⟩
  refine ⟨hbuild, rfl, rfl, hsourced, by decide +kernel, ?_⟩
  apply toOption_eq_some_iff.mp
  decide +kernel

end Join

end EntityStore
