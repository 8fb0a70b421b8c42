import EntityStore.Proofs.Graph.Rows
import EntityStore.Proofs.List

/-!
# Roots of a graph

A root is listed when its record is made.  A record that has been made for a step already,
in a row before the first that has it as its root, is never listed.
-/

namespace EntityStore

/-! ### Roots that are listed -/

/-- The keys of the roots of rows, each once, in the order in which they come first. -/
def RowReaders.rootKeys (readers : RowReaders) (rows : List Row) : List Int64 :=
  (rows.filterMap readers.root.key?).eraseDups

namespace IncludePlan

/-- Whether a record of the type of the root is linked in a row before the first that has
it as its root. -/
def forestalls (plan : IncludePlan) (readers : RowReaders) (rows : List Row) (key : Int64) :
    Bool :=
  (rows.takeWhile fun row => readers.root.key? row ≠ some key).any fun row =>
    (plan.linked readers row).contains ⟨plan.root.record.name, key⟩

/-- The keys of the roots that are not linked before. -/
def listed (plan : IncludePlan) (readers : RowReaders) (rows : List Row) : List Int64 :=
  (readers.rootKeys rows).filter fun key => !plan.forestalls readers rows key

variable {plan : IncludePlan} {readers : RowReaders} {rows : List Row} {row : Row} {key : Int64}

/-- The keys of roots are found in rows. -/
theorem mem_rootKeys :
  key ∈ readers.rootKeys rows ↔ ∃ row ∈ rows, readers.root.key? row = some key
  := by rw [RowReaders.rootKeys, List.mem_eraseDups, List.mem_filterMap]

/-- One more row has its root, which counts if it is new. -/
theorem rootKeys_append (hkey : readers.root.key? row = some key) :
  readers.rootKeys (rows ++ [row]) =
    if key ∈ readers.rootKeys rows then readers.rootKeys rows
    else readers.rootKeys rows ++ [key]
  := by
  have hkeys : (rows ++ [row]).filterMap readers.root.key? =
      rows.filterMap readers.root.key? ++ [key] := by
    simp [List.filterMap_append, hkey]
  rw [RowReaders.rootKeys, RowReaders.rootKeys, hkeys, eraseDups_append_singleton]
  simp only [List.mem_eraseDups]

/-- Rows after the first that has a root do not forestall it. -/
theorem forestalls_append_of_mem (more : List Row) (h : key ∈ readers.rootKeys rows) :
  plan.forestalls readers (rows ++ more) key = plan.forestalls readers rows key
  := by
  obtain ⟨row, hrow, hkey⟩ := mem_rootKeys.mp h
  unfold forestalls
  rw [List.takeWhile_append, if_neg]
  intro hlength
  have hwhole := (List.takeWhile_prefix _).eq_of_length hlength
  have hall := List.all_eq_true.mp
    (List.all_takeWhile (p := fun row => decide (readers.root.key? row ≠ some key)) (l := rows))
  rw [hwhole] at hall
  simpa [hkey] using hall row hrow

/-- A root that comes first in the last row is forestalled by any row that links it. -/
theorem forestalls_append_of_not_mem (hkey : readers.root.key? row = some key)
    (h : key ∉ readers.rootKeys rows) :
  plan.forestalls readers (rows ++ [row]) key =
    rows.any fun row => (plan.linked readers row).contains ⟨plan.root.record.name, key⟩
  := by
  have hothers : ∀ other ∈ rows,
      (fun row => decide (readers.root.key? row ≠ some key)) other = true := by
    intro other hother
    apply decide_eq_true
    intro hkey'
    apply h
    apply mem_rootKeys.mpr ⟨other, hother, hkey'⟩
  unfold forestalls
  rw [List.takeWhile_append_of_pos hothers, List.takeWhile_cons_of_neg (by simp [hkey]),
    List.append_nil]

/-- Whether a record occurs in a row, as its root or linked. -/
def Occurs (plan : IncludePlan) (readers : RowReaders) (row : Row) (a : Identity) : Prop :=
  (a.typeName = plan.root.record.name ∧ readers.root.key? row = some a.key) ∨
    a ∈ plan.linked readers row

/-- A record occurs in a row if it is that of its root or linked. -/
theorem occurs_iff {a : Identity} (hkey : readers.root.key? row = some key) :
  plan.Occurs readers row a ↔
    a = ⟨plan.root.record.name, key⟩ ∨ a ∈ plan.linked readers row
  := by
  obtain ⟨typeName, key'⟩ := a
  simp [Occurs, hkey, eq_comm]

/-- A root that is listed occurs in a row. -/
theorem exists_occurs_of_mem_listed (h : key ∈ plan.listed readers rows) :
  ∃ row ∈ rows, plan.Occurs readers row ⟨plan.root.record.name, key⟩
  := by
  obtain ⟨row, hrow, hkey⟩ := mem_rootKeys.mp (List.mem_filter.mp h).1
  use row, hrow
  exact .inl ⟨rfl, hkey⟩

/-- A root is listed with the row it comes first in, unless its record occurs before. -/
theorem listed_append (hkey : readers.root.key? row = some key) :
  ((∃ row ∈ rows, plan.Occurs readers row ⟨plan.root.record.name, key⟩) ∧
    plan.listed readers (rows ++ [row]) = plan.listed readers rows) ∨
  ((¬ ∃ row ∈ rows, plan.Occurs readers row ⟨plan.root.record.name, key⟩) ∧
    plan.listed readers (rows ++ [row]) = plan.listed readers rows ++ [key])
  := by
  have hearlier : ∀ key' ∈ readers.rootKeys rows,
      (!plan.forestalls readers (rows ++ [row]) key') = !plan.forestalls readers rows key' := by
    intro key' hkey'
    rw [forestalls_append_of_mem _ hkey']
  unfold listed
  rw [rootKeys_append hkey]
  by_cases hknown : key ∈ readers.rootKeys rows
  · left
    obtain ⟨row', hrow', hkey'⟩ := mem_rootKeys.mp hknown
    constructor
    · use row', hrow'
      exact .inl ⟨rfl, hkey'⟩
    · rw [if_pos hknown]
      apply List.filter_congr hearlier
  · rw [if_neg hknown, List.filter_append, List.filter_congr hearlier]
    have hoccurs : (∃ row ∈ rows, plan.Occurs readers row ⟨plan.root.record.name, key⟩) ↔
        plan.forestalls readers (rows ++ [row]) key = true := by
      rw [forestalls_append_of_not_mem hkey hknown, List.any_eq_true]
      apply exists_congr
      intro row'
      apply and_congr_right
      intro hrow'
      rw [List.contains_iff_mem, Occurs, or_iff_right]
      rintro ⟨-, hkey'⟩
      apply hknown
      apply mem_rootKeys.mpr ⟨row', hrow', hkey'⟩
    cases hlast : plan.forestalls readers (rows ++ [row]) key with
    | true =>
        left
        use hoccurs.mpr hlast
        simp [hlast]
    | false =>
        right
        constructor
        · rw [hoccurs, hlast]
          simp
        · simp [hlast]

end IncludePlan

namespace Loading

variable {plan : IncludePlan} {format : String} {readers : RowReaders} {rows : List Row}
  {row : Row} {l l' : Loading}

/-- What is put together from rows: the records that occur in them, and the roots that
are listed. -/
structure Tracks (plan : IncludePlan) (readers : RowReaders) (rows : List Row) (l : Loading) :
    Prop where
  sound : l.Sound
  reads : l.readers = if rows.isEmpty then none else some readers
  known : ∀ a, (l.identities.get? a).isSome ↔ ∃ row ∈ rows, plan.Occurs readers row a
  roots : l.roots.map some = (plan.listed readers rows).map fun key =>
    l.identities.get? ⟨plan.root.record.name, key⟩

/-- Nothing is put together from no rows. -/
theorem tracks_nil (plan : IncludePlan) (readers : RowReaders) :
  Tracks plan readers [] {}
  := by
  constructor
  · apply sound_empty
  · rfl
  · intro a
    simp [IdentityMap.get?]
  · simp [IncludePlan.listed, RowReaders.rootKeys]

/-- One more row brings its records, and its root if that does not occur before. -/
theorem Tracks.append (h : Tracks plan readers rows l)
    (hreaders : l.readers.getD (.build plan row.columns format) = readers)
    (hrow : addRow plan format l row = .ok l') :
  Tracks plan readers (rows ++ [row]) l'
  := by
  obtain ⟨key, position, created, l₁, hkey, hrecord, hgrown⟩ := addRow_ok hreaders hrow
  obtain ⟨hgrown₁, hposition, hcreated⟩ := recordOf_ok hrecord
  have hsound := hgrown₁.sound h.sound
  have hlisted : ∀ key' ∈ plan.listed readers rows,
      l'.identities.get? ⟨plan.root.record.name, key'⟩ =
        l.identities.get? ⟨plan.root.record.name, key'⟩ := by
    intro key' hkey'
    have hknown := (h.known _).mpr (IncludePlan.exists_occurs_of_mem_listed hkey')
    obtain ⟨p, hp⟩ := Option.isSome_iff_exists.mp hknown
    rw [hp]
    apply hgrown.kept _ _ (hgrown₁.kept _ _ hp)
  constructor
  · apply hgrown.sound ⟨hsound.typed, hsound.distinct⟩
  · rw [hgrown.readers]
    simp
  · intro a
    rw [hgrown.known]
    show (l₁.identities.get? a).isSome ∨ _ ↔ _
    rw [hgrown₁.known, h.known, List.mem_singleton, or_assoc, ← IncludePlan.occurs_iff hkey]
    simp [or_and_right, exists_or]
  · rw [hgrown.roots]
    show (if created then l₁.roots ++ [position] else l₁.roots).map some = _
    rw [hgrown₁.roots]
    obtain ⟨hoccurs, hsame⟩ | ⟨hnew, hmore⟩ := IncludePlan.listed_append hkey
    · have hknown := (h.known _).mpr hoccurs
      rw [hsame, List.map_congr_left hlisted, ← h.roots, if_neg]
      intro hcreated'
      rw [hcreated.mp hcreated'] at hknown
      cases hknown
    · have hunknown : l.identities.get? ⟨plan.root.record.name, key⟩ = none := by
        rw [← Option.not_isSome_iff_eq_none, h.known]
        apply hnew
      rw [hmore, List.map_append, List.map_congr_left hlisted, ← h.roots,
        if_pos (hcreated.mpr hunknown), List.map_append, List.map_singleton, List.map_singleton,
        hgrown.kept _ _ hposition]

/-- The readers are those for the columns of the first row. -/
theorem Tracks.readers_eq (h : Tracks plan readers rows l)
    (hfirst : ∀ first ∈ (rows ++ [row]).head?, readers = .build plan first.columns format) :
  l.readers.getD (.build plan row.columns format) = readers
  := by
  rw [h.reads]
  cases rows with
  | nil => exact (hfirst row rfl).symm
  | cons first rest => rfl

/-- The first row is the same if there are more. -/
theorem head?_append_of_mem {first : Row} (h : first ∈ rows.head?) (more : List Row) :
  first ∈ (rows ++ more).head?
  := by
  rw [List.head?_append, Option.mem_def.mp h]
  rfl

/-- Rows that are added one after the other are put together. -/
theorem tracks_of_foldlM
    (hfirst : ∀ first ∈ rows.head?, readers = .build plan first.columns format)
    (h : rows.foldlM (addRow plan format) {} = .ok l) :
  Tracks plan readers rows l
  := by
  induction rows using List.reverseRecOn generalizing l with
  | nil =>
      cases h
      apply tracks_nil
  | append_singleton rows row ih =>
      rw [List.foldlM_append] at h
      obtain ⟨l₁, hrows, h⟩ := exists_of_bind_ok h
      rw [List.foldlM_cons] at h
      obtain ⟨l₂, hrow, h⟩ := exists_of_bind_ok h
      cases h
      have htracks := ih (fun first hhead => hfirst first (head?_append_of_mem hhead _)) hrows
      apply htracks.append (htracks.readers_eq hfirst) hrow

/-- Rows from which their records can be read can be added one after the other. -/
theorem exists_foldlM_addRow (hplan : plan.WellTyped)
    (hfirst : ∀ first ∈ rows.head?, readers = .build plan first.columns format)
    (hread : ∀ row ∈ rows, readers.Reads row) :
  ∃ l, rows.foldlM (addRow plan format) {} = .ok l
  := by
  induction rows using List.reverseRecOn with
  | nil => exact ⟨_, rfl⟩
  | append_singleton rows row ih =>
      have hfirst' : ∀ first ∈ rows.head?, readers = .build plan first.columns format := by
        intro first hhead
        apply hfirst first (head?_append_of_mem hhead _)
      obtain ⟨l, hrows⟩ := ih hfirst' fun row hrow => hread row (List.mem_append_left _ hrow)
      have htracks := tracks_of_foldlM hfirst' hrows
      obtain ⟨l', hrow, -⟩ := exists_addRow hplan (htracks.readers_eq hfirst)
        (hread row (by simp)) htracks.sound
      use l'
      rw [List.foldlM_append, hrows]
      show List.foldlM (addRow plan format) l [row] = _
      rw [List.foldlM_cons, hrow]
      rfl

/-- Every root that is listed has a position of its own. -/
theorem Tracks.nodup_roots (h : Tracks plan readers rows l) :
  l.roots.Nodup
  := by
  apply List.Nodup.of_map some
  rw [h.roots]
  apply List.Nodup.map_on
  · intro key hkey key' hkey' heq
    have hknown := (h.known _).mpr (IncludePlan.exists_occurs_of_mem_listed hkey)
    obtain ⟨p, hp⟩ := Option.isSome_iff_exists.mp hknown
    have hsame := h.sound.distinct _ _ p hp (heq ▸ hp)
    cases hsame
    rfl
  · apply (nodup_eraseDups _).filter

/-- Every root that is listed is a record of the type of the root. -/
theorem Tracks.isOf_root (h : Tracks plan readers rows l) {p : Nat} (hp : p ∈ l.roots) :
  l.graph.isOf plan.root.record.name p = true
  := by
  have hmem := List.mem_map_of_mem (f := some) hp
  rw [h.roots] at hmem
  obtain ⟨key, -, hkey⟩ := List.mem_map.mp hmem
  apply h.sound.typed _ p hkey

/-- All roots are listed exactly if none is linked in a row before the first that has it as
its root. -/
theorem Tracks.roots_eq_iff (h : Tracks plan readers rows l) :
  l.roots.map some = (readers.rootKeys rows).map
      (fun key => l.identities.get? ⟨plan.root.record.name, key⟩) ↔
    ∀ key ∈ readers.rootKeys rows, plan.forestalls readers rows key = false
  := by
  rw [h.roots]
  constructor
  · intro hroots
    have hlength := congrArg List.length hroots
    rw [List.length_map, List.length_map] at hlength
    simpa using List.length_filter_eq_length_iff.mp hlength
  · intro hnone
    have hall : plan.listed readers rows = readers.rootKeys rows := by
      apply List.filter_eq_self.mpr
      simpa using hnone
    rw [hall]

end Loading

/-- The roots of a graph that is read from rows are the records of the keys that the rows
have as roots, each once, in the order of the rows in which they come first, without those
that are linked in a row before that.  They are the records of all these keys exactly if
none is.  A plan that is put together step by step can be read from any rows whose records
can. -/
theorem roots_of_rows (plan : IncludePlan) (format : String) (rows : List Row) :
  let columns := (rows.head?.map (·.columns)).getD []
  let readers := RowReaders.build plan columns format
  let keys := (rows.filterMap readers.root.key?).eraseDups
  (∀ l, rows.foldlM (Loading.addRow plan format) {} = .ok l →
    let handle := fun key => l.identities.get? ⟨plan.root.record.name, key⟩
    l.roots.map some = (keys.filter fun key => !plan.forestalls readers rows key).map handle ∧
    l.roots.Nodup ∧ (∀ p ∈ l.roots, l.graph.isOf plan.root.record.name p = true) ∧
    (l.roots.map some = keys.map handle ↔
      ∀ key ∈ keys, plan.forestalls readers rows key = false)) ∧
  ((∃ registry root inclusions, IncludePlan.build registry root inclusions = .ok plan) →
    (∀ row ∈ rows, readers.Reads row) →
    ∃ l, rows.foldlM (Loading.addRow plan format) {} = .ok l)
  := by
  intro columns readers keys
  have hfirst : ∀ first ∈ rows.head?, readers = .build plan first.columns format := by
    intro first hhead
    simp only [readers, columns, Option.mem_def.mp hhead, Option.map_some, Option.getD_some]
  constructor
  · intro l hrows handle
    have htracks := Loading.tracks_of_foldlM hfirst hrows
    exact ⟨htracks.roots, htracks.nodup_roots, fun p => htracks.isOf_root, htracks.roots_eq_iff⟩
  · rintro ⟨registry, root, inclusions, hplan⟩ hread
    apply Loading.exists_foldlM_addRow (IncludePlan.wellTyped_of_build hplan) hfirst hread

/-- Records of persons, each with the key of another person. -/
def person : EntityType where
  record := ⟨"Person", [.ofColumn "Id" .integer false, .ofColumn "BossId" .integer true]⟩
  table := "Person"
  description := [.foreignKey "BossId" { table := "Person" }]

/-- A person that is linked in the first row and the root of the second is not listed. -/
theorem linked_root_not_listed :
  ∃ registry plan l,
    let rows : List Row :=
      [⟨["t0__Id", "t1__Id", "t1__BossId"], [.int 1, .int 2, .int 1]⟩,
       ⟨["t0__Id", "t1__Id", "t1__BossId"], [.int 2, .null, .null]⟩]
    Registry.build ⟨[person], []⟩ = .ok registry ∧
    IncludePlan.build registry person [⟨.many, person, "Reports", 0, none⟩] = .ok plan ∧
    rows.foldlM (Loading.addRow plan "%Y-%m-%d %H:%M:%S") {} = .ok l ∧
    (RowReaders.build plan ["t0__Id", "t1__Id", "t1__BossId"] "%Y-%m-%d %H:%M:%S").rootKeys rows =
      [1, 2] ∧
    l.roots = [0]
  := by
  refine ⟨_, _, _, rfl, rfl, rfl, ?_, ?_⟩
  · decide
  · rfl

end EntityStore
