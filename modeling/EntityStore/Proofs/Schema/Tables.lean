import EntityStore.Schema.Shape
import Mathlib.Data.List.Pairwise
import Mathlib.Data.Option.Basic

/-!
# Names in a schema

What has a name is found under it up to the case of letters.  A proper schema has its tables
under their own names, which are distinct up to the case of their letters.  In it a table is
found exactly under the spellings of its name, and it stays proper when a table takes the
place of the one of the same name.
-/

namespace EntityStore

open Text

/-! ### Distinct names -/

/-- No two members of a list have the same name up to the case of letters. -/
def DistinctNames {α : Type} (name : α → String) (as : List α) : Prop :=
  as.Pairwise fun a b => ¬ sameName (name a) (name b)

instance {α : Type} (name : α → String) (as : List α) : Decidable (DistinctNames name as) :=
  inferInstanceAs (Decidable (as.Pairwise fun a b => ¬ sameName (name a) (name b)))

namespace DistinctNames

variable {α : Type} {name : α → String} {as : List α}

/-- Members of the same name are equal. -/
theorem eq_of_mem (h : DistinctNames name as) {a b : α} (ha : a ∈ as) (hb : b ∈ as)
    (hsame : sameName (name a) (name b)) :
  a = b
  := by
  have hsymm : Std.Symm fun x y : α => ¬ sameName (name x) (name y) := by
    constructor
    intro x y hxy
    rwa [sameName_comm]
  by_contra hne
  exact h.forall ha hb hne hsame

/-- The members before and after one have other names. -/
theorem not_sameName_of_split {a : α} {before after : List α}
    (h : DistinctNames name (before ++ a :: after)) {b : α} (hb : b ∈ before ++ after) :
  ¬ sameName (name b) (name a)
  := by
  obtain ⟨-, hafter, hbefore⟩ := List.pairwise_append.mp h
  rcases List.mem_append.mp hb with hb | hb
  · apply hbefore b hb a List.mem_cons_self
  · rw [sameName_comm]
    apply (List.pairwise_cons.mp hafter).1 b hb

/-- The place of a member is found under any spelling of its name. -/
theorem findIdx?_eq (h : DistinctNames name as) {key : String} {i : Nat} {a : α}
    (ha : as[i]? = some a) (hkey : sameName key (name a)) :
  (as.map name).findIdx? (sameName key) = some i
  := by
  obtain ⟨hi, rfl⟩ := List.getElem?_eq_some_iff.mp ha
  rw [List.findIdx?_eq_some_iff_getElem]
  refine ⟨by simpa using hi, by simpa using hkey, ?_⟩
  intro j hj hsame
  rw [List.getElem_map] at hsame
  apply List.pairwise_iff_getElem.mp h j i (by omega) hi hj
  apply sameName_trans (sameName_symm hsame) hkey

/-- A member is found exactly under the spellings of its name. -/
theorem find?_eq_some_iff (h : DistinctNames name as) {key : String} {a : α} :
  (as.find? fun b => sameName (name b) key) = some a ↔ a ∈ as ∧ sameName (name a) key
  := by
  have hfound : ∀ b, (as.find? fun b => sameName (name b) key) = some b →
      b ∈ as ∧ sameName (name b) key := by
    intro b hb
    have hsame := List.find?_some hb
    exact ⟨List.mem_of_find?_eq_some hb, hsame⟩
  constructor
  · apply hfound
  · rintro ⟨ha, hname⟩
    cases hb : as.find? fun b => sameName (name b) key with
    | none => exact absurd hname (List.find?_eq_none.mp hb a ha)
    | some b =>
        obtain ⟨hmem, hsame⟩ := hfound b hb
        rw [h.eq_of_mem hmem ha (sameName_trans hsame (sameName_symm hname))]

/-- Members of different names are different. -/
theorem nodup (h : DistinctNames name as) :
  as.Nodup
  := by
  apply h.imp
  rintro a b hne rfl
  exact hne (sameName_refl _)

/-- The order of members does not matter. -/
theorem perm_iff {bs : List α} (h : as.Perm bs) :
  DistinctNames name as ↔ DistinctNames name bs
  := by
  apply h.pairwise_iff
  intro a b hne
  rwa [sameName_comm]

end DistinctNames

namespace Schema

/-! ### Insertion -/

/-- What is in a map after an insertion is the inserted entry, and what was there before
under another key. -/
theorem mem_insertSorted {key : String} {t : TableShape} {tables : List (String × TableShape)}
    (h : tables.Pairwise fun a b => a.1 < b.1) (entry : String × TableShape) :
  entry ∈ insertSorted key t tables ↔ entry = (key, t) ∨ entry ∈ tables ∧ entry.1 ≠ key
  := by
  induction tables with
  | nil => simp [insertSorted]
  | cons first rest ih =>
      obtain ⟨k, u⟩ := first
      obtain ⟨hk, hrest⟩ := List.pairwise_cons.mp h
      have hbeyond : key ≤ k → ∀ e ∈ rest, e.1 ≠ key := by
        intro hle e he heq
        apply String.lt_irrefl key
        apply Std.lt_of_le_of_lt hle (heq ▸ hk e he)
      unfold insertSorted
      split
      · next hlt =>
          have hne : ∀ e ∈ (k, u) :: rest, e.1 ≠ key := by
            rw [List.forall_mem_cons]
            exact ⟨(String.ne_of_lt hlt).symm, hbeyond (Std.le_of_lt hlt)⟩
          rw [List.mem_cons]
          apply or_congr_right
          exact ⟨fun he => ⟨he, hne entry he⟩, And.left⟩
      · next hnotLt =>
          split
          · next hgt =>
              have hne : k ≠ key := String.ne_of_lt hgt
              rw [List.mem_cons, ih hrest, List.mem_cons]
              grind
          · next hnotGt =>
              obtain rfl : key = k := String.le_antisymm hnotGt hnotLt
              have hne := hbeyond (String.le_refl key)
              rw [List.mem_cons, List.mem_cons]
              grind

/-- The entries of a schema after an insertion. -/
theorem mem_tables_insertAt {s : Schema} {key : String} {t : TableShape}
    (entry : String × TableShape) :
  entry ∈ (s.insertAt key t).tables ↔ entry = (key, t) ∨ entry ∈ s.tables ∧ entry.1 ≠ key
  := mem_insertSorted s.increasing entry

/-! ### Proper schemas -/

/-- Tables are under their own names, and no two have the same name. -/
structure Proper (s : Schema) : Prop where
  keyed : ∀ entry ∈ s.tables, entry.1 = entry.2.name
  distinct : DistinctNames TableShape.name s.shapes

theorem mem_shapes {s : Schema} {t : TableShape} :
  t ∈ s.shapes ↔ ∃ entry ∈ s.tables, entry.2 = t
  := List.mem_map

theorem Proper.empty :
  Schema.empty.Proper
  where
  keyed := fun _ h => absurd h List.not_mem_nil
  distinct := List.Pairwise.nil

variable {s : Schema}

/-- Since the keys are different, it is enough that tables of the same name are equal. -/
theorem Proper.of_eq (hkeyed : ∀ entry ∈ s.tables, entry.1 = entry.2.name)
    (heq : ∀ t ∈ s.shapes, ∀ u ∈ s.shapes, sameName t.name u.name → t = u) :
  s.Proper
  where
  keyed := hkeyed
  distinct := by
    unfold DistinctNames shapes
    rw [List.pairwise_map]
    apply s.increasing.imp_of_mem
    intro a b ha hb hlt hsame
    have hab := heq _ (mem_shapes.mpr ⟨a, ha, rfl⟩) _ (mem_shapes.mpr ⟨b, hb, rfl⟩) hsame
    rw [hkeyed a ha, hkeyed b hb, hab] at hlt
    apply String.lt_irrefl _ hlt

theorem mem_tables_of_lookup {name : String} {t : TableShape}
    (h : s.tables.lookup name = some t) :
  (name, t) ∈ s.tables
  := by
  obtain ⟨before, after, heq, -⟩ := List.lookup_eq_some_iff.mp h
  simp [heq]

/-- Only tables of the schema are found. -/
theorem mem_shapes_of_table? {name : String} {t : TableShape} (h : s.table? name = some t) :
  t ∈ s.shapes
  := by
  rcases Option.or_eq_some_iff.mp h with hkey | ⟨-, hname⟩
  · exact mem_shapes.mpr ⟨_, mem_tables_of_lookup hkey, rfl⟩
  · apply List.mem_of_find?_eq_some hname

/-- A table is found exactly under the spellings of its name. -/
theorem Proper.table?_eq_some_iff (h : s.Proper) {name : String} {t : TableShape} :
  s.table? name = some t ↔ t ∈ s.shapes ∧ sameName t.name name
  := by
  unfold table?
  cases hkey : s.tables.lookup name with
  | none => apply h.distinct.find?_eq_some_iff
  | some u =>
      have hmem := mem_tables_of_lookup hkey
      have hu : u ∈ s.shapes := mem_shapes.mpr ⟨_, hmem, rfl⟩
      have hname : name = u.name := h.keyed _ hmem
      rw [Option.some_or, Option.some_inj]
      constructor
      · rintro rfl
        use hu
        rw [hname]
        apply sameName_refl
      · rintro ⟨ht, hsame⟩
        apply h.distinct.eq_of_mem hu ht
        rwa [sameName_comm, ← hname]

/-! ### Replacement -/

/-- The schema without the tables of a name. -/
def erase (s : Schema) (name : String) : Schema where
  tables := s.tables.filter fun entry => !sameName entry.2.name name
  increasing := s.increasing.filter _

/-- The schema with a table in place of the one of the same name. -/
def put (s : Schema) (t : TableShape) : Schema :=
  (s.erase t.name).insert t

theorem Proper.mem_tables_put (h : s.Proper) (t : TableShape) (entry : String × TableShape) :
  entry ∈ (s.put t).tables ↔
    entry = (t.name, t) ∨ entry ∈ s.tables ∧ ¬ sameName entry.2.name t.name
  := by
  unfold put insert erase
  rw [mem_tables_insertAt]
  simp only [List.mem_filter, Bool.not_eq_true', Bool.not_eq_true]
  have hkey : entry ∈ s.tables → sameName entry.2.name t.name = false → entry.1 ≠ t.name := by
    intro hmem hsame heq
    rw [← h.keyed entry hmem, heq, sameName_refl] at hsame
    cases hsame
  grind

/-- The tables of a schema in which one takes the place of another. -/
theorem Proper.mem_shapes_put (h : s.Proper) (t u : TableShape) :
  u ∈ (s.put t).shapes ↔ u = t ∨ u ∈ s.shapes ∧ ¬ sameName u.name t.name
  := by
  simp only [mem_shapes, h.mem_tables_put]
  grind

/-- A proper schema stays proper. -/
theorem Proper.put (h : s.Proper) (t : TableShape) :
  (s.put t).Proper
  := by
  apply Proper.of_eq
  · intro entry hentry
    rcases (h.mem_tables_put t entry).mp hentry with rfl | ⟨hmem, -⟩
    · rfl
    · apply h.keyed entry hmem
  · intro u hu v hv hsame
    rcases (h.mem_shapes_put t u).mp hu with rfl | ⟨hu, hne⟩
    · rcases (h.mem_shapes_put u v).mp hv with rfl | ⟨-, hne⟩
      · rfl
      · exact absurd (sameName_symm hsame) hne
    · rcases (h.mem_shapes_put t v).mp hv with rfl | ⟨hv, -⟩
      · exact absurd hsame hne
      · apply h.distinct.eq_of_mem hu hv hsame

/-- The table is found under the spellings of its name, and the others as before. -/
theorem Proper.table?_put (h : s.Proper) (t : TableShape) (name : String) :
  (s.put t).table? name = if sameName t.name name then some t else s.table? name
  := by
  split
  · next hname =>
      rw [(h.put t).table?_eq_some_iff, h.mem_shapes_put]
      exact ⟨.inl rfl, hname⟩
  · next hname =>
      apply Option.ext
      intro u
      rw [(h.put t).table?_eq_some_iff, h.table?_eq_some_iff, h.mem_shapes_put]
      constructor
      · rintro ⟨rfl | ⟨hu, -⟩, hsame⟩
        · exact absurd hsame hname
        · exact ⟨hu, hsame⟩
      · rintro ⟨hu, hsame⟩
        refine ⟨.inr ⟨hu, fun heq => hname ?_⟩, hsame⟩
        apply sameName_trans (sameName_symm heq) hsame

/-- A table of a new name needs no place to be made for it. -/
theorem put_eq_insert {t : TableShape} (h : ∀ u ∈ s.shapes, ¬ sameName u.name t.name) :
  s.put t = s.insert t
  := by
  unfold put
  congr 1
  have hkept : (s.erase t.name).tables = s.tables := by
    apply List.filter_eq_self.mpr
    intro entry hentry
    simpa using h _ (mem_shapes.mpr ⟨entry, hentry, rfl⟩)
  cases s
  simpa [erase] using hkept

/-- If tables of new and different names are inserted one after the other, the schema stays
proper and has all of them. -/
theorem Proper.foldl_insert {ts : List TableShape} (h : s.Proper)
    (hapart : DistinctNames TableShape.name ts)
    (hnew : ∀ t ∈ ts, ∀ u ∈ s.shapes, ¬ sameName u.name t.name) :
  (ts.foldl insert s).Proper ∧ ∀ u, u ∈ (ts.foldl insert s).shapes ↔ u ∈ ts ∨ u ∈ s.shapes
  := by
  induction ts generalizing s with
  | nil =>
      use h
      simp
  | cons t ts ih =>
      obtain ⟨ht, hapart⟩ := List.pairwise_cons.mp hapart
      obtain ⟨hnewt, hnew⟩ := List.forall_mem_cons.mp hnew
      rw [List.foldl_cons, ← put_eq_insert hnewt]
      have hmem := h.mem_shapes_put t
      obtain ⟨hproper, hall⟩ := ih (h.put t) hapart (by
        intro v hv u hu
        rcases (hmem u).mp hu with rfl | ⟨hu, -⟩
        · apply ht v hv
        · apply hnew v hv u hu)
      use hproper
      intro u
      rw [hall, hmem, List.mem_cons]
      grind

end Schema

end EntityStore
