import Mathlib.Data.List.Basic
import EntityStore.Schema.Document

/-!
# Normal forms of tables

The normal form of a table sorts its constraints and indexes.  Unique constraints are compared as a
whole, but references by their columns only and indexes by their names only, so that what ties keeps
the order it had.  Two orders of the parts of a table have the same normal form exactly if the ties
come in the same order.
-/

namespace EntityStore

/-! ### Sorting by a key -/

section SortBy

variable {α : Type} (key : α → String) {as bs : List α}

/-- A list in the order of a key, in which ties keep their order. -/
def sortBy (as : List α) : List α :=
  as.mergeSort fun a b => decide (key a ≤ key b)

theorem sortBy_perm (as : List α) :
  (sortBy key as).Perm as
  := List.mergeSort_perm _ _

/-- The order of a key is transitive. -/
theorem keyLe_trans (a b c : α) (hab : decide (key a ≤ key b) = true)
    (hbc : decide (key b ≤ key c) = true) :
  decide (key a ≤ key c) = true
  := by
  simp only [decide_eq_true_eq] at *
  apply String.le_trans hab hbc

/-- The order of a key is total. -/
theorem keyLe_total (a b : α) :
  (decide (key a ≤ key b) || decide (key b ≤ key a)) = true
  := by
  simpa using String.le_total (key a) (key b)

theorem sorted_sortBy (as : List α) :
  (sortBy key as).Pairwise fun a b => key a ≤ key b
  := by
  have h := List.pairwise_mergeSort (keyLe_trans key) (keyLe_total key) as
  simpa [sortBy] using h

/-- A list that is in order stays as it is. -/
theorem sortBy_of_sorted (h : as.Pairwise fun a b => key a ≤ key b) :
  sortBy key as = as
  := by
  apply List.mergeSort_of_pairwise
  simpa using h

/-- The elements of one key keep their order. -/
theorem filter_sortBy (as : List α) (k : String) :
  (sortBy key as).filter (key · = k) = as.filter (key · = k)
  := by
  have htied : (as.filter (key · = k)).Pairwise fun a b => decide (key a ≤ key b) := by
    rw [List.pairwise_filter]
    apply List.pairwise_of_forall
    intro a b ha hb
    simp_all
  have hsub : (as.filter (key · = k)).Sublist (sortBy key as) :=
    List.sublist_mergeSort (keyLe_trans key) (keyLe_total key) htied List.filter_sublist
  have hfilter := hsub.filter (key · = k)
  rw [List.filter_filter] at hfilter
  simp only [Bool.and_self] at hfilter
  symm
  apply hfilter.eq_of_length
  exact (((sortBy_perm key as).filter _).length_eq).symm

/-- A list has the elements of another if it has those of each key. -/
theorem mem_of_filter_eq (h : ∀ k, as.filter (key · = k) = bs.filter (key · = k)) {a : α}
    (ha : a ∈ as) :
  a ∈ bs
  := by
  have hmem : a ∈ as.filter (key · = key a) := by simpa using ha
  rw [h (key a)] at hmem
  exact List.mem_of_mem_filter hmem

/-- The first element of a list in order is the least. -/
theorem key_le_of_mem_cons {a b : α} (h : (a :: as).Pairwise fun a b => key a ≤ key b)
    (hb : b ∈ a :: as) :
  key a ≤ key b
  := by
  rcases List.mem_cons.mp hb with rfl | hb
  · apply String.le_refl
  · exact List.rel_of_pairwise_cons h hb

/-- Lists in order with the same elements of each key, in the same order, are equal. -/
theorem eq_of_filter_eq (has : as.Pairwise fun a b => key a ≤ key b)
    (hbs : bs.Pairwise fun a b => key a ≤ key b)
    (h : ∀ k, as.filter (key · = k) = bs.filter (key · = k)) :
  as = bs
  := by
  have hsymm (k : String) : bs.filter (key · = k) = as.filter (key · = k) := (h k).symm
  induction as generalizing bs with
  | nil =>
    cases bs with
    | nil => rfl
    | cons b bs => simpa using mem_of_filter_eq key hsymm List.mem_cons_self
  | cons a as ih =>
    cases bs with
    | nil => simpa using mem_of_filter_eq key h List.mem_cons_self
    | cons b bs =>
      -- Each of the two first elements is in the other list, so that they tie.
      have hab := key_le_of_mem_cons key has (mem_of_filter_eq key hsymm List.mem_cons_self)
      have hba := key_le_of_mem_cons key hbs (mem_of_filter_eq key h List.mem_cons_self)
      have htie := String.le_antisymm hab hba
      have hhead := h (key b)
      simp only [List.filter_cons, htie, decide_true, if_true, List.cons.injEq] at hhead
      obtain ⟨rfl, -⟩ := hhead
      have htail (k : String) : as.filter (key · = k) = bs.filter (key · = k) := by
        by_cases hk : key a = k <;> simpa [List.filter_cons, hk] using h k
      rw [ih has.of_cons hbs.of_cons htail fun k => (htail k).symm]

/-- Sorting forgets all of the order but that of ties. -/
theorem sortBy_eq_iff :
  sortBy key as = sortBy key bs ↔ ∀ k, as.filter (key · = k) = bs.filter (key · = k)
  := by
  constructor
  · intro h k
    rw [← filter_sortBy, h, filter_sortBy]
  · intro h
    apply eq_of_filter_eq key (sorted_sortBy key as) (sorted_sortBy key bs)
    intro k
    rw [filter_sortBy, filter_sortBy, h]

/-- The order of a list does not matter exactly if no two different elements tie. -/
theorem sortBy_eq_of_perm_iff :
  (∀ bs, as.Perm bs → sortBy key as = sortBy key bs) ↔
    ∀ a ∈ as, ∀ b ∈ as, key a = key b → a = b
  := by
  constructor
  · intro h a ha b hb hkey
    classical
    by_contra hne
    have hrest : b ∈ as.erase a := (List.mem_erase_of_ne (Ne.symm hne)).mpr hb
    have hab : as.Perm (a :: b :: (as.erase a).erase b) :=
      (List.perm_cons_erase ha).trans ((List.perm_cons_erase hrest).cons a)
    have hba := hab.trans (List.Perm.swap b a _)
    have hhead := (sortBy_eq_iff key).mp ((h _ hab).symm.trans (h _ hba)) (key b)
    simp only [List.filter_cons, hkey, decide_true, if_true, List.cons.injEq] at hhead
    exact hne hhead.1
  · intro h bs hperm
    have hantisymm : ∀ a b, a ∈ sortBy key as → b ∈ sortBy key bs →
        key a ≤ key b → key b ≤ key a → a = b := by
      intro a b ha hb hab hba
      have ha := (sortBy_perm key as).mem_iff.mp ha
      have hb := hperm.mem_iff.mpr ((sortBy_perm key bs).mem_iff.mp hb)
      exact h a ha b hb (String.le_antisymm hab hba)
    exact List.Perm.eq_of_pairwise hantisymm (sorted_sortBy key as) (sorted_sortBy key bs)
      (((sortBy_perm key as).trans hperm).trans (sortBy_perm key bs).symm)

end SortBy

/-! ### The order of unique constraints -/

instance : Std.TransCmp UniqueShape.compare := by
  have h : UniqueShape.compare =
      compareLex (compareOn UniqueShape.name) (compareOn UniqueShape.columns) := rfl
  rw [h]
  infer_instance

/-- Constraints that tie are equal. -/
theorem UniqueShape.eq_of_isLE {u v : UniqueShape} (huv : (u.compare v).isLE)
    (hvu : (v.compare u).isLE) :
  u = v
  := by
  have heq := Std.OrientedCmp.isLE_antisymm huv hvu
  rw [UniqueShape.compare, Ordering.then_eq_eq] at heq
  obtain ⟨hname, hcolumns⟩ := heq
  cases u
  cases v
  simp_all

/-! ### Documents -/

@[simp]
theorem Json.ofText_inj {s t : String} :
  Json.ofText s = Json.ofText t ↔ s = t
  := by
  simp [Json.ofText]

@[simp]
theorem Json.ofOptionalText_inj {s t : Option String} :
  Json.ofOptionalText s = Json.ofOptionalText t ↔ s = t
  := by
  cases s <;> cases t <;> simp [Json.ofOptionalText, Json.ofText]

@[simp]
theorem Json.ofTexts_inj {s t : List String} :
  Json.ofTexts s = Json.ofTexts t ↔ s = t
  := by
  have hinj : Function.Injective Json.ofText := fun _ _ h => Json.ofText_inj.mp h
  simp [Json.ofTexts, hinj.list_map.eq_iff]

theorem ColumnShape.toJson_injective :
  Function.Injective ColumnShape.toJson
  := by
  rintro ⟨⟩ ⟨⟩ h
  simpa [toJson, Json.ofMembers] using h

theorem ReferenceShape.toJson_injective :
  Function.Injective ReferenceShape.toJson
  := by
  rintro ⟨⟩ ⟨⟩ h
  simpa [toJson, Json.ofMembers] using h

theorem UniqueShape.toJson_injective :
  Function.Injective UniqueShape.toJson
  := by
  rintro ⟨⟩ ⟨⟩ h
  simpa [toJson, Json.ofMembers] using h

theorem IndexShape.toJson_injective :
  Function.Injective IndexShape.toJson
  := by
  rintro ⟨⟩ ⟨⟩ h
  simpa [toJson, Json.ofMembers] using h

/-- Different tables have different documents. -/
theorem TableShape.toJson_injective :
  Function.Injective TableShape.toJson
  := by
  rintro ⟨⟩ ⟨⟩ h
  simpa [toJson, Json.ofMembers, ColumnShape.toJson_injective.list_map.eq_iff,
    ReferenceShape.toJson_injective.list_map.eq_iff,
    UniqueShape.toJson_injective.list_map.eq_iff,
    IndexShape.toJson_injective.list_map.eq_iff] using h

/-! ### Normal forms -/

namespace TableShape

/-- Tables that differ in the order of their constraints and indexes only. -/
structure Rearranges (t u : TableShape) : Prop where
  name : t.name = u.name
  columns : t.columns = u.columns
  references : t.references.Perm u.references
  uniques : t.uniques.Perm u.uniques
  indexes : t.indexes.Perm u.indexes

/-- The references of each column, and the indexes of each name, come in the same order. -/
structure TiedAlike (t u : TableShape) : Prop where
  references (column : String) :
    t.references.filter (·.column = column) = u.references.filter (·.column = column)
  indexes (name : String) :
    t.indexes.filter (·.name = name) = u.indexes.filter (·.name = name)

/-- No column has two different references, and no name two different indexes. -/
structure Separated (t : TableShape) : Prop where
  references : ∀ r ∈ t.references, ∀ s ∈ t.references, r.column = s.column → r = s
  indexes : ∀ i ∈ t.indexes, ∀ j ∈ t.indexes, i.name = j.name → i = j

variable {t u : TableShape}

/-- The normal form has the parts of the table. -/
theorem rearranges_normalize (t : TableShape) :
  t.Rearranges t.normalize
  where
  name := rfl
  columns := rfl
  references := (List.mergeSort_perm _ _).symm
  uniques := (List.mergeSort_perm _ _).symm
  indexes := (List.mergeSort_perm _ _).symm

/-- The unique constraints of the normal form are in order. -/
theorem sorted_uniques_normalize (t : TableShape) :
  t.normalize.uniques.Pairwise fun u v => (u.compare v).isLE
  := by
  apply List.pairwise_mergeSort
  · intro u v w
    apply Std.TransCmp.isLE_trans
  · intro u v
    have hswap : v.compare u = (u.compare v).swap := Std.OrientedCmp.eq_swap
    rw [hswap]
    cases u.compare v <;> rfl

/-- The order of unique constraints does not matter. -/
theorem uniques_normalize_congr (h : t.uniques.Perm u.uniques) :
  t.normalize.uniques = u.normalize.uniques
  := by
  apply List.Perm.eq_of_pairwise _ (sorted_uniques_normalize t) (sorted_uniques_normalize u)
  · exact ((rearranges_normalize t).uniques.symm.trans h).trans (rearranges_normalize u).uniques
  · intro a b _ _ hab hba
    apply UniqueShape.eq_of_isLE hab hba

/-- A table in order is its own normal form. -/
theorem normalize_of_sorted
    (hreferences : t.references.Pairwise fun r s => r.column ≤ s.column)
    (huniques : t.uniques.Pairwise fun u v => (u.compare v).isLE)
    (hindexes : t.indexes.Pairwise fun i j => i.name ≤ j.name) :
  t.normalize = t
  := by
  have hreferences := sortBy_of_sorted _ hreferences
  have huniques := List.mergeSort_of_pairwise huniques
  have hindexes := sortBy_of_sorted _ hindexes
  cases t
  simp only [normalize, sortBy, mk.injEq, true_and] at *
  exact ⟨hreferences, huniques, hindexes⟩

/-- A normal form is its own. -/
theorem normalize_normalize (t : TableShape) :
  t.normalize.normalize = t.normalize
  := by
  apply normalize_of_sorted
  · apply sorted_sortBy
  · apply sorted_uniques_normalize
  · apply sorted_sortBy

/-- Two orders of a table have the same normal form exactly if ties come in the same order. -/
theorem Rearranges.normalize_eq_iff (h : t.Rearranges u) :
  t.normalize = u.normalize ↔ t.TiedAlike u
  := by
  constructor
  · intro heq
    constructor
    · exact (sortBy_eq_iff ReferenceShape.column).mp (congrArg TableShape.references heq)
    · exact (sortBy_eq_iff IndexShape.name).mp (congrArg TableShape.indexes heq)
  · intro htied
    have huniques := uniques_normalize_congr h.uniques
    simp only [normalize] at *
    rw [h.name, h.columns, huniques]
    congr 1
    · exact (sortBy_eq_iff ReferenceShape.column).mpr htied.references
    · exact (sortBy_eq_iff IndexShape.name).mpr htied.indexes

/-- The order of the parts does not matter exactly if nothing ties. -/
theorem normalize_eq_of_rearranges_iff (t : TableShape) :
  (∀ u, t.Rearranges u → t.normalize = u.normalize) ↔ t.Separated
  := by
  constructor
  · intro h
    constructor
    · apply (sortBy_eq_of_perm_iff ReferenceShape.column).mp
      intro references hperm
      exact congrArg TableShape.references
        (h { t with references := references } ⟨rfl, rfl, hperm, .rfl, .rfl⟩)
    · apply (sortBy_eq_of_perm_iff IndexShape.name).mp
      intro indexes hperm
      exact congrArg TableShape.indexes
        (h { t with indexes := indexes } ⟨rfl, rfl, .rfl, .rfl, hperm⟩)
  · intro h u hu
    rw [hu.normalize_eq_iff]
    constructor
    · rw [← sortBy_eq_iff]
      exact (sortBy_eq_of_perm_iff ReferenceShape.column).mpr h.references _ hu.references
    · rw [← sortBy_eq_iff]
      exact (sortBy_eq_of_perm_iff IndexShape.name).mpr h.indexes _ hu.indexes

/-- What the normal form forgets of a table, also as a document, is the order of the parts that do
not tie.  So the parts may come in any order exactly if nothing ties. -/
theorem canonical_iff_separated (t : TableShape) :
  t.normalize.normalize = t.normalize ∧
    (∀ u, t.Rearranges u →
      (t.normalize = u.normalize ↔ t.TiedAlike u) ∧
      (t.normalize.toJson = u.normalize.toJson ↔ t.TiedAlike u)) ∧
    ((∀ u, t.Rearranges u → t.normalize = u.normalize) ↔ t.Separated)
  := by
  refine ⟨normalize_normalize t, ?_, normalize_eq_of_rearranges_iff t⟩
  intro u h
  rw [toJson_injective.eq_iff]
  exact ⟨h.normalize_eq_iff, h.normalize_eq_iff⟩

end TableShape

/-- Posts whose column refers to two tables. -/
def postsUnder (first second : String) : TableShape where
  name := "Post"
  columns := [⟨"Id", "INTEGER", false, true⟩, ⟨"BlogId", "INTEGER", false, false⟩]
  references :=
    [⟨none, "BlogId", first, "Id", "NO ACTION"⟩, ⟨none, "BlogId", second, "Id", "NO ACTION"⟩]

theorem normalize_postsUnder (first second : String) :
  (postsUnder first second).normalize = postsUnder first second
  := by
  apply TableShape.normalize_of_sorted <;> simp [postsUnder]

/-- The references to a blog and to an archive are kept in both orders. -/
theorem references_stay_in_order :
  (postsUnder "Blog" "Archive").Rearranges (postsUnder "Archive" "Blog") ∧
    (postsUnder "Blog" "Archive").normalize ≠ (postsUnder "Archive" "Blog").normalize ∧
    (postsUnder "Blog" "Archive").normalize.toJson.write ≠
      (postsUnder "Archive" "Blog").normalize.toJson.write
  := by
  rw [normalize_postsUnder, normalize_postsUnder]
  refine ⟨⟨rfl, rfl, List.Perm.swap .., .rfl, .rfl⟩, ?_, ?_⟩
  · decide
  · -- The texts are compared as characters, which is faster than as strings.
    rw [Json.write, Json.write, Ne, String.ofList_inj]
    decide +kernel

end EntityStore
