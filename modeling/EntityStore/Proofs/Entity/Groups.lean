import EntityStore.Proofs.Entity.Rules
import EntityStore.Proofs.List
import Mathlib.Data.List.Perm.Basic
import Mathlib.Data.Nat.Basic
import Mathlib.Order.Basic

/-!
# Numbers of unique groups

A rule that columns are unique together puts them into a group whose number is the one after the
greatest that is used.  Numbers have 32 bits, and after the last of them comes zero.  So a rule
has a group of its own as long as the numbers go on increasing, and once more if they run out and
zero is not used.  Every further rule adds its columns to the group with the number zero.
-/

namespace EntityStore

open Text

/-- The greater of two numbers is one of them. -/
instance lawfulOrderMaxUInt32 : Std.LawfulOrderMax UInt32 where
  max_le_iff a b c := by
    show (if a ≤ b then b else a) ≤ c ↔ _
    grind
  max_eq_or a b := by
    show (if a ≤ b then b else a) = _ ∨ (if a ≤ b then b else a) = b
    grind

namespace Descriptor

variable {d d' : Descriptor}

/-! ### Places of columns -/

/-- The place of the column that a name leads to. -/
def place? (d : Descriptor) (name : String) : Option Nat :=
  d.columns.findIdx? fun c => sameName c.name name

/-- Whether one of a list of names leads to the column at a place. -/
def lists (d : Descriptor) (columns : List String) (i : Nat) : Bool :=
  columns.any fun name => d.place? name = some i

/-- The number of the unique group of the column at a place. -/
def groupAt? (d : Descriptor) (i : Nat) : Option UInt32 :=
  d.columns[i]?.bind (·.uniqueGroup)

/-- The names of the columns at some places, in the order of declaration. -/
def namesAt (d : Descriptor) (p : Nat → Bool) : List String :=
  ((d.columns.map (·.name)).zipIdx.filter fun c => p c.2).map (·.1)

/-- The names of the columns that a list of names leads to, in the order of declaration. -/
def listed (d : Descriptor) (columns : List String) : List String :=
  d.namesAt (d.lists columns)

/-- Descriptors with the same outline have columns of the same names. -/
theorem map_name_of_outline (h : d'.outline = d.outline) :
  d'.columns.map (·.name) = d.columns.map (·.name)
  := by
  have hnames := congrArg (List.map Prod.fst) (congrArg Prod.snd h)
  simpa [outline, Function.comp_def] using hnames

/-- Names lead to the same places in descriptors with the same outline. -/
theorem place?_of_outline (h : d'.outline = d.outline) :
  d'.place? = d.place?
  := by
  have hplace (e : Descriptor) (name : String) :
      e.place? name = (e.columns.map (·.name)).findIdx? fun n => sameName n name := by
    rw [List.findIdx?_map]
    rfl
  funext name
  rw [hplace, hplace, map_name_of_outline h]

theorem lists_of_outline (h : d'.outline = d.outline) :
  d'.lists = d.lists
  := by
  unfold lists
  rw [place?_of_outline h]

theorem namesAt_of_outline (h : d'.outline = d.outline) :
  d'.namesAt = d.namesAt
  := by
  unfold namesAt
  rw [map_name_of_outline h]

theorem listed_of_outline (h : d'.outline = d.outline) :
  d'.listed = d.listed
  := by
  unfold listed
  rw [namesAt_of_outline h, lists_of_outline h]

/-- A name leads to the column at its place. -/
theorem column?_of_place? {name : String} {i : Nat} (h : d.place? name = some i) :
  d.column? name = d.columns[i]?
  := by
  obtain ⟨hi, hname, hbefore⟩ := List.findIdx?_eq_some_iff_getElem.mp h
  rw [List.getElem?_eq_getElem hi]
  apply List.find?_eq_some_iff_getElem.mpr
  exact ⟨hname, i, hi, rfl, by simpa using hbefore⟩

/-! ### Numbers -/

/-- The greatest number of a unique group, or zero. -/
def greatest (d : Descriptor) : Nat :=
  (d.columns.filterMap (·.uniqueGroup)).max?.elim 0 UInt32.toNat

/-- A number is used if a column is in its group. -/
theorem mem_groupNumbers {g : UInt32} :
  g ∈ d.groupNumbers ↔ ∃ i, d.groupAt? i = some g
  := by
  rw [groupNumbers, List.mem_mergeSort, List.mem_eraseDups, List.mem_filterMap]
  simp only [List.mem_iff_getElem?, groupAt?, Option.bind_eq_some_iff]
  grind

/-- Every number is there once. -/
theorem nodup_groupNumbers (d : Descriptor) :
  d.groupNumbers.Nodup
  := List.nodup_mergeSort.mpr (nodup_eraseDups _)

/-- A group has the columns at the places with its number. -/
theorem uniqueGroups_eq (d : Descriptor) :
  d.uniqueGroups =
    d.groupNumbers.map fun g => (g, d.namesAt fun i => d.groupAt? i = some g)
  := by
  have hplace (c : Column) (i : Nat) (g : UInt32) (hc : (c, i) ∈ d.columns.zipIdx) :
      decide (c.uniqueGroup = some g) = decide (d.groupAt? i = some g) := by
    rw [groupAt?, List.mk_mem_zipIdx_iff_getElem?.mp hc]
    rfl
  apply List.map_congr_left
  intro g _
  congr 1
  conv_lhs => rw [← List.zipIdx_map_fst 0 d.columns]
  rw [namesAt, List.zipIdx_map, List.filter_map, List.filter_map, List.map_map, List.map_map]
  congr 1
  apply List.filter_congr
  rintro ⟨c, i⟩ hc
  exact hplace c i g hc

/-- No number is greater than the greatest. -/
theorem greatest_le_iff {n : Nat} :
  d.greatest ≤ n ↔ ∀ g ∈ d.groupNumbers, g.toNat ≤ n
  := by
  have hmem (g : UInt32) : g ∈ d.groupNumbers ↔ g ∈ d.columns.filterMap (·.uniqueGroup) := by
    rw [groupNumbers, List.mem_mergeSort, List.mem_eraseDups]
  simp only [hmem, greatest]
  cases hmax : (d.columns.filterMap (·.uniqueGroup)).max? with
  | none => simp [List.max?_eq_none_iff.mp hmax]
  | some g =>
      obtain ⟨hg, hle⟩ := List.max?_eq_some_iff.mp hmax
      constructor
      · intro h g' hg'
        exact Nat.le_trans (UInt32.le_iff_toNat_le.mp (hle g' hg')) h
      · intro h
        exact h g hg

theorem greatest_lt (d : Descriptor) :
  d.greatest < UInt32.size
  := by
  have hle : d.greatest ≤ UInt32.size - 1 := by
    apply greatest_le_iff.mpr
    intro g _
    exact Nat.le_pred_of_lt g.toNat_lt
  exact Nat.lt_of_le_sub_one (by decide) hle

/-- The next number is one more than the greatest, or zero if numbers have run out. -/
theorem toNat_nextGroup (d : Descriptor) :
  d.nextGroup.toNat = if d.greatest + 1 = UInt32.size then 0 else d.greatest + 1
  := by
  have hnext : d.nextGroup.toNat = (d.greatest + 1) % UInt32.size := by
    unfold nextGroup greatest
    split
    · next g hg =>
        rw [hg, UInt32.toNat_add]
        rfl
    · next hg =>
        rw [hg]
        rfl
  rw [hnext]
  split
  · next hout => rw [hout, Nat.mod_self]
  · next hleft =>
      have hlt := d.greatest_lt
      exact Nat.mod_eq_of_lt (by omega)

theorem nextGroup_eq_zero_iff :
  d.nextGroup = 0 ↔ d.greatest + 1 = UInt32.size
  := by
  rw [← UInt32.toNat_inj, toNat_nextGroup, UInt32.toNat_zero]
  split <;> omega

/-- The next number is used only if numbers have run out. -/
theorem nextGroup_eq_zero_of_mem (h : d.nextGroup ∈ d.groupNumbers) :
  d.nextGroup = 0
  := by
  have hle := greatest_le_iff.mp (Nat.le_refl d.greatest) _ h
  rw [toNat_nextGroup] at hle
  rw [nextGroup_eq_zero_iff]
  split at hle <;> omega

/-! ### Joining columns -/

/-- One descriptor is another with the columns that are listed put into a group. -/
structure Joined (d d' : Descriptor) (g : UInt32) (columns : List String) : Prop where
  /-- The columns are the same otherwise. -/
  outline : d'.outline = d.outline
  /-- Every name leads to a column. -/
  found : ∀ name ∈ columns, (d.place? name).isSome
  /-- The columns were in no group. -/
  free : ∀ i, d.lists columns i → d.groupAt? i = none
  groupAt?_eq : ∀ i, d'.groupAt? i = if d.lists columns i then some g else d.groupAt? i

namespace Joined

variable {g : UInt32} {columns : List String}

/-- No column is put into any group. -/
theorem nil (houtline : d'.outline = d.outline) (hgroup : ∀ i, d'.groupAt? i = d.groupAt? i) :
  d.Joined d' g []
  := by
  refine ⟨houtline, ?_, ?_, hgroup⟩
  · simp
  · rintro i ⟨⟩

/-- Columns are put into a group one after the other. -/
theorem append {e : Descriptor} {more : List String} (h : d.Joined d' g columns)
    (hmore : d'.Joined e g more) :
  d.Joined e g (columns ++ more)
  := by
  have hplace := place?_of_outline h.outline
  have hlists (i : Nat) : d.lists (columns ++ more) i ↔ d.lists columns i ∨ d'.lists more i := by
    simp [lists, hplace]
  have hfree := hmore.free
  simp only [h.groupAt?_eq] at hfree
  refine ⟨hmore.outline.trans h.outline, ?_, ?_, ?_⟩
  · rw [List.forall_mem_append, ← hplace]
    exact ⟨hplace ▸ h.found, hmore.found⟩
  · intro i hi
    have hfirst := h.free i
    have hsecond := hfree i
    grind
  · intro i
    rw [hmore.groupAt?_eq, h.groupAt?_eq]
    grind

/-- The group is used afterwards if a column has been put into it. -/
theorem mem_groupNumbers (h : d.Joined d' g columns) {x : UInt32} :
  x ∈ d'.groupNumbers ↔ x ∈ d.groupNumbers ∨ columns ≠ [] ∧ x = g
  := by
  have hlisted : columns ≠ [] ↔ ∃ i, d.lists columns i := by
    constructor
    · intro hne
      obtain ⟨name, hname⟩ := List.exists_mem_of_ne_nil columns hne
      obtain ⟨i, hi⟩ := Option.isSome_iff_exists.mp (h.found name hname)
      use i
      exact List.any_eq_true.mpr ⟨name, hname, decide_eq_true hi⟩
    · rintro ⟨i, hi⟩ rfl
      cases hi
  simp only [Descriptor.mem_groupNumbers, h.groupAt?_eq, hlisted]
  have hfree := h.free
  grind

/-- The greatest number is the one before or that of the group. -/
theorem greatest_eq (h : d.Joined d' g columns) (hne : columns ≠ []) :
  d'.greatest = max d.greatest g.toNat
  := by
  apply eq_of_forall_ge_iff
  intro n
  rw [Nat.max_le, greatest_le_iff, greatest_le_iff]
  simp only [h.mem_groupNumbers]
  grind

/-- After a group with the next number, that is the greatest, unless numbers have run out. -/
theorem greatest_eq_min (h : d.Joined d' d.nextGroup columns) (hne : columns ≠ []) :
  d'.greatest = min (d.greatest + 1) (UInt32.size - 1)
  := by
  have hlt := d.greatest_lt
  rw [h.greatest_eq hne, toNat_nextGroup]
  split <;> omega

/-- A group with a new number comes in addition to the others. -/
theorem perm_groupNumbers (h : d.Joined d' g columns) (hne : columns ≠ [])
    (hnew : g ∉ d.groupNumbers) :
  d'.groupNumbers.Perm (d.groupNumbers ++ [g])
  := by
  rw [List.perm_ext_iff_of_nodup d'.nodup_groupNumbers]
  · intro x
    simp [h.mem_groupNumbers, hne]
  · rw [List.nodup_append]
    refine ⟨d.nodup_groupNumbers, by simp, ?_⟩
    rintro x hx y hy rfl
    exact hnew (List.mem_singleton.mp hy ▸ hx)

/-- A group with a new number has the columns that are listed, and the others keep theirs. -/
theorem perm_uniqueGroups (h : d.Joined d' g columns) (hne : columns ≠ [])
    (hnew : g ∉ d.groupNumbers) :
  d'.uniqueGroups.Perm (d.uniqueGroups ++ [(g, d.listed columns)])
  := by
  have hkept (x : UInt32) (hx : x ∈ d.groupNumbers) :
      (fun i => decide (d'.groupAt? i = some x)) = fun i => decide (d.groupAt? i = some x) := by
    funext i
    have hfree := h.free i
    rw [h.groupAt?_eq]
    grind
  have hadded : (fun i => decide (d'.groupAt? i = some g)) = d.lists columns := by
    funext i
    have hunused : d.groupAt? i ≠ some g := fun hi => hnew (Descriptor.mem_groupNumbers.mpr ⟨i, hi⟩)
    rw [h.groupAt?_eq]
    grind
  rw [uniqueGroups_eq, uniqueGroups_eq, namesAt_of_outline h.outline]
  apply ((h.perm_groupNumbers hne hnew).map _).trans
  rw [List.map_append, List.map_singleton, hadded]
  apply List.Perm.append_right
  apply List.Perm.of_eq
  apply List.map_congr_left
  intro x hx
  rw [hkept x hx]

end Joined

end Descriptor

/-! ### What a rule does -/

/-- The columns that a rule puts into a group. -/
def Relation.grouped? : Relation → Option (List String)
  | .uniqueGroup columns => some columns
  | .index _ => none
  | .references _ _ => none

namespace Assembly

open Descriptor

variable {d : Descriptor}

/-- A column is put into a group if it is there and in no group. -/
theorem joined_joinGroup {g : UInt32} {problems : List ModelProblem} {name : String}
    (h : (joinGroup g (d, problems) name).2 = []) :
  problems = [] ∧ d.Joined (joinGroup g (d, problems) name).1 g [name]
  := by
  have houtline := outline_joinGroup g (d, problems) name
  cases hplace : d.place? name with
  | none =>
      have hcolumn : d.column? name = none :=
        List.find?_eq_none.mpr (by simpa using List.findIdx?_eq_none_iff.mp hplace)
      simp [joinGroup, hcolumn] at h
  | some i =>
      have hi := (List.findIdx?_eq_some_iff_getElem.mp hplace).1
      have hcolumn : d.column? name = some d.columns[i] :=
        (column?_of_place? hplace).trans (List.getElem?_eq_getElem hi)
      cases hgroup : d.columns[i].uniqueGroup with
      | some other => simp [joinGroup, hcolumn, hgroup] at h
      | none =>
          let change (c : Column) : Column := { c with uniqueGroup := some g }
          have hjoin : joinGroup g (d, problems) name =
              ({ d with columns := d.columns.modify i change }, problems) := by
            have hupdate : d.updateColumn? name change =
                some { d with columns := d.columns.modify i change } :=
              updateColumn?_eq_some_iff.mpr ⟨i, hplace, rfl⟩
            simp [joinGroup, hcolumn, hgroup, hupdate, change]
          have hlists (j : Nat) : d.lists [name] j ↔ i = j := by
            simp [lists, hplace]
          rw [hjoin] at h houtline ⊢
          refine ⟨h, houtline, ?_, ?_, ?_⟩
          · simp [hplace]
          · intro j hj
            obtain rfl := (hlists j).mp hj
            simp [groupAt?, hi, hgroup]
          · intro j
            simp only [hlists, groupAt?, List.getElem?_modify]
            split
            · next hj =>
                subst hj
                simp [hi, change]
            · simp

/-- Columns are put into a group if all of them are there and in no group. -/
theorem joined_joinGroups {g : UInt32} {columns : List String} {problems : List ModelProblem}
    (h : (columns.foldl (joinGroup g) (d, problems)).2 = []) :
  problems = [] ∧ d.Joined (columns.foldl (joinGroup g) (d, problems)).1 g columns
  := by
  induction columns generalizing d problems with
  | nil => exact ⟨h, .nil rfl fun _ => rfl⟩
  | cons name columns ih =>
      obtain ⟨hnone, hrest⟩ := ih h
      obtain ⟨hproblems, hfirst⟩ := joined_joinGroup hnone
      exact ⟨hproblems, hfirst.append hrest⟩

/-- A rule that columns are unique together gives them the next number. -/
theorem joined_relate {relation : Relation} {columns : List String}
    (hgrouped : relation.grouped? = some columns) (hnone : (relate d relation).2 = []) :
  d.Joined (relate d relation).1 d.nextGroup columns
  := by
  cases relation with
  | uniqueGroup names =>
      cases hgrouped
      exact (joined_joinGroups hnone).2
  | index names => cases hgrouped
  | references column target => cases hgrouped

/-- Other rules leave the numbers of columns as they are. -/
theorem map_uniqueGroup_relate {relation : Relation} (hgrouped : relation.grouped? = none) :
  (relate d relation).1.columns.map (·.uniqueGroup) = d.columns.map (·.uniqueGroup)
  := by
  cases relation with
  | uniqueGroup names => cases hgrouped
  | index names => rfl
  | references column target =>
      dsimp only [relate]
      split
      · next d' hd =>
          obtain ⟨i, -, rfl⟩ := updateColumn?_eq_some_iff.mp hd
          apply List.ext_getElem?
          intro n
          simp only [List.getElem?_map, List.getElem?_modify]
          split
          · cases d.columns[n]? <;> rfl
          · simp
      · rfl

end Assembly

/-! ### What rules do -/

/-- What a rule chooses for the columns that it lists. -/
structure Choice where
  /-- The greatest number that is used before. -/
  greatest : Nat
  number : UInt32
  columns : List String
  deriving DecidableEq, Repr

namespace Descriptor

variable {d d' last : Descriptor} {cs : List Choice}

/-- What rules choose one after the other. -/
def choices (d : Descriptor) : List Relation → List Choice
  | [] => []
  | relation :: relations =>
    let rest := (Assembly.relate d relation).1.choices relations
    match relation.grouped? with
    | some columns => ⟨d.greatest, d.nextGroup, columns⟩ :: rest
    | none => rest

/-- There is a choice for each rule that columns are unique together. -/
theorem columns_choices (d : Descriptor) (relations : List Relation) :
  (d.choices relations).map (·.columns) = relations.filterMap Relation.grouped?
  := by
  induction relations generalizing d with
  | nil => rfl
  | cons relation relations ih =>
      rw [choices, List.filterMap_cons]
      cases relation.grouped? with
      | none => exact ih _
      | some columns => exact congrArg (columns :: ·) (ih _)

/-- One descriptor becomes another as columns are put into groups, rule by rule. -/
inductive Grown : Descriptor → List Choice → Descriptor → Prop where
  | refl (d : Descriptor) : Grown d [] d
  | group {d d' last : Descriptor} {columns : List String} {cs : List Choice}
      (hne : columns ≠ []) (hjoined : d.Joined d' d.nextGroup columns)
      (hrest : Grown d' cs last) :
      Grown d (⟨d.greatest, d.nextGroup, columns⟩ :: cs) last
  | other {d d' last : Descriptor} {cs : List Choice}
      (houtline : d'.outline = d.outline)
      (hnumbers : d'.columns.map (·.uniqueGroup) = d.columns.map (·.uniqueGroup))
      (hrest : Grown d' cs last) :
      Grown d cs last

/-- Rules that nothing is noted about put columns into groups. -/
theorem grown_related {relations : List Relation} (hnone : (d.related relations).2 = [])
    (hlisted : .uniqueGroup [] ∉ relations) :
  Grown d (d.choices relations) (d.related relations).1
  := by
  induction relations generalizing d with
  | nil => exact .refl d
  | cons relation relations ih =>
      rw [related_cons, List.append_eq_nil_iff] at hnone
      have hrest := ih hnone.2 fun h => hlisted (List.mem_cons_of_mem relation h)
      rw [related_cons, choices]
      cases relation with
      | uniqueGroup columns =>
          have hne : columns ≠ [] := by
            rintro rfl
            exact hlisted List.mem_cons_self
          exact .group hne (Assembly.joined_relate rfl hnone.1) hrest
      | index columns =>
          exact .other (Assembly.outline_relate d _) (Assembly.map_uniqueGroup_relate rfl) hrest
      | references column target =>
          exact .other (Assembly.outline_relate d _) (Assembly.map_uniqueGroup_relate rfl) hrest

/-- Groups that come in addition to others have new numbers. -/
theorem nodup_of_perm_uniqueGroups {listed : List String → List String}
    (h : last.uniqueGroups.Perm
      (d.uniqueGroups ++ cs.map fun c => (c.number, listed c.columns))) :
  (d.groupNumbers ++ cs.map (·.number)).Nodup
  := by
  have hnumbers (e : Descriptor) : e.uniqueGroups.map (·.1) = e.groupNumbers := by
    rw [uniqueGroups, List.map_map, Function.comp_def, List.map_id']
  have hused := h.map (·.1)
  rw [List.map_append, hnumbers, hnumbers, List.map_map] at hused
  exact hused.nodup_iff.mp last.nodup_groupNumbers

/-- Groups are the same if the numbers of columns are. -/
theorem groups_of_map_uniqueGroup
    (h : d'.columns.map (·.uniqueGroup) = d.columns.map (·.uniqueGroup)) :
  d'.groupAt? = d.groupAt? ∧ d'.groupNumbers = d.groupNumbers ∧ d'.greatest = d.greatest ∧
    d'.nextGroup = d.nextGroup
  := by
  have hused (e : Descriptor) : e.columns.filterMap (·.uniqueGroup) =
      (e.columns.map (·.uniqueGroup)).filterMap id := by
    rw [List.filterMap_map]
    rfl
  have hplace (e : Descriptor) (i : Nat) :
      e.groupAt? i = (e.columns.map (·.uniqueGroup))[i]?.bind id := by
    rw [List.getElem?_map, Option.bind_map]
    rfl
  refine ⟨?_, ?_, ?_, ?_⟩
  · funext i
    rw [hplace, hplace, h]
  · rw [groupNumbers, groupNumbers, hused, hused, h]
  · rw [greatest, greatest, hused, hused, h]
  · rw [nextGroup, nextGroup, hused, hused, h]

/-- Groups have the same columns as well if the names are the same. -/
theorem uniqueGroups_of_outline (houtline : d'.outline = d.outline)
    (h : d'.columns.map (·.uniqueGroup) = d.columns.map (·.uniqueGroup)) :
  d'.uniqueGroups = d.uniqueGroups
  := by
  obtain ⟨hgroup, hused, -, -⟩ := groups_of_map_uniqueGroup h
  rw [uniqueGroups_eq, uniqueGroups_eq, hgroup, hused, namesAt_of_outline houtline]

namespace Grown

theorem outline_eq (h : Grown d cs last) :
  last.outline = d.outline
  := by
  induction h with
  | refl d => rfl
  | group hne hjoined hrest ih => exact ih.trans hjoined.outline
  | other houtline hnumbers hrest ih => exact ih.trans houtline

/-- A column is in the group that it was in before, or in that of a rule that lists it. -/
theorem groupAt?_eq_some_iff (h : Grown d cs last) {i : Nat} {g : UInt32} :
  last.groupAt? i = some g ↔
    d.groupAt? i = some g ∨ ∃ c ∈ cs, c.number = g ∧ d.lists c.columns i
  := by
  induction h with
  | refl d => simp
  | @group d d' last columns cs hne hjoined hrest ih =>
      have hfree := hjoined.free i
      rw [ih, hjoined.groupAt?_eq, lists_of_outline hjoined.outline]
      simp only [List.exists_mem_cons_iff]
      grind
  | other houtline hnumbers hrest ih =>
      rw [ih, (groups_of_map_uniqueGroup hnumbers).1, lists_of_outline houtline]

/-- Groups with new numbers come in addition to the others, each with the columns that are
listed. -/
theorem perm_uniqueGroups (h : Grown d cs last)
    (hnew : (d.groupNumbers ++ cs.map (·.number)).Nodup) :
  last.uniqueGroups.Perm (d.uniqueGroups ++ cs.map fun c => (c.number, d.listed c.columns))
  := by
  induction h with
  | refl d => simp
  | @group d d' last columns cs hne hjoined hrest ih =>
      rw [List.map_cons] at hnew
      have hunused : d.nextGroup ∉ d.groupNumbers := fun hused =>
        (List.nodup_cons.mp (List.nodup_middle.mp hnew)).1 (List.mem_append_left _ hused)
      rw [List.append_cons] at hnew
      have hnumbers := (hjoined.perm_groupNumbers hne hunused).append_right (cs.map (·.number))
      have hlast := ih (hnumbers.nodup_iff.mpr hnew)
      rw [listed_of_outline hjoined.outline] at hlast
      rw [List.map_cons, List.append_cons]
      exact hlast.trans ((hjoined.perm_uniqueGroups hne hunused).append_right _)
  | other houtline hnumbers hrest ih =>
      rw [(groups_of_map_uniqueGroup hnumbers).2.1, listed_of_outline houtline,
        uniqueGroups_of_outline houtline hnumbers] at ih
      exact ih hnew

/-- The numbers are new exactly if they go on increasing, or run out with the last of them while
zero is not used. -/
theorem nodup_iff (h : Grown d cs last) :
  (d.groupNumbers ++ cs.map (·.number)).Nodup ↔ d.greatest + cs.length < UInt32.size ∨
    d.greatest + cs.length = UInt32.size ∧ 0 ∉ d.groupNumbers
  := by
  induction h with
  | refl d =>
      rw [List.map_nil, List.append_nil, List.length_nil, Nat.add_zero]
      exact ⟨fun _ => .inl d.greatest_lt, fun _ => d.nodup_groupNumbers⟩
  | @group d d' last columns cs hne hjoined hrest ih =>
      have hlt := d.greatest_lt
      rw [List.map_cons, List.length_cons]
      by_cases hused : d.nextGroup ∈ d.groupNumbers
      · have hzero := nextGroup_eq_zero_of_mem hused
        have hout := nextGroup_eq_zero_iff.mp hzero
        constructor
        · intro hnew
          have hunused := (List.nodup_cons.mp (List.nodup_middle.mp hnew)).1
          exact absurd (List.mem_append_left _ hused) hunused
        · rintro (hlast | ⟨-, hunused⟩)
          · omega
          · exact absurd (hzero ▸ hused) hunused
      · rw [List.append_cons]
        have hnumbers := (hjoined.perm_groupNumbers hne hused).append_right (cs.map (·.number))
        rw [← hnumbers.nodup_iff, ih, hjoined.greatest_eq_min hne, hjoined.mem_groupNumbers,
          eq_comm (a := 0), nextGroup_eq_zero_iff]
        by_cases hout : d.greatest + 1 = UInt32.size
        · rw [nextGroup_eq_zero_iff.mpr hout] at hused
          grind
        · grind
  | other houtline hnumbers hrest ih =>
      obtain ⟨-, hused, hgreatest, -⟩ := groups_of_map_uniqueGroup hnumbers
      rwa [hused, hgreatest] at ih

/-- Each number is one more than the greatest before, or zero if numbers have run out. -/
theorem toNat_number (h : Grown d cs last) :
  ∀ c ∈ cs, c.number.toNat = if c.greatest + 1 = UInt32.size then 0 else c.greatest + 1
  := by
  induction h with
  | refl d => simp
  | @group d d' last columns cs hne hjoined hrest ih =>
      exact List.forall_mem_cons.mpr ⟨d.toNat_nextGroup, ih⟩
  | other houtline hnumbers hrest ih => exact ih

/-- There is always a number after the greatest exactly if the numbers go on increasing. -/
theorem forall_toNat_iff (h : Grown d cs last) :
  (∀ c ∈ cs, c.number.toNat = c.greatest + 1) ↔ d.greatest + cs.length < UInt32.size
  := by
  induction h with
  | refl d =>
      rw [List.length_nil, Nat.add_zero]
      exact ⟨fun _ => d.greatest_lt, fun _ c hc => by cases hc⟩
  | @group d d' last columns cs hne hjoined hrest ih =>
      have hlt := d.greatest_lt
      rw [List.forall_mem_cons, ih, hjoined.greatest_eq_min hne, List.length_cons]
      simp only [toNat_nextGroup]
      split <;> omega
  | other houtline hnumbers hrest ih =>
      rwa [(groups_of_map_uniqueGroup hnumbers).2.2.1] at ih

/-- The groups are those from before and one more for each rule exactly if the numbers of rules
are new. -/
theorem perm_uniqueGroups_iff (h : Grown d cs last) :
  last.uniqueGroups.Perm (d.uniqueGroups ++ cs.map fun c => (c.number, d.listed c.columns)) ↔
    (d.groupNumbers ++ cs.map (·.number)).Nodup
  := ⟨fun hperm => nodup_of_perm_uniqueGroups hperm, h.perm_uniqueGroups⟩

end Grown

end Descriptor

/-! ### Groups of registered types -/

namespace EntityType

/-- The columns that rules about the table of a type put into groups, rule by rule. -/
def grouped (e : EntityType) (rules : List Rule) : List (List String) :=
  (relationsOf rules e.draft.descriptor.table).filterMap Relation.grouped?

/-- What these rules choose one after the other. -/
def choices (e : EntityType) (rules : List Rule) : List Choice :=
  e.draft.descriptor.choices (relationsOf rules e.draft.descriptor.table)

/-- Whether there is always a number after the greatest that is used. -/
def Fits (e : EntityType) (rules : List Rule) : Prop :=
  ∀ c ∈ e.choices rules, c.number.toNat = c.greatest + 1

/-- Whether the groups in the descriptor of a type are those of its description and one more for
each rule, with the columns that the rule lists. -/
def Apart (e : EntityType) (rules : List Rule) (d : Descriptor) : Prop :=
  d.uniqueGroups.Perm
    (e.draft.descriptor.uniqueGroups ++
      (e.choices rules).map fun c => (c.number, d.listed c.columns))

instance (e : EntityType) (rules : List Rule) : Decidable (e.Fits rules) :=
  inferInstanceAs (Decidable (∀ c ∈ e.choices rules, c.number.toNat = c.greatest + 1))

instance (e : EntityType) (rules : List Rule) (d : Descriptor) : Decidable (e.Apart rules d) :=
  inferInstanceAs (Decidable (List.Perm _ _))

/-- What is known of the unique groups in the descriptor of a type. -/
structure Numbered (e : EntityType) (rules : List Rule) (d : Descriptor) : Prop where
  /-- Each rule makes a choice. -/
  chosen : (e.choices rules).map (·.columns) = e.grouped rules
  /-- It takes the number after the greatest, or zero if numbers have run out. -/
  next : ∀ c ∈ e.choices rules,
    c.number.toNat = if c.greatest + 1 = UInt32.size then 0 else c.greatest + 1
  /-- Columns are in the groups that they are described or listed for. -/
  groupAt?_eq : ∀ i g, d.groupAt? i = some g ↔ e.draft.descriptor.groupAt? i = some g ∨
    ∃ c ∈ e.choices rules, c.number = g ∧ d.lists c.columns i
  /-- Numbers go on increasing if there are as many after the greatest as there are rules. -/
  fits : e.Fits rules ↔ e.draft.descriptor.greatest + (e.grouped rules).length < UInt32.size
  /-- Then each rule has a group of its own.  So it does if there is one number too few, and zero
  is not used. -/
  apart : e.Apart rules d ↔
    e.draft.descriptor.greatest + (e.grouped rules).length < UInt32.size ∨
      e.draft.descriptor.greatest + (e.grouped rules).length = UInt32.size ∧
        0 ∉ e.draft.descriptor.groupNumbers

end EntityType

namespace Registry

/-- In a registry that is built from rules that all list columns, the unique groups of types are
known.  Each rule has a group of its own, and no group of the description changes, as long as
there are numbers after the greatest. -/
theorem numbered_of_build {m : Model} {r : Registry} (hbuild : build m = .ok r)
    (hlisted : ∀ rule ∈ m.rules, rule.relation ≠ .uniqueGroup []) :
  ∀ e ∈ m.entities, ∃ d, r.ofType? e.record.name = some d ∧ e.Numbered m.rules d
  := by
  intro e he
  obtain ⟨hsound, rfl⟩ := build_eq_ok_iff.mp hbuild
  have hclosed := closed_of_build hbuild
  let d := (e.finished m.rules).1
  have hgrown : e.draft.descriptor.Grown (e.choices m.rules) d := by
    apply Descriptor.grown_related (hsound.related e he)
    intro hempty
    obtain ⟨rule, hrule, hrelation⟩ := List.mem_map.mp hempty
    exact hlisted rule (List.mem_filter.mp hrule).1 hrelation
  have hchosen : (e.choices m.rules).map (·.columns) = e.grouped m.rules :=
    Descriptor.columns_choices _ _
  have hlength : (e.choices m.rules).length = (e.grouped m.rules).length := by
    rw [← hchosen, List.length_map]
  use d
  constructor
  · rw [hclosed.ofType?_eq]
    use List.mem_map_of_mem he
    exact (congrArg Prod.fst hgrown.outline_eq).trans (congrArg Prod.fst e.outline_draft)
  · refine ⟨hchosen, hgrown.toNat_number, ?_, ?_, ?_⟩
    · intro i g
      rw [hgrown.groupAt?_eq_some_iff, Descriptor.lists_of_outline hgrown.outline_eq]
    · rw [← hlength]
      exact hgrown.forall_toNat_iff
    · rw [← hlength, ← hgrown.nodup_iff, ← hgrown.perm_uniqueGroups_iff, EntityType.Apart,
        Descriptor.listed_of_outline hgrown.outline_eq]

/-- Items with three columns, one of which is described as unique with a number. -/
def numberedItem (number : UInt32) : EntityType where
  record := ⟨"Item", [.ofColumn "Id" .integer false, .ofColumn "A" .integer false,
    .ofColumn "B" .integer false, .ofColumn "C" .integer false]⟩
  table := "Item"
  description := [.unique "A" number]

/-- The other two columns are unique as well, each on its own. -/
def itemRules : List Rule :=
  [⟨"Item", .uniqueGroup ["B"]⟩, ⟨"Item", .uniqueGroup ["C"]⟩]

/-- Each rule about items has a group of its own if the described number is the last but one,
though numbers run out. -/
theorem items_apart :
  ∃ r d, build ⟨[numberedItem 4294967294], itemRules⟩ = .ok r ∧ r.ofType? "Item" = some d ∧
    (numberedItem 4294967294).Apart itemRules d ∧ ¬ (numberedItem 4294967294).Fits itemRules
  := by
  obtain ⟨r, hr⟩ : ∃ r, build ⟨[numberedItem 4294967294], itemRules⟩ = .ok r := ⟨_, rfl⟩
  obtain ⟨d, hd, hnumbered⟩ := numbered_of_build hr (by decide) _ List.mem_cons_self
  refine ⟨r, d, hr, hd, hnumbered.apart.mpr ?_, fun h => absurd (hnumbered.fits.mp h) ?_⟩
  · decide +kernel
  · decide +kernel

/-- The rules about items share a group if the described number is the last. -/
theorem items_merged :
  ∃ r d, build ⟨[numberedItem 4294967295], itemRules⟩ = .ok r ∧
    (∀ rule ∈ itemRules, rule.relation ≠ .uniqueGroup []) ∧ r.ofType? "Item" = some d ∧
    (d.namesAt fun i => d.groupAt? i = some 0) = ["B", "C"] ∧
    ¬ (numberedItem 4294967295).Apart itemRules d ∧ ¬ (numberedItem 4294967295).Fits itemRules
  := by
  refine ⟨_, _, rfl, by decide, rfl, ?_, ?_, ?_⟩
  · decide +kernel
  · intro h
    have hnumbers := (List.nodup_append.mp (Descriptor.nodup_of_perm_uniqueGroups h)).2.1
    revert hnumbers
    decide +kernel
  · decide +kernel

end Registry

end EntityStore
