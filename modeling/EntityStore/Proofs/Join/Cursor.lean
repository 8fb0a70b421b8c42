import EntityStore.Proofs.Join.Parameters

/-!
# The sides of a join

Conditions and equalities are made for two types of entities, those that the latest call
joined, while the join itself only keeps a left and a right table.  Whatever steps put the
join together, these are tables of the two types: the right one is the one bound last, and
the left one is the latest of its type before it.  Once a join is void no step changes it.
-/

namespace EntityStore

open Text Sql

namespace JoinStep

/-- The types of entities on the two sides after a step. -/
def sides (before : EntityType × EntityType) : JoinStep → EntityType × EntityType
  | .next _ left right _ => (left, right)
  | .on .. | .and .. | .or .. | .whereFirst _ | .whereSecond _ | .pin .. => before

/-- The type of entities that a step joins, if it joins one. -/
def joined? : JoinStep → Option EntityType
  | .next _ _ right _ => some right
  | _ => none

end JoinStep

namespace Join

/-- A join whose latest clause leads from one type of entities to another. -/
structure Placed (r : Registry) (sides : EntityType × EntityType) (j : Join) : Prop
    extends j.Sound r where
  /-- There is one clause for each table after the first. -/
  length : j.bindings.length = j.clauses.length + 1
  joins : ∀ i c, j.clauses[i]? = some c → j.bindings[i + 1]? = some c.binding
  /-- The left table is bound before the right one, which is the last. -/
  order : ∃ before between, j.bindings = before ++ j.left :: between ++ [j.right] ∧
    ∀ b ∈ between, b.type.record.name ≠ sides.1.record.name
  leftType : j.left.type.record.name = sides.1.record.name
  leftTable : r.ofType? sides.1.record.name = some j.left.descriptor
  rightType : j.right.type = sides.2
  rightTable : r.ofType? sides.2.record.name = some j.right.descriptor
  pins : ∀ p ∈ j.pins, p.binding ∈ j.bindings

variable {r : Registry} {sides : EntityType × EntityType} {j k : Join}

/-! ### Tables -/

/-- A table is bound for each clause, after the base. -/
theorem length_bindings (j : Join) :
  j.bindings.length = j.clauses.length + 1
  := by simp [bindings]

/-- The table of a clause has the place of the clause behind the base. -/
theorem getElem?_bindings {i : Nat} {c : JoinClause} (h : j.clauses[i]? = some c) :
  j.bindings[i + 1]? = some c.binding
  := by simp [bindings, h]

/-- The type of a table that is bound is the one asked for. -/
theorem type_of_bind {taken : List String} {e : EntityType} {tableAlias : String} {b : Binding}
    (h : bind r taken e tableAlias = .ok b) :
  b.type = e
  := by
  obtain ⟨d, -, hbinding⟩ := exists_of_bind_ok h
  cases hbinding
  rfl

/-- The latest table of a type has none of the type behind it. -/
theorem exists_of_latest? {e : EntityType} {b : Binding} (h : j.latest? e = some b) :
  ∃ before between, j.bindings = before ++ b :: between ∧
    b.type.record.name = e.record.name ∧ ∀ c ∈ between, c.type.record.name ≠ e.record.name
  := by
  obtain ⟨htype, later, earlier, hbindings, hlater⟩ := List.find?_eq_some_iff_append.mp h
  refine ⟨earlier.reverse, later.reverse, ?_, of_decide_eq_true htype, ?_⟩
  · rw [← j.bindings.reverse_reverse, hbindings]
    simp
  · intro c hc
    simpa using hlater c (List.mem_reverse.mp hc)

/-! ### Equalities -/

/-- The equality of a column of the left table and one of the right table, if both are known. -/
def known? (j : Join) (key other : String) : Option Equality :=
  match j.left.descriptor.resolve? key, j.right.descriptor.resolve? other with
  | some (l, _), some (r, _) => some (.columns j.left.tableAlias l j.right.tableAlias r)
  | _, _ => none

/-- An equality of known columns is made as it is. -/
theorem equality_of_known {key other : String} {e : Equality} (h : j.known? key other = some e) :
  j.equality key other = (j, some e)
  := by
  unfold known? at h
  split at h
  · next l _ r _ hl hr =>
      cases h
      unfold equality
      rw [hl, hr]
  · cases h

/-! ### Void joins -/

/-- No change is made to a void join. -/
theorem unlessVoid_of_isVoid (h : j.isVoid = true) (change : Join → Join) :
  j.unlessVoid change = j
  := if_pos h

/-- No step changes a void join. -/
theorem step_of_isVoid (h : j.isVoid = true) (s : JoinStep) :
  j.step s = .ok j
  := by
  cases s with
  | on key other | and key other | or key other =>
      apply congrArg Except.ok
      show j.pairBy key other _ = j
      apply unlessVoid_of_isVoid h
  | whereFirst p | whereSecond p | pin type property =>
      apply congrArg Except.ok
      apply unlessVoid_of_isVoid h
  | next kind left right tableAlias => exact if_pos h

/-- No steps change a void join. -/
theorem follow_of_isVoid (h : j.isVoid = true) (steps : List JoinStep) :
  j.follow steps = (j, none)
  := by
  induction steps with
  | nil => rfl
  | cons s rest ih =>
      rw [Join.follow, step_of_isVoid h]
      apply ih

/-- A void join has no statement. -/
theorem statement_of_isVoid (h : j.isVoid = true) (destination : RecordType) :
  j.statement destination = .ok none
  := if_pos h

/-- A join that is not void after some steps is not void before them. -/
theorem isVoid_of_follow {steps : List JoinStep} (h : j.follow steps = (k, none))
    (hk : k.isVoid = false) :
  j.isVoid = false
  := by
  rw [← Bool.not_eq_true]
  intro hj
  rw [follow_of_isVoid hj] at h
  cases h
  rw [hj] at hk
  cases hk

/-! ### Steps -/

/-- Whether a join has the tables of another, and no more pins than of these. -/
structure SameTables (j k : Join) : Prop where
  void : k.void = j.void
  bindings : k.bindings = j.bindings
  left : k.left = j.left
  right : k.right = j.right
  pins : ∀ p ∈ k.pins, p ∈ j.pins ∨ p.binding ∈ j.bindings

/-- Every join has its own tables. -/
theorem SameTables.refl (j : Join) :
  j.SameTables j
  := ⟨rfl, rfl, rfl, rfl, fun _ => .inl⟩

/-- A step that joins nothing keeps the tables. -/
theorem sameTables_of_step {s : JoinStep} (hstep : j.step s = .ok k) (hs : s.joined? = none) :
  j.SameTables k
  := by
  cases s with
  | on key other | and key other | or key other =>
      cases hstep
      obtain ⟨pairing, reports, failure, heq⟩ := pairBy_eq j key other _
      simp only [Join.on, Join.and, Join.or]
      rw [heq]
      constructor <;> simp +contextual [bindings, clauses, right]
  | whereFirst p | whereSecond p =>
      cases hstep
      apply unlessVoid_keeps (SameTables j) (.refl j)
      obtain ⟨filters, counter, reports, failure, heq⟩ := filter_eq j _ p
      rw [heq]
      constructor <;> simp +contextual [bindings, clauses, right]
  | pin type property =>
      cases hstep
      apply unlessVoid_keeps (SameTables j) (.refl j)
      split
      · next b hlatest =>
          refine ⟨rfl, rfl, rfl, rfl, ?_⟩
          intro p hp
          obtain hp | hp := List.mem_append.mp hp
          · left
            apply hp
          · right
            obtain rfl := List.mem_singleton.mp hp
            apply mem_bindings_of_latest? hlatest
      · apply SameTables.refl
  | next kind left right tableAlias => cases hs

/-- A step that joins a table starts from the latest one of its left type.  Without one the
join becomes void and is otherwise the same. -/
theorem next_of_not_void {left right : EntityType} {tableAlias : String} {kind : JoinKind}
    (h : j.next left right tableAlias kind = .ok k) (hj : j.isVoid = false) :
  (j.latest? left = none ∧ ∃ reason, k = { j with void := some reason }) ∨
    ∃ b joined, j.latest? left = some b ∧
      bind j.registry j.aliases right tableAlias = .ok joined ∧
      k = { j with earlier := j.clauses, current := ⟨kind, joined, none⟩, left := b }
  := by
  unfold Join.next at h
  rw [if_neg (ne_true_of_eq_false hj)] at h
  split at h
  · next hlatest =>
      cases h
      left
      exact ⟨hlatest, _, rfl⟩
  · next b hlatest =>
      obtain ⟨joined, hbind, h⟩ := exists_of_bind_ok h
      cases h
      right
      exact ⟨b, joined, hlatest, hbind, rfl⟩

/-! ### Sides -/

/-- A join starts between its two tables. -/
theorem placed_of_start {rules : TranslationRules} {left right : EntityType}
    {leftAlias rightAlias : String} {kind : JoinKind}
    (h : start r rules left right leftAlias rightAlias kind = .ok j) :
  j.Placed r (left, right)
  := by
  have hsound := sound_of_start h
  obtain ⟨base, hbase, h⟩ := exists_of_bind_ok h
  obtain ⟨joined, hjoined, h⟩ := exists_of_bind_ok h
  cases h
  have hleft := type_of_bind hbase
  have hright := type_of_bind hjoined
  have hleftTable := registered_of_bind hbase
  have hrightTable := registered_of_bind hjoined
  unfold Binding.Registered at hleftTable hrightTable
  rw [hleft] at hleftTable
  rw [hright] at hrightTable
  constructor
  · apply hsound
  · apply length_bindings
  · intro i c
    apply getElem?_bindings
  · exact ⟨[], [], rfl, by simp⟩
  · apply congrArg (·.record.name) hleft
  · apply hleftTable
  · apply hright
  · apply hrightTable
  · simp

/-- A step that joins nothing leaves a join where it is. -/
theorem Placed.of_sameTables (h : j.Placed r sides) (hk : k.Sound r) (htables : j.SameTables k) :
  k.Placed r sides
  := by
  constructor
  · apply hk
  · apply length_bindings
  · intro i c
    apply getElem?_bindings
  · rw [htables.bindings, htables.left, htables.right]
    apply h.order
  · rw [htables.left]
    apply h.leftType
  · rw [htables.left]
    apply h.leftTable
  · rw [htables.right]
    apply h.rightType
  · rw [htables.right]
    apply h.rightTable
  · intro p hp
    rw [htables.bindings]
    exact (htables.pins p hp).elim (h.pins p) id

/-- One more table becomes the right one, behind the latest of the left type. -/
theorem Placed.next (h : j.Placed r sides) {left right : EntityType} {tableAlias : String}
    {kind : JoinKind} (hnext : j.next left right tableAlias kind = .ok k)
    (hj : j.isVoid = false) (hk : k.isVoid = false) :
  k.Placed r (left, right)
  := by
  have hsound := h.toSound.next hnext
  obtain ⟨-, reason, rfl⟩ | ⟨b, joined, hlatest, hjoined, rfl⟩ := next_of_not_void hnext hj
  · cases hk
  · have hbindings : Join.bindings
        { j with earlier := j.clauses, current := ⟨kind, joined, none⟩, left := b } =
        j.bindings ++ [joined] := by simp [bindings, clauses]
    obtain ⟨before, between, heq, htype, hbetween⟩ := exists_of_latest? hlatest
    have hright := type_of_bind hjoined
    have hleftTable := h.bindings b (mem_bindings_of_latest? hlatest)
    have hrightTable := registered_of_bind hjoined
    unfold Binding.Registered at hleftTable hrightTable
    rw [htype] at hleftTable
    rw [hright, h.registry] at hrightTable
    constructor
    · apply hsound
    · apply length_bindings
    · intro i c
      apply getElem?_bindings
    · use before, between
      rw [hbindings, heq]
      simpa [Join.right] using hbetween
    · apply htype
    · apply hleftTable
    · apply hright
    · apply hrightTable
    · intro p hp
      rw [hbindings]
      apply List.mem_append_left _ (h.pins p hp)

/-- A step that does not make a join void leads to the sides that it names. -/
theorem Placed.step (h : j.Placed r sides) {s : JoinStep} (hstep : j.step s = .ok k)
    (hj : j.isVoid = false) (hk : k.isVoid = false) :
  k.Placed r (s.sides sides)
  := by
  cases s with
  | next kind left right tableAlias => apply h.next hstep hj hk
  | on | and | or | whereFirst | whereSecond | pin =>
      apply h.of_sameTables (h.toSound.step hstep)
      apply sameTables_of_step hstep rfl

/-- Steps that do not make a join void lead to the sides that the last of them names. -/
theorem Placed.follow {steps : List JoinStep} (h : j.Placed r sides)
    (hfollow : j.follow steps = (k, none)) (hk : k.isVoid = false) :
  k.Placed r (steps.foldl JoinStep.sides sides)
  := by
  induction steps generalizing j sides with
  | nil =>
      cases hfollow
      apply h
  | cons s rest ih =>
      have hj := isVoid_of_follow hfollow hk
      rw [Join.follow] at hfollow
      split at hfollow
      · next j' hstep =>
          have hj' := isVoid_of_follow hfollow hk
          apply ih (h.step hstep hj hj') hfollow
      · cases hfollow

/-- A step that does not make a join void binds a table of the type that it joins. -/
theorem types_of_step {s : JoinStep} (hstep : j.step s = .ok k) (hj : j.isVoid = false)
    (hk : k.isVoid = false) :
  k.bindings.map (·.type) = j.bindings.map (·.type) ++ s.joined?.toList
  := by
  cases s with
  | next kind left right tableAlias =>
      obtain ⟨-, reason, rfl⟩ | ⟨b, joined, -, hjoined, rfl⟩ := next_of_not_void hstep hj
      · cases hk
      · simp [bindings, clauses, JoinStep.joined?, type_of_bind hjoined]
  | on | and | or | whereFirst | whereSecond | pin =>
      rw [(sameTables_of_step hstep rfl).bindings]
      exact (List.append_nil _).symm

/-- The tables of a join are bound in the order in which steps name their types. -/
theorem types_of_follow {steps : List JoinStep} (hfollow : j.follow steps = (k, none))
    (hk : k.isVoid = false) :
  k.bindings.map (·.type) = j.bindings.map (·.type) ++ steps.filterMap JoinStep.joined?
  := by
  induction steps generalizing j with
  | nil =>
      cases hfollow
      simp
  | cons s rest ih =>
      have hj := isVoid_of_follow hfollow hk
      rw [Join.follow] at hfollow
      split at hfollow
      · next j' hstep =>
          rw [ih hfollow, types_of_step hstep hj (isVoid_of_follow hfollow hk),
            List.append_assoc, List.filterMap_cons]
          cases s.joined? with
          | none => rfl
          | some e => rfl
      · cases hfollow

/-- A join starts with tables of two types. -/
theorem types_of_start {rules : TranslationRules} {left right : EntityType}
    {leftAlias rightAlias : String} {kind : JoinKind}
    (h : start r rules left right leftAlias rightAlias kind = .ok j) :
  j.bindings.map (·.type) = [left, right]
  := by
  obtain ⟨base, hbase, h⟩ := exists_of_bind_ok h
  obtain ⟨joined, hjoined, h⟩ := exists_of_bind_ok h
  cases h
  simp [bindings, clauses, type_of_bind hbase, type_of_bind hjoined]

/-- Whatever steps put a join together, it has the tables that they name, in their order,
and stands between the two sides of the latest step that joins a table.  If one of them made
it void, no further steps change it, and no records are read from it. -/
theorem placed_or_void {rules : TranslationRules} {left right : EntityType}
    {leftAlias rightAlias : String} {kind : JoinKind} {steps : List JoinStep}
    (hstart : start r rules left right leftAlias rightAlias kind = .ok j)
    (hfollow : j.follow steps = (k, none)) :
  (k.isVoid = false → k.Placed r (steps.foldl JoinStep.sides (left, right)) ∧
      k.bindings.map (·.type) = left :: right :: steps.filterMap JoinStep.joined?) ∧
    (k.isVoid = true → (∀ more, k.follow more = (k, none)) ∧
      ∀ destination, k.statement destination = .ok none)
  := by
  constructor
  · intro hk
    use (placed_of_start hstart).follow hfollow hk
    rw [types_of_follow hfollow hk, types_of_start hstart]
    rfl
  · intro hk
    exact ⟨follow_of_isVoid hk, statement_of_isVoid hk⟩

/-- Persons, each of whom may have another for a mentor. -/
def mentored : EntityType where
  record := ⟨"Person", [.ofColumn "Id" .integer false, .ofColumn "MentorId" .integer true]⟩
  table := "Person"
  description := [.softDelete]

/-- Letters to persons. -/
def letter : EntityType where
  record := ⟨"Letter", [.ofColumn "Id" .integer false, .ofColumn "PersonId" .integer false]⟩
  table := "Letter"
  description := []

/-- Persons joined with their mentors. -/
def mentors : Join where
  registry := ⟨[mentored.draft.descriptor, letter.draft.descriptor]⟩
  rules := {}
  base := ⟨mentored, mentored.draft.descriptor, "p"⟩
  left := ⟨mentored, mentored.draft.descriptor, "p"⟩
  current := ⟨.inner, ⟨mentored, mentored.draft.descriptor, "P1"⟩, none⟩

/-- The letters to mentors and the mentors of these mentors, with a filter on no column. -/
def lettersToMentors : List JoinStep :=
  [.on "MentorId" "Id", .next .left mentored letter "p", .on "Id" "PersonId",
    .whereSecond (.member "Gone"), .pin mentored "Id", .next .inner mentored mentored "p"]

/-- A table joined from one that is not bound. -/
def unbound : JoinStep :=
  .next .inner ⟨keyRecord, "Key", []⟩ letter "l"

/-- The mentors are on the left again after the letters, and the filter leaves all tables in
place.  A table that is joined from one that is not bound makes the join void. -/
theorem placed_mentors :
  ∃ k v, Registry.build ⟨[mentored, letter], []⟩ = .ok mentors.registry ∧
    start mentors.registry {} mentored mentored "p" "P" .inner = .ok mentors ∧
    mentors.follow lettersToMentors = (k, none) ∧ k.isVoid = false ∧
    k.Placed mentors.registry (mentored, mentored) ∧
    k.aliases = ["p", "P1", "p2", "p3"] ∧ k.left.tableAlias = "P1" ∧
    mentors.follow (lettersToMentors ++ [unbound]) = (v, none) ∧ v.isVoid = true ∧
    v.follow [.on "Id" "Id"] = (v, none) ∧ v.aliases = k.aliases
  := by
  have hstart : start mentors.registry {} mentored mentored "p" "P" .inner = .ok mentors := by
    rfl
  have hk : mentors.follow lettersToMentors = ((mentors.follow lettersToMentors).1, none) :=
    Prod.ext rfl (by decide +kernel)
  have hv : mentors.follow (lettersToMentors ++ [unbound]) =
      ((mentors.follow (lettersToMentors ++ [unbound])).1, none) :=
    Prod.ext rfl (by decide +kernel)
  have hplaced := (placed_or_void hstart hk).1 (by decide +kernel)
  have hvoid := (placed_or_void hstart hv).2 (by decide +kernel)
  refine ⟨_, _, by decide +kernel, hstart, hk, by decide +kernel, hplaced.1, by decide +kernel,
    by decide +kernel, hv, by decide +kernel, hvoid.1 _, by decide +kernel⟩

end Join

end EntityStore
