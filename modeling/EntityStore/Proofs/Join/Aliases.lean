import EntityStore.Proofs.Join.Cursor
import EntityStore.Proofs.Number.Decimal
import Mathlib.Data.List.Nodup
import Mathlib.Data.List.Perm.Subperm

/-!
# Aliases of joins

Each table of a join has an alias of its own, whatever aliases the steps ask for.  An alias
that is free is given as it is.  Any other gets the least number that makes it free, and there
is one among as many numbers as tables are bound and one more.
-/

namespace EntityStore

open Text

/-- The alias that a step asks for, if it joins a table. -/
def JoinStep.asked? : JoinStep → Option String
  | .next _ _ _ tableAlias => some tableAlias
  | .on .. | .and .. | .or .. | .whereFirst _ | .whereSecond _ | .pin .. => none

namespace Join

/-! ### One alias -/

/-- The alias that is given for the one that is asked for, where others are taken. -/
inductive Given (taken : List String) (asked : String) : String → Prop
  | itself (h : isTaken taken asked = false) : Given taken asked asked
  | numbered {n : Nat} (h : isTaken taken asked = true) (hpos : 1 ≤ n)
      (hle : n ≤ taken.length + 1) (hfree : isTaken taken (numbered asked n) = false)
      (hleast : ∀ m, 1 ≤ m → m < n → isTaken taken (Join.numbered asked m) = true) :
      Given taken asked (Join.numbered asked n)

variable {taken : List String} {a b : String}

/-- An alias is taken if it is one of those given up to case. -/
theorem isTaken_iff :
  isTaken taken a = true ↔ lower a ∈ taken.map lower
  := by
  rw [isTaken, List.any_eq_true, List.mem_map]
  apply exists_congr
  intro b
  rw [sameName_iff, eq_comm]

/-- One alias with two numbers makes two names. -/
theorem numbered_inj {m n : Nat} (h : lower (numbered a m) = lower (numbered a n)) :
  m = n
  := by
  have hchars := congrArg String.toList h
  simp only [numbered, lower_append, String.toList_append, toList_lower_decimalText] at hchars
  apply decimalDigits_injective (List.append_cancel_left hchars)

/-- Among one more numbers than aliases are taken there is one that makes an alias free. -/
theorem exists_free_numbered (taken : List String) (a : String) :
  ∃ n, 1 ≤ n ∧ n ≤ taken.length + 1 ∧ isTaken taken (numbered a n) = false
  := by
  by_contra hnone
  have hsubset : (List.range' 1 (taken.length + 1)).map (fun n => lower (numbered a n)) ⊆
      taken.map lower := by
    intro name hname
    obtain ⟨n, hn, rfl⟩ := List.mem_map.mp hname
    rw [List.mem_range'_1] at hn
    rw [← isTaken_iff, ← Bool.not_eq_false]
    intro hfree
    apply hnone
    exact ⟨n, hn.1, by omega, hfree⟩
  have hnodup : ((List.range' 1 (taken.length + 1)).map
      fun n => lower (numbered a n)).Nodup := by
    apply List.Nodup.map _ List.nodup_range'
    intro m n h
    apply numbered_inj h
  have hlength := (hnodup.subperm hsubset).length_le
  simp only [List.length_map, List.length_range'] at hlength
  omega

/-- The search for a free alias finds the alias itself, or the least number that makes it
free. -/
theorem given_freeAlias (taken : List String) (a : String) :
  Given taken a (freeAlias taken a)
  := by
  unfold freeAlias
  split
  · next htaken =>
      obtain ⟨k, hpos, hle, hfree⟩ := exists_free_numbered taken a
      rw [List.find?_map]
      cases hfind : (List.range' 1 (taken.length + 1)).find?
          ((fun b => !isTaken taken b) ∘ numbered a) with
      | none =>
          rw [List.find?_range'_eq_none] at hfind
          have hk := hfind k hpos (by omega)
          simp [hfree] at hk
      | some n =>
          obtain ⟨hn, hmem, hleast⟩ := List.find?_range'_eq_some.mp hfind
          rw [List.mem_range'_1] at hmem
          apply Given.numbered htaken hmem.1 (by omega) (by simpa using hn)
          intro m hm hlt
          simpa using hleast m hm hlt
  · next hfree => apply Given.itself (by simpa using hfree)

/-- The alias that is given is free. -/
theorem Given.free (h : Given taken a b) :
  isTaken taken b = false
  := by
  cases h with
  | itself h => apply h
  | numbered _ _ _ hfree _ => apply hfree

/-! ### All aliases -/

/-- The aliases that are given for those asked for, one after the other. -/
structure GivenInTurn (asked given : List String) : Prop where
  length : given.length = asked.length
  each : ∀ i a b, asked[i]? = some a → given[i]? = some b → Given (given.take i) a b

variable {asked given : List String}

/-- No alias has been given if none has been asked for. -/
theorem givenInTurn_nil :
  GivenInTurn [] []
  := ⟨rfl, by simp⟩

/-- One more alias is given in turn. -/
theorem GivenInTurn.append (h : GivenInTurn asked given) (hb : Given given a b) :
  GivenInTurn (asked ++ [a]) (given ++ [b])
  := by
  constructor
  · simp [h.length]
  · intro i a' b' ha' hb'
    rw [List.getElem?_append] at ha' hb'
    rw [← h.length] at ha'
    split at hb'
    · next hi =>
        rw [if_pos hi] at ha'
        rw [List.take_append_of_le_length (Nat.le_of_lt hi)]
        apply h.each i a' b' ha' hb'
    · next hi =>
        rw [if_neg hi] at ha'
        rw [List.getElem?_singleton] at ha' hb'
        split at hb'
        · next hzero =>
            rw [if_pos hzero] at ha'
            cases ha'
            cases hb'
            rw [show i = given.length by omega, List.take_left']
            · apply hb
            · rfl
        · cases hb'

/-- No two aliases that are given in turn are the same up to case. -/
theorem GivenInTurn.pairwise (h : GivenInTurn asked given) :
  given.Pairwise fun a b => sameName a b = false
  := by
  rw [List.pairwise_iff_getElem]
  intro i j hi hj hij
  have hjasked : j < asked.length := by rwa [← h.length]
  have hfree := (h.each j asked[j] given[j] (List.getElem?_eq_getElem hjasked)
    (List.getElem?_eq_getElem hj)).free
  have hmem : given[i] ∈ given.take j := List.mem_take_iff_getElem.mpr ⟨i, by omega, rfl⟩
  rw [isTaken, List.any_eq_false] at hfree
  have hne := hfree _ hmem
  rw [Bool.not_eq_true, sameName_comm] at hne
  apply hne

/-! ### Chains -/

variable {r : Registry} {j k : Join}

/-- The alias of a table that is bound is given for the one asked for. -/
theorem given_of_bind {e : EntityType} {binding : Binding} (h : bind r taken e a = .ok binding) :
  Given taken a binding.tableAlias
  := by
  obtain ⟨d, -, hbinding⟩ := exists_of_bind_ok h
  cases hbinding
  apply given_freeAlias

/-- A join starts with two aliases. -/
theorem givenInTurn_start {rules : TranslationRules} {left right : EntityType}
    {leftAlias rightAlias : String} {kind : JoinKind}
    (h : start r rules left right leftAlias rightAlias kind = .ok j) :
  GivenInTurn [leftAlias, rightAlias] j.aliases
  := by
  obtain ⟨base, hbase, h⟩ := exists_of_bind_ok h
  obtain ⟨joined, hjoined, h⟩ := exists_of_bind_ok h
  cases h
  have hfirst := givenInTurn_nil.append (given_of_bind hbase)
  apply hfirst.append (given_of_bind hjoined)

/-- A step that does not make a join void gives the alias that it asks for, if any. -/
theorem GivenInTurn.step (h : GivenInTurn asked j.aliases) {s : JoinStep}
    (hstep : j.step s = .ok k) (hj : j.isVoid = false) :
  (k.isVoid = true ∧ k.aliases = j.aliases) ∨
    GivenInTurn (asked ++ s.asked?.toList) k.aliases
  := by
  cases s with
  | next kind left right tableAlias =>
      obtain ⟨-, reason, rfl⟩ | ⟨b, joined, -, hjoined, rfl⟩ := next_of_not_void hstep hj
      · left
        exact ⟨rfl, rfl⟩
      · right
        have haliases : Join.aliases
            { j with earlier := j.clauses, current := ⟨kind, joined, none⟩, left := b } =
            j.aliases ++ [joined.tableAlias] := by simp [aliases, bindings, clauses]
        rw [haliases]
        apply h.append (given_of_bind hjoined)
  | on | and | or | whereFirst | whereSecond | pin =>
      right
      have haliases : k.aliases = j.aliases := by
        rw [aliases, (sameTables_of_step hstep rfl).bindings, aliases]
      rw [haliases]
      simpa [JoinStep.asked?] using h

/-- As far as steps lead, the aliases that they ask for are given in turn.  All of them are,
unless the join becomes void or a step fails. -/
theorem GivenInTurn.follow {steps : List JoinStep} {stopped : Option Error}
    (h : GivenInTurn asked j.aliases) (hfollow : j.follow steps = (k, stopped)) :
  ∃ more, more <+: steps.filterMap JoinStep.asked? ∧
    (k.isVoid = false → stopped = none → more = steps.filterMap JoinStep.asked?) ∧
    GivenInTurn (asked ++ more) k.aliases
  := by
  induction steps generalizing j asked with
  | nil =>
      cases hfollow
      exact ⟨[], by simp, by simp, by simpa using h⟩
  | cons s rest ih =>
      cases hj : j.isVoid with
      | true =>
          rw [follow_of_isVoid hj] at hfollow
          cases hfollow
          exact ⟨[], by simp, by simp [hj], by simpa using h⟩
      | false =>
          rw [Join.follow] at hfollow
          split at hfollow
          · next j' hstep =>
              obtain ⟨hvoid, haliases⟩ | hgiven := h.step hstep hj
              · rw [follow_of_isVoid hvoid] at hfollow
                cases hfollow
                refine ⟨[], by simp, by simp [hvoid], ?_⟩
                rw [haliases]
                simpa using h
              · obtain ⟨more, hbegins, hall, hmore⟩ := ih hgiven hfollow
                have hcons : (s :: rest).filterMap JoinStep.asked? =
                    s.asked?.toList ++ rest.filterMap JoinStep.asked? := by
                  rw [List.filterMap_cons]
                  cases s.asked? <;> rfl
                rw [hcons]
                refine ⟨s.asked?.toList ++ more, ?_, ?_, ?_⟩
                · apply (List.prefix_append_right_inj _).mpr hbegins
                · intro hk hstopped
                  rw [hall hk hstopped]
                · rwa [← List.append_assoc]
          · cases hfollow
            exact ⟨[], by simp, by simp, by simpa using h⟩

/-- Whatever aliases are asked for, those that are given in turn are different names.  One that
is free is given as it is, and any other with the least number that makes it free, which is at
most one more than the number of tables before.  Every table gets one as long as the join is
not void and no step fails. -/
theorem aliases_apart {rules : TranslationRules} {left right : EntityType}
    {leftAlias rightAlias : String} {kind : JoinKind} {steps : List JoinStep}
    {stopped : Option Error}
    (hstart : start r rules left right leftAlias rightAlias kind = .ok j)
    (hfollow : j.follow steps = (k, stopped)) :
  (k.aliases.Pairwise fun a b => sameName a b = false) ∧
    ∃ asked, asked <+: leftAlias :: rightAlias :: steps.filterMap JoinStep.asked? ∧
      (k.isVoid = false → stopped = none →
        asked = leftAlias :: rightAlias :: steps.filterMap JoinStep.asked?) ∧
      GivenInTurn asked k.aliases
  := by
  obtain ⟨more, hbegins, hall, hgiven⟩ := (givenInTurn_start hstart).follow hfollow
  use hgiven.pairwise, [leftAlias, rightAlias] ++ more
  refine ⟨(List.prefix_append_right_inj _).mpr hbegins, ?_, hgiven⟩
  intro hk hstopped
  rw [hall hk hstopped]
  rfl

/-- Persons joined with their mentors, with one letter for alias. -/
def shortMentors : Join where
  registry := mentors.registry
  rules := {}
  base := ⟨mentored, mentored.draft.descriptor, "e"⟩
  left := ⟨mentored, mentored.draft.descriptor, "e"⟩
  current := ⟨.inner, ⟨mentored, mentored.draft.descriptor, "E1"⟩, none⟩

/-- Mentors of mentors, under aliases that look like numbered ones. -/
def namesakes : List JoinStep :=
  [.next .inner mentored mentored "e", .next .left mentored mentored "e1",
    .next .inner mentored mentored "E"]

/-- The alias `E` is taken by `e`, its first two numbers by `E1` and `e2`, and the alias `e1`
by `E1`. -/
theorem apart_namesakes :
  start mentors.registry {} mentored mentored "e" "E" .inner = .ok shortMentors ∧
    ∃ k, shortMentors.follow namesakes = (k, none) ∧
      k.aliases = ["e", "E1", "e2", "e11", "E3"] ∧
      k.aliases.Pairwise fun a b => sameName a b = false
  := by
  have hstart : start mentors.registry {} mentored mentored "e" "E" .inner = .ok shortMentors := by
    rfl
  have hfollow : shortMentors.follow namesakes = ((shortMentors.follow namesakes).1, none) :=
    Prod.ext rfl (by decide +kernel)
  exact ⟨hstart, _, hfollow, by decide +kernel, (aliases_apart hstart hfollow).1⟩

end Join

end EntityStore
