import EntityStore.Proofs.Except
import EntityStore.Proofs.Session.Sent
import Mathlib.Logic.Function.Basic

/-!
# Stored joins as a map

Whatever joins are stored, looked up and removed one after the other, the store answers as a
map from types of records and databases does.  It holds the join that was stored last for
each, and a join that cannot be stored changes nothing.  Reading a stored join sends what
reading the join itself would send.
-/

namespace EntityStore

open Sql

/-- An operation on a store of joins. -/
inductive ViewStep where
  | store (source : String) (destination : RecordType) (j : Join)
  | get (source : String) (destination : RecordType)
  | remove (source : String) (destination : RecordType)

/-- The views of a map, each for the name of a type of records and a database. -/
abbrev ViewMap := String × String → Option View

namespace ViewStore

/-- One operation on a store, with its answer.  A join that cannot be stored leaves the store
as it was. -/
def run (s : ViewStore) : ViewStep → Except Error (Option View) × ViewStore
  | .store source destination j =>
    match s.store source destination j with
    | .ok (v, s') => (.ok (some v), s')
    | .error e => (.error e, s)
  | .get source destination => (.ok (s.get? destination.name source), s)
  | .remove source destination =>
    (.ok (s.get? destination.name source), s.remove destination.name source)

/-- Operations on a store one after the other, with their answers. -/
def runAll (s : ViewStore) : List ViewStep → List (Except Error (Option View)) × ViewStore
  | [] => ([], s)
  | step :: steps =>
    let (answer, s') := s.run step
    let (answers, s'') := s'.runAll steps
    (answer :: answers, s'')

/-- What a store holds. -/
def toMap (s : ViewStore) : ViewMap :=
  fun key => s.get? key.1 key.2

end ViewStore

namespace ViewMap

/-- One operation on a map, with its answer. -/
def run (m : ViewMap) : ViewStep → Except Error (Option View) × ViewMap
  | .store source destination j =>
    match ViewStore.view source destination j with
    | .ok v => (.ok (some v), Function.update m (destination.name, source) (some v))
    | .error e => (.error e, m)
  | .get source destination => (.ok (m (destination.name, source)), m)
  | .remove source destination =>
    (.ok (m (destination.name, source)), Function.update m (destination.name, source) none)

/-- Operations on a map one after the other, with their answers. -/
def runAll (m : ViewMap) : List ViewStep → List (Except Error (Option View)) × ViewMap
  | [] => ([], m)
  | step :: steps =>
    let (answer, m') := m.run step
    let (answers, m'') := runAll m' steps
    (answer :: answers, m'')

end ViewMap

/-! ### A store refines a map -/

namespace ViewStore

variable {s : ViewStore} {source : String} {destination : RecordType} {j : Join} {v : View}

/-- A view is kept for the type of records and the database that it was made for, with the
join. -/
theorem fields_of_view (h : view source destination j = .ok v) :
  v.destination = destination.name ∧ v.source = source ∧ v.join = j
  := by
  obtain ⟨statement, -, hview⟩ := exists_of_bind_ok h
  cases hview
  use rfl, rfl

/-- A join is stored exactly if there is a view of it. -/
theorem run_store (s : ViewStore) (source : String) (destination : RecordType) (j : Join) :
  s.run (.store source destination j) =
    match view source destination j with
    | .ok v => (.ok (some v), s.insert v)
    | .error e => (.error e, s)
  := by
  rw [run, store]
  cases view source destination j <;> rfl

/-- A join that is stored has a view, which is put into the store. -/
theorem exists_view_of_run_store {s after : ViewStore} {source : String}
    {destination : RecordType} {j : Join} {answer : Option View}
    (h : s.run (.store source destination j) = (.ok answer, after)) :
  ∃ v, view source destination j = .ok v ∧ answer = some v ∧ after = s.insert v
  := by
  rw [run_store] at h
  cases hview : view source destination j with
  | ok v =>
      rw [hview] at h
      cases h
      use v
  | error e =>
      rw [hview] at h
      cases h

/-- A join that cannot be stored has no view, and the store is as before. -/
theorem view_of_run_store_error {s after : ViewStore} {source : String}
    {destination : RecordType} {j : Join} {e : Error}
    (h : s.run (.store source destination j) = (.error e, after)) :
  view source destination j = .error e ∧ after = s
  := by
  rw [run_store] at h
  cases hview : view source destination j with
  | ok v =>
      rw [hview] at h
      cases h
  | error e' =>
      rw [hview] at h
      cases h
      use rfl

/-- A view is for the type of records and the database that it is kept for. -/
theorem isFor_iff {name source : String} :
  isFor name source v = true ↔ (name, source) = (v.destination, v.source)
  := by
  rw [isFor, Bool.and_eq_true, decide_eq_true_eq, decide_eq_true_eq, Prod.mk.injEq]
  constructor <;> (rintro ⟨rfl, rfl⟩; simp)

/-- Storing a view changes what is held for its type of records and database. -/
theorem toMap_insert (s : ViewStore) (v : View) :
  (s.insert v).toMap = Function.update s.toMap (v.destination, v.source) (some v)
  := by
  funext ⟨name, source⟩
  show (s.insert v).get? name source = _
  simp only [get?_insert, isFor_iff, Function.update_apply]
  rfl

/-- Removing a view changes what is held for its type of records and database. -/
theorem toMap_remove (s : ViewStore) (name source : String) :
  (s.remove name source).toMap = Function.update s.toMap (name, source) none
  := by
  funext ⟨name', source'⟩
  show (s.remove name source).get? name' source' = _
  rw [Function.update_apply, get?, remove, List.find?_filter]
  split
  · rename_i hkey
    cases hkey
    simp
  · rename_i hkey
    show _ = s.views.find? (isFor name' source')
    congr 1
    funext v
    -- a view for the one key is not for the other
    by_cases hv : isFor name' source' v = true
    · have hother : isFor name source v = false := by
        rw [← Bool.not_eq_true, isFor_iff, ← isFor_iff.mp hv]
        intro heq
        apply hkey heq.symm
      simp [hv, hother]
    · simp [hv]

/-- An operation answers on a store as on the map that it holds, and changes both alike. -/
theorem run_refines (s : ViewStore) (step : ViewStep) :
  (s.run step).1 = (s.toMap.run step).1 ∧ (s.run step).2.toMap = (s.toMap.run step).2
  := by
  cases step with
  | get source destination => use rfl; rfl
  | remove source destination =>
      use rfl
      apply toMap_remove
  | store source destination j =>
      rw [run_store, ViewMap.run]
      cases hview : view source destination j with
      | error e => use rfl
      | ok v =>
          obtain ⟨hname, hsource, -⟩ := fields_of_view hview
          use rfl
          rw [← hname, ← hsource]
          apply toMap_insert

/-- Operations answer on a store as on the map that it holds, and change both alike. -/
theorem runAll_refines (s : ViewStore) (steps : List ViewStep) :
  (s.runAll steps).1 = (s.toMap.runAll steps).1 ∧
    (s.runAll steps).2.toMap = (s.toMap.runAll steps).2
  := by
  induction steps generalizing s with
  | nil => use rfl; rfl
  | cons step steps ih =>
      obtain ⟨hanswer, hmap⟩ := s.run_refines step
      obtain ⟨hanswers, hmaps⟩ := ih (s.run step).2
      rw [hmap] at hanswers hmaps
      constructor
      · apply congrArg₂ List.cons hanswer hanswers
      · apply hmaps

/-! ### The last join that was stored -/

end ViewStore

namespace ViewStep

variable {name source : String} {v : View}

/-- Whether an operation stores a view for a type of records and a database. -/
def Stores (name source : String) (v : View) : ViewStep → Prop
  | .store source' destination j =>
    (destination.name, source') = (name, source) ∧ ViewStore.view source' destination j = .ok v
  | _ => False

/-- Whether an operation changes what is held for a type of records and a database. -/
def Changes (name source : String) : ViewStep → Prop
  | .store source' destination j =>
    (destination.name, source') = (name, source) ∧
      ∃ v, ViewStore.view source' destination j = .ok v
  | .get .. => False
  | .remove source' destination => (destination.name, source') = (name, source)

/-- After an operation a map holds what the operation stores, or what it held before and the
operation does not change. -/
theorem run_eq_some_iff (m : ViewMap) (step : ViewStep) :
  (m.run step).2 (name, source) = some v ↔
    step.Stores name source v ∨ m (name, source) = some v ∧ ¬ step.Changes name source
  := by
  cases step with
  | get source' destination => simp [ViewMap.run, Stores, Changes]
  | remove source' destination =>
      simp only [ViewMap.run, Stores, Changes, Function.update_apply, false_or]
      by_cases hkey : (name, source) = (destination.name, source')
      · simp [hkey]
      · simp [hkey, Ne.symm hkey]
  | store source' destination j =>
      cases hview : ViewStore.view source' destination j with
      | error e => simp [ViewMap.run, Stores, Changes, hview]
      | ok w =>
          simp only [ViewMap.run, Stores, Changes, hview, Function.update_apply]
          by_cases hkey : (name, source) = (destination.name, source')
          · simp [hkey]
          · simp [hkey, Ne.symm hkey]

end ViewStep

/-- Whether a view is the last one that operations store for a type of records and a database,
and is not removed behind that. -/
inductive LastStored (name source : String) (v : View) : List ViewStep → Prop
  | here {step : ViewStep} {steps : List ViewStep} (h : step.Stores name source v)
      (hafter : ∀ later ∈ steps, ¬ later.Changes name source) :
      LastStored name source v (step :: steps)
  | later {step : ViewStep} {steps : List ViewStep} (h : LastStored name source v steps) :
      LastStored name source v (step :: steps)

/-- The last view that is stored is one of a join. -/
theorem LastStored.exists_view {name source : String} {v : View} {steps : List ViewStep}
    (h : LastStored name source v steps) :
  ∃ destination : RecordType, destination.name = name ∧
    ViewStore.view source destination v.join = .ok v
  := by
  induction h with
  | @here step _ h _ =>
      cases step with
      | store source' destination j =>
          obtain ⟨hkey, hview⟩ := h
          cases hkey
          use destination, rfl
          rw [(ViewStore.fields_of_view hview).2.2]
          apply hview
      | _ => cases h
  | later _ ih => apply ih

namespace ViewMap

/-- After operations a map holds what they store last, or what it held before and none of
them changes. -/
theorem runAll_eq_some_iff {name source : String} {v : View} (m : ViewMap)
    (steps : List ViewStep) :
  (m.runAll steps).2 (name, source) = some v ↔
    LastStored name source v steps ∨
      m (name, source) = some v ∧ ∀ step ∈ steps, ¬ step.Changes name source
  := by
  induction steps generalizing m with
  | nil =>
      constructor
      · intro h
        right
        use h
        simp
      · rintro (h | ⟨h, -⟩)
        · cases h
        · apply h
  | cons step steps ih =>
      have hlast : LastStored name source v (step :: steps) ↔ LastStored name source v steps ∨
          step.Stores name source v ∧ ∀ later ∈ steps, ¬ later.Changes name source := by
        constructor
        · intro h
          cases h with
          | here h hafter => right; use h
          | later h => left; apply h
        · rintro (h | ⟨h, hafter⟩)
          · apply LastStored.later h
          · apply LastStored.here h hafter
      show ((m.run step).2.runAll steps).2 (name, source) = some v ↔ _
      rw [ih, step.run_eq_some_iff, hlast, List.forall_mem_cons]
      tauto

end ViewMap

/-! ### One view for each key -/

namespace ViewStore

variable {s : ViewStore}

/-- Whether no two views are kept for one type of records and one database. -/
def Distinct (s : ViewStore) : Prop :=
  (s.views.map fun v => (v.destination, v.source)).Nodup

/-- Without one of its views a store has no two for one key either. -/
theorem Distinct.remove (h : s.Distinct) (name source : String) :
  (s.remove name source).Distinct
  := by
  apply List.Nodup.sublist _ h
  apply List.filter_sublist.map

/-- An operation leaves no two views for one key. -/
theorem Distinct.run (h : s.Distinct) (step : ViewStep) :
  (s.run step).2.Distinct
  := by
  cases step with
  | get source destination => apply h
  | remove source destination => apply h.remove
  | store source destination j =>
      rw [run_store]
      cases view source destination j with
      | error e => apply h
      | ok v =>
          show (_ :: List.map _ _).Nodup
          rw [List.nodup_cons]
          constructor
          · rw [List.mem_map]
            rintro ⟨w, hw, hkey⟩
            have hfor := (List.mem_filter.mp hw).2
            rw [isFor_iff.mpr hkey.symm] at hfor
            cases hfor
          · apply h.remove

/-- Operations leave no two views for one key. -/
theorem Distinct.runAll (h : s.Distinct) (steps : List ViewStep) :
  (s.runAll steps).2.Distinct
  := by
  induction steps generalizing s with
  | nil => apply h
  | cons step steps ih => apply ih (h.run step)

end ViewStore

/-! ### What is sent for a stored join -/

namespace Session

variable {σ : Type} {source : String} {destination : RecordType} {j : Join} {v : View}

/-- Reading a stored join sends what reading the join would send. -/
theorem sent_runView (h : ViewStore.view source destination j = .ok v) (s : Session σ)
    (other : RecordType) (t : SessionState σ) :
  s.sent (.runView other v) t = s.sent (.runJoin destination j) t
  := by
  obtain ⟨statement, hstatement, hview⟩ := exists_of_bind_ok h
  cases hview
  have hrequest : s.request? (.runJoin destination j) = statement.map query := by
    rw [request?, hstatement]
    rfl
  rw [sent_eq, sent_eq, hrequest]
  rfl

/-- Reading a join that cannot be stored sends nothing. -/
theorem sent_runJoin_of_error {e : Error} (h : ViewStore.view source destination j = .error e)
    (s : Session σ) (t : SessionState σ) :
  s.sent (.runJoin destination j) t = []
  := by
  have hrequest : s.request? (.runJoin destination j) = none := by
    rw [request?]
    cases hstatement : j.statement destination with
    | error e => rfl
    | ok statement =>
        rw [ViewStore.view, hstatement] at h
        cases h
  rw [sent_eq, hrequest, Option.toList_none, ite_self]

end Session

open ViewStore in
/-- Whatever operations are done on a store of joins, it answers as a map from types of records
and databases does, and holds for each the join that was stored last, once.  A join that
cannot be stored leaves all of it as it was, and nothing is sent for the join itself either.
What is sent for a stored join is what is sent for the join. -/
theorem stored_joins_refine_map {σ : Type} (s : Session σ) (t : SessionState σ)
    (steps : List ViewStep) :
  let held := (({} : ViewStore).runAll steps).2
  let map := ViewMap.runAll (fun _ => none) steps
  (({} : ViewStore).runAll steps).1 = map.1 ∧ held.toMap = map.2 ∧ held.Distinct ∧
  (∀ name source v, held.get? name source = some v ↔ LastStored name source v steps) ∧
  (∀ source destination j e after,
    held.run (.store source destination j) = (.error e, after) →
    after = held ∧ s.sent (.runJoin destination j) t = []) ∧
  (∀ source destination j answer after,
    held.run (.store source destination j) = (.ok answer, after) →
    ∃ v, answer = some v ∧ after.get? destination.name source = some v ∧
      ∀ other, s.sent (.runView other v) t = s.sent (.runJoin destination j) t) ∧
  (∀ name source v, held.get? name source = some v →
    ∃ destination : RecordType, destination.name = name ∧
      view source destination v.join = .ok v ∧
      ∀ other, s.sent (.runView other v) t = s.sent (.runJoin destination v.join) t)
  := by
  intro held map
  obtain ⟨hanswers, hmap⟩ := ({} : ViewStore).runAll_refines steps
  have hlast (name source : String) (v : View) :
      held.get? name source = some v ↔ LastStored name source v steps := by
    show held.toMap (name, source) = some v ↔ _
    rw [hmap, ViewMap.runAll_eq_some_iff]
    apply or_iff_left
    rintro ⟨hheld, -⟩
    cases hheld
  have hempty : ({} : ViewStore).Distinct := List.nodup_nil
  refine ⟨hanswers, hmap, hempty.runAll steps, hlast, ?_, ?_, ?_⟩
  · intro source destination j e after hrun
    obtain ⟨hview, rfl⟩ := view_of_run_store_error hrun
    use rfl
    apply Session.sent_runJoin_of_error hview
  · intro source destination j answer after hrun
    obtain ⟨v, hview, rfl, rfl⟩ := exists_view_of_run_store hrun
    obtain ⟨hname, hsource, -⟩ := fields_of_view hview
    use v, rfl
    constructor
    · rw [get?_insert, isFor_iff.mpr (by rw [hname, hsource]), if_pos rfl]
    · intro other
      apply Session.sent_runView hview
  · intro name source v hget
    obtain ⟨destination, hname, hview⟩ := ((hlast name source v).mp hget).exists_view
    use destination, hname, hview
    intro other
    apply Session.sent_runView hview

end EntityStore
