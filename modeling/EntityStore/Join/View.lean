import EntityStore.Join.Statement

/-!
# Stored joins

A view is a join whose statement has been put together for a type of records and kept
for a database, so that it can be read again without that work.
-/

namespace EntityStore

open Sql

/-- A stored join. -/
structure View where
  /-- The name of the type of records. -/
  destination : String
  /-- The database. -/
  source : String
  join : Join
  /-- The statement to execute; there is none if the join is void. -/
  statement : Option Fragment

/-- The stored joins, one for each type of records and database. -/
structure ViewStore where
  views : List View := []

namespace ViewStore

/-- Whether a view is the one for a type of records and a database. -/
def isFor (destination source : String) (v : View) : Bool :=
  v.destination = destination && v.source = source

/-- The view for a type of records and a database. -/
def get? (s : ViewStore) (destination source : String) : Option View :=
  s.views.find? (isFor destination source)

/-- The number of views. -/
def size (s : ViewStore) : Nat :=
  s.views.length

/-- The store without the view for a type of records and a database. -/
def remove (s : ViewStore) (destination source : String) : ViewStore :=
  ⟨s.views.filter fun v => !isFor destination source v⟩

/-- The store with a view, which replaces the one for the same records and database. -/
def insert (s : ViewStore) (v : View) : ViewStore :=
  ⟨v :: (s.remove v.destination v.source).views⟩

/-- The view of a join. -/
def view (source : String) (destination : RecordType) (j : Join) : Except Error View := do
  return ⟨destination.name, source, j, ← j.statement destination⟩

/-- Keeps a join for a type of records and a database. -/
def store (s : ViewStore) (source : String) (destination : RecordType) (j : Join) :
    Except Error (View × ViewStore) := do
  let v ← view source destination j
  return (v, s.insert v)

theorem get?_insert (s : ViewStore) (v : View) (destination source : String) :
  (s.insert v).get? destination source =
    if isFor destination source v then some v else s.get? destination source
  := by
  unfold insert get?
  by_cases h : isFor destination source v
  · simp [h]
  · simp only [List.find?_cons, h, remove, List.find?_filter]
    simp only [Bool.not_eq_true] at h
    congr 1
    funext w
    by_cases k : isFor destination source w
    · simp_all [isFor]
      grind
    · simp_all

end ViewStore

end EntityStore
