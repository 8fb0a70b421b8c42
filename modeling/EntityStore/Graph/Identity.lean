import EntityStore.Error

/-!
# Identities

The positions of the records that are already known, one for each type and key.
-/

namespace EntityStore

/-- A type of entities and a key. -/
structure Identity where
  typeName : String
  key : Int64
  deriving DecidableEq, Repr

/-- The positions of the known records. -/
structure IdentityMap where
  entries : List (Identity × Nat) := []
  deriving DecidableEq, Repr

namespace IdentityMap

/-- The number of known records. -/
def size (m : IdentityMap) : Nat :=
  m.entries.length

/-- The position of a known record. -/
def get? (m : IdentityMap) (identity : Identity) : Option Nat :=
  m.entries.lookup identity

/-- The map with the position of one more record. -/
def insert (m : IdentityMap) (identity : Identity) (position : Nat) : IdentityMap :=
  ⟨(identity, position) :: m.entries⟩

/-- What is known about a record once it is needed: its position, whether it was made
for that, the map and what the making left behind. -/
structure Resolved (σ : Type) where
  position : Nat
  created : Bool
  map : IdentityMap
  state : σ

/-- The position of a record, which is made if it is not known yet.  A record that
cannot be made stays unknown. -/
def resolve {σ : Type} (m : IdentityMap) (identity : Identity) (state : σ)
    (make : σ → Except Error (Nat × σ)) : Except Error (Resolved σ) :=
  match m.get? identity with
  | some position => .ok ⟨position, false, m, state⟩
  | none => do
    let (position, state) ← make state
    return ⟨position, true, m.insert identity position, state⟩

theorem get?_insert (m : IdentityMap) (a b : Identity) (position : Nat) :
  (m.insert a position).get? b = if b = a then some position else m.get? b
  := by
  unfold insert get?
  by_cases h : b = a
  · simp [h]
  · simp [List.lookup_cons, h, beq_false_of_ne h]

end IdentityMap

end EntityStore
