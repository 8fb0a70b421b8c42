import EntityStore.Session.Related

/-!
# Operations as values

A call says which operation is to be run in a session, and an answer says what has come
of it.
-/

namespace EntityStore

/-- An operation of a session. -/
inductive Call where
  | fetch (type : EntityType) (p : Predicate)
  | fetchAll (type : EntityType)
  | first (type : EntityType) (p : Predicate)
  | count (type : EntityType) (p : Predicate)
  | insert (type : EntityType) (r : Record)
  | update (type : EntityType) (r : Record)
  | delete (type : EntityType) (r : Record)
  | deleteWhere (type : EntityType) (p : Predicate)
  | fetchGraph (plan : IncludePlan) (p : Option Predicate)
  | runJoin (destination : RecordType) (j : Join)
  | runView (destination : RecordType) (v : View)

/-- What an operation answers. -/
inductive Answer where
  /-- The records of a type of entities. -/
  | entities (type : EntityType) (records : List Record)
  | entity? (type : EntityType) (record : Option Record)
  /-- The number of records or of changed rows. -/
  | number (n : Int)
  | graph (g : LoadedGraph)
  /-- The records of another type. -/
  | records (type : RecordType) (records : List Record)
  deriving DecidableEq

namespace Session

variable {σ : Type}

/-- The answer with the number of changed rows. -/
def changed (n : Nat) : Answer :=
  .number n

/-- The answer with a number of rows or with a key. -/
def counted (n : Int64) : Answer :=
  .number n.toInt

/-- Runs an operation. -/
def perform (s : Session σ) : Call → StateM (SessionState σ) (Outcome Answer)
  | .fetch type p => Outcome.map (.entities type) <$> s.fetch type p
  | .fetchAll type => Outcome.map (.entities type) <$> s.fetchAll type
  | .first type p => Outcome.map (.entity? type) <$> s.first type p
  | .count type p => Outcome.map counted <$> s.count type p
  | .insert type r => (fun answer => answer.1.map counted) <$> s.insert type r
  | .update type r => Outcome.map changed <$> s.update type r
  | .delete type r => Outcome.map changed <$> s.delete type r
  | .deleteWhere type p => Outcome.map changed <$> s.deleteWhere type p
  | .fetchGraph plan p => Outcome.map .graph <$> s.fetchGraph plan p
  | .runJoin destination j => Outcome.map (.records destination) <$> s.runJoin destination j
  | .runView destination v => Outcome.map (.records destination) <$> s.runView destination v

end Session

end EntityStore
