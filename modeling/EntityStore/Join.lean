import EntityStore.Entity.Registry
import EntityStore.Predicate.Translation
import EntityStore.Sql.Clause

/-!
# Joins

A join begins with a base table and binds one more table with every clause.  Each
table has an alias of its own.  A clause that starts from a table that is not bound
makes the whole join void: what is added later has no effect, and the result has no
rows.
-/

namespace EntityStore

open Text Sql

/-- Kinds of joins. -/
inductive JoinKind where
  | inner
  | left
  | right
  | full
  deriving DecidableEq, Repr

/-- The kind in SQL. -/
def JoinKind.sql : JoinKind → String
  | .inner => "INNER JOIN"
  | .left => "LEFT JOIN"
  | .right => "RIGHT JOIN"
  | .full => "FULL OUTER JOIN"

/-- A table under an alias. -/
structure Binding where
  /-- The type of entities in the table. -/
  type : EntityType
  descriptor : Descriptor
  tableAlias : String
  deriving DecidableEq

/-- What the rows of two tables are paired by: an equality, with more equalities each
added to all before it. -/
inductive Pairing where
  | by (e : Equality)
  | and (before : Pairing) (e : Equality)
  | or (before : Pairing) (e : Equality)
  deriving DecidableEq, Repr

/-- A pairing in SQL. -/
def Pairing.sql : Pairing → String
  | .by e => e.sql
  | .and before e => s!"{before.sql} AND {e.sql}"
  | .or before e => s!"({before.sql} OR {e.sql})"

/-- A table joined to those before it. -/
structure JoinClause where
  kind : JoinKind
  binding : Binding
  pairing : Option Pairing := none
  deriving DecidableEq

/-- A property of the result that is taken from a binding. -/
structure Pin where
  binding : Binding
  property : String
  deriving DecidableEq

/-- Joined tables with the conditions on their rows. -/
structure Join where
  registry : Registry
  rules : TranslationRules
  base : Binding
  /-- The clauses before the current one. -/
  earlier : List JoinClause := []
  /-- The clause that conditions are added to. -/
  current : JoinClause
  /-- The table the current clause starts from. -/
  left : Binding
  filters : List Fragment := []
  counter : Nat := 0
  pins : List Pin := []
  /-- Why the join is void, if it is. -/
  void : Option String := none
  /-- The first part that has no SQL, where that is an error: its table and the reason. -/
  failure : Option (String × String) := none
  /-- The reports made while the join was put together. -/
  reports : List Event := []

namespace Join

/-- The clauses in order. -/
def clauses (j : Join) : List JoinClause :=
  j.earlier ++ [j.current]

/-- The bound tables in order. -/
def bindings (j : Join) : List Binding :=
  j.base :: j.clauses.map (·.binding)

/-- The aliases of the bound tables in order. -/
def aliases (j : Join) : List String :=
  j.bindings.map (·.tableAlias)

/-- The table the current clause joins. -/
def right (j : Join) : Binding :=
  j.current.binding

/-- The parameters of all filters in order. -/
def params (j : Join) : List Param :=
  j.filters.flatMap (·.params)

/-- Whether the join is void. -/
def isVoid (j : Join) : Bool :=
  j.void.isSome

/-- Whether an alias is among those given. -/
def isTaken (taken : List String) (tableAlias : String) : Bool :=
  taken.any (sameName tableAlias)

/-- An alias followed by a number. -/
def numbered (tableAlias : String) (n : Nat) : String :=
  tableAlias ++ decimalText n

/-- The alias itself if it is free, else the first free one of it with a number. -/
def freeAlias (taken : List String) (tableAlias : String) : String :=
  if isTaken taken tableAlias then
    (((List.range' 1 (taken.length + 1)).map (numbered tableAlias)).find? fun a =>
      !isTaken taken a).getD tableAlias
  else tableAlias

/-- Binds the table of a type of entities. -/
def bind (registry : Registry) (taken : List String) (e : EntityType) (tableAlias : String) :
    Except Error Binding := do
  let descriptor ← registry.descriptor e.record.name
  return ⟨e, descriptor, freeAlias taken tableAlias⟩

/-- Joins the table of a type of entities to that of another. -/
def start (registry : Registry) (rules : TranslationRules) (left right : EntityType)
    (leftAlias rightAlias : String) (kind : JoinKind) : Except Error Join := do
  let base ← bind registry [] left leftAlias
  let joined ← bind registry [base.tableAlias] right rightAlias
  return { registry, rules, base, left := base, current := ⟨kind, joined, none⟩ }

/-- The latest binding of a type of entities. -/
def latest? (j : Join) (e : EntityType) : Option Binding :=
  j.bindings.reverse.find? fun b => b.type.record.name = e.record.name

/-- A change of a join that is not void. -/
def unlessVoid (j : Join) (change : Join → Join) : Join :=
  if j.isVoid then j else change j

/-- The join with a failure, which counts if it is the first. -/
def fail (j : Join) (table reason : String) : Join :=
  { j with failure := j.failure.or (some (table, reason)) }

/-- The equality of a column of the left table and one of the right table.  There is
none if a column is unknown and that is an error. -/
def equality (j : Join) (key other : String) : Join × Option Equality :=
  match j.left.descriptor.resolve? key, j.right.descriptor.resolve? other with
  | some (l, _), some (r, _) => (j, some (.columns j.left.tableAlias l j.right.tableAlias r))
  | _, _ =>
    let table := j.right.descriptor.table
    let reason := s!"cannot join {j.left.descriptor.table}.{key} to {table}.{other}"
    match j.rules.degrade table reason with
    | (.ok _, events) => ({ j with reports := j.reports ++ events }, some .never)
    | (.error _, _) => (j.fail table reason, none)

/-- The join with the pairing of the current clause changed by an equality. -/
def pairBy (j : Join) (key other : String) (combine : Option Pairing → Equality → Pairing) :
    Join :=
  j.unlessVoid fun j =>
    match j.equality key other with
    | (j, some e) =>
      { j with current := { j.current with pairing := some (combine j.current.pairing e) } }
    | (j, none) => j

/-- Pairs rows by an equality alone. -/
def on (j : Join) (key other : String) : Join :=
  j.pairBy key other fun _ e => .by e

/-- Pairs rows by one equality more. -/
def and (j : Join) (key other : String) : Join :=
  j.pairBy key other fun before e => before.elim (.by e) (.and · e)

/-- Pairs rows also by another equality. -/
def or (j : Join) (key other : String) : Join :=
  j.pairBy key other fun before e => before.elim (.by e) (.or · e)

/-- The join with a condition on the rows of a table. -/
def filter (j : Join) (b : Binding) (p : Predicate) : Join :=
  let c := p.compile j.rules b.descriptor (some b.tableAlias) j.counter
  let j := { j with counter := c.counter, reports := j.reports ++ c.events }
  match c.result with
  | .ok f => { j with filters := j.filters ++ [f] }
  | .error e => j.fail b.descriptor.table e.message

/-- The join with a condition on the left table. -/
def whereFirst (j : Join) (p : Predicate) : Join :=
  j.unlessVoid fun j => j.filter j.left p

/-- The join with a condition on the right table. -/
def whereSecond (j : Join) (p : Predicate) : Join :=
  j.unlessVoid fun j => j.filter j.right p

/-- Takes a property of the result from the latest binding of a type of entities, if
there is one. -/
def pin (j : Join) (e : EntityType) (property : String) : Join :=
  j.unlessVoid fun j =>
    match j.latest? e with
    | some b => { j with pins := j.pins ++ [⟨b, property⟩] }
    | none => j

/-- Joins one more table to the latest binding of a type of entities. -/
def next (j : Join) (left right : EntityType) (tableAlias : String) (kind : JoinKind) :
    Except Error Join :=
  if j.isVoid then .ok j
  else match j.latest? left with
    | none =>
      .ok { j with
        void := some (s!"{right.table} is joined from {left.table}, " ++
          "which is not bound earlier in the chain") }
    | some b => do
      let joined ← bind j.registry j.aliases right tableAlias
      return { j with
        earlier := j.clauses, current := ⟨kind, joined, none⟩, left := b }

end Join

/-- A step that puts a join together. -/
inductive JoinStep where
  | on (key other : String)
  | and (key other : String)
  | or (key other : String)
  | whereFirst (p : Predicate)
  | whereSecond (p : Predicate)
  | pin (type : EntityType) (property : String)
  | next (kind : JoinKind) (left right : EntityType) (tableAlias : String)

namespace Join

/-- The join after a step. -/
def step (j : Join) : JoinStep → Except Error Join
  | .on key other => .ok (j.on key other)
  | .and key other => .ok (j.and key other)
  | .or key other => .ok (j.or key other)
  | .whereFirst p => .ok (j.whereFirst p)
  | .whereSecond p => .ok (j.whereSecond p)
  | .pin type property => .ok (j.pin type property)
  | .next kind left right tableAlias => j.next left right tableAlias kind

/-- The join as far as steps lead, and the error that keeps them from leading on. -/
def follow (j : Join) : List JoinStep → Join × Option Error
  | [] => (j, none)
  | s :: rest =>
    match j.step s with
    | .ok next => next.follow rest
    | .error e => (j, some e)

end Join

end EntityStore
