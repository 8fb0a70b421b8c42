import EntityStore.Entity.Description

/-!
# Graphs of records

Records that are linked to each other.  A record is known by its position in the
graph, so that one record can be linked from many places, and from itself.
-/

namespace EntityStore

/-- Whether a navigation leads to one record or to many. -/
inductive Cardinality where
  | one
  | many
  deriving DecidableEq, Repr

/-- A record with its links: under the name of each navigation the positions of the
linked records. -/
structure Node where
  type : EntityType
  record : Record := {}
  links : List (String × List Nat) := []
  deriving DecidableEq

namespace Node

/-- The positions of the records linked by a navigation. -/
def linked (n : Node) (navigation : String) : List Nat :=
  (n.links.lookup navigation).getD []

/-- Links with those of one navigation changed, which are none as long as it is not there. -/
def changeLinks (navigation : String) (change : List Nat → List Nat) :
    List (String × List Nat) → List (String × List Nat)
  | [] => [(navigation, change [])]
  | (name, positions) :: rest =>
    if name = navigation then (name, change positions) :: rest
    else (name, positions) :: changeLinks navigation change rest

/-- The node with one more linked record, which replaces the others where a navigation
leads to one record only. -/
def link (n : Node) (navigation : String) (cardinality : Cardinality) (position : Nat) : Node :=
  let change (positions : List Nat) : List Nat :=
    match cardinality with
    | .one => [position]
    | .many => positions ++ [position]
  { n with links := changeLinks navigation change n.links }

end Node

/-- Linked records. -/
structure Graph where
  nodes : List Node := []
  deriving DecidableEq

namespace Graph

/-- The record at a position. -/
def at? (g : Graph) (position : Nat) : Option Node :=
  g.nodes[position]?

/-- The graph with one more record, and the position of that. -/
def add (g : Graph) (n : Node) : Nat × Graph :=
  (g.nodes.length, ⟨g.nodes ++ [n]⟩)

/-- Whether the record at a position is of a type. -/
def isOf (g : Graph) (typeName : String) (position : Nat) : Bool :=
  match g.at? position with
  | some n => n.type.record.name = typeName
  | none => false

/-- The graph with a record linked from another. -/
def link (g : Graph) (navigation : String) (cardinality : Cardinality) (parent child : Nat) :
    Graph :=
  ⟨g.nodes.modify parent fun n => n.link navigation cardinality child⟩

end Graph

end EntityStore
