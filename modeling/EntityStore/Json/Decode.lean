import EntityStore.Json
import EntityStore.Number.Text

/-!
# Documents as data

What a document says as a number, a text or a structure.  A structure is an object
with named members, of which unknown ones do not count, or an array of its parts in
their order.
-/

namespace EntityStore.Json

open Text

/-- The truth value of a document. -/
def asBool? : Json → Option Bool
  | bool b => some b
  | _ => none

/-- The text of a document. -/
def asText? : Json → Option String
  | text s => s
  | _ => none

/-- The text of a document, or nothing for null. -/
def asOptionalText? : Json → Option (Option String)
  | null => some none
  | text (some s) => some (some s)
  | _ => none

/-- The natural number below a bound that a document writes with digits alone. -/
def asNatBelow? (bound : Nat) : Json → Option Nat
  | number literal =>
    if literal.toList.all Char.isDigit then
      let n := ofDigits (literal.toList.filterMap digit?)
      if n < bound then some n else none
    else none
  | _ => none

/-- The items of an array. -/
def asArray? : Json → Option (List Json)
  | array items => some items
  | _ => none

/-- The parts of a structure: for each part its document, if it is given, and whether
the parts were given by position. -/
structure Parts where
  given : List (Option Json)
  byPosition : Bool

/-- The documents of one part, in order. -/
def partOf (members : List (Option String × Json)) (name : String) : List Json :=
  (members.filter fun m => m.1 = some name).map (·.2)

/-- The parts of a structure.  A part may be given once only, and no key may be ill formed. -/
def parts? (names : List String) : Json → Option Parts
  | array items =>
    if items.length ≤ names.length then
      some ⟨items.map some ++ List.replicate (names.length - items.length) none, true⟩
    else none
  | object members =>
    if members.any (fun m => m.1.isNone) ||
        names.any (fun name => 1 < (partOf members name).length) then none
    else some ⟨names.map fun name => (partOf members name).head?, false⟩
  | _ => none

namespace Parts

/-- A part that must be given. -/
def required? {α : Type} (parts : Parts) (i : Nat) (decode : Json → Option α) : Option α := do
  decode (← (parts.given[i]?).join)

/-- A part that has a default. -/
def withDefault? {α : Type} (parts : Parts) (i : Nat) (default : α) (decode : Json → Option α) :
    Option α :=
  match (parts.given[i]?).join with
  | some document => decode document
  | none => some default

/-- A part that may be left out of an object. -/
def optional? {α : Type} (parts : Parts) (i : Nat) (decode : Json → Option (Option α)) :
    Option (Option α) :=
  match (parts.given[i]?).join with
  | some document => decode document
  | none => if parts.byPosition then none else some none

end Parts

/-- The name of the only alternative a document gives, as a text or as the only key of
an object with null under it. -/
def asAlternative? : Json → Option String
  | text s => s
  | object [(key, null)] => key
  | _ => none

end EntityStore.Json
