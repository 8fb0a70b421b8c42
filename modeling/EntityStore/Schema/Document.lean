import EntityStore.Error
import EntityStore.Json.Decode
import EntityStore.Json.Read
import EntityStore.Json.Write
import EntityStore.Schema.Shape

/-!
# Schemas as documents

A schema is written as a document with a member for each part, so that schemas can be
kept and compared as text.
-/

namespace EntityStore

/-- A text as a document. -/
def Json.ofText (s : String) : Json :=
  .text (some s)

/-- A text that may be missing as a document. -/
def Json.ofOptionalText : Option String → Json
  | some s => .ofText s
  | none => .null

/-- Texts as a document. -/
def Json.ofTexts (texts : List String) : Json :=
  .array (texts.map .ofText)

/-- An object with named members. -/
def Json.ofMembers (members : List (String × Json)) : Json :=
  .object (members.map fun (name, document) => (some name, document))

/-- The items of an array, each read by `decode`. -/
def Json.asList? {α : Type} (decode : Json → Option α) (document : Json) : Option (List α) := do
  (← document.asArray?).mapM decode

/-- The column as a document. -/
def ColumnShape.toJson (c : ColumnShape) : Json :=
  .ofMembers
    [("name", .ofText c.name), ("sql_type", .ofText c.sqlType), ("nullable", .bool c.nullable),
     ("primary_key", .bool c.primaryKey)]

/-- The column a document gives. -/
def ColumnShape.ofJson? (document : Json) : Option ColumnShape := do
  let parts ← document.parts? ["name", "sql_type", "nullable", "primary_key"]
  return {
    name := ← parts.required? 0 Json.asText?
    sqlType := ← parts.required? 1 Json.asText?
    nullable := ← parts.required? 2 Json.asBool?
    primaryKey := ← parts.required? 3 Json.asBool? }

/-- The foreign key as a document. -/
def ReferenceShape.toJson (r : ReferenceShape) : Json :=
  .ofMembers
    [("name", .ofOptionalText r.name), ("column", .ofText r.column),
     ("foreign_table", .ofText r.foreignTable), ("foreign_column", .ofText r.foreignColumn),
     ("on_delete", .ofText r.onDelete)]

/-- The foreign key a document gives. -/
def ReferenceShape.ofJson? (document : Json) : Option ReferenceShape := do
  let parts ← document.parts?
    ["name", "column", "foreign_table", "foreign_column", "on_delete"]
  return {
    name := ← parts.optional? 0 Json.asOptionalText?
    column := ← parts.required? 1 Json.asText?
    foreignTable := ← parts.required? 2 Json.asText?
    foreignColumn := ← parts.required? 3 Json.asText?
    onDelete := ← parts.required? 4 Json.asText? }

/-- The unique constraint as a document. -/
def UniqueShape.toJson (u : UniqueShape) : Json :=
  .ofMembers [("name", .ofOptionalText u.name), ("columns", .ofTexts u.columns)]

/-- The unique constraint a document gives. -/
def UniqueShape.ofJson? (document : Json) : Option UniqueShape := do
  let parts ← document.parts? ["name", "columns"]
  return {
    name := ← parts.optional? 0 Json.asOptionalText?
    columns := ← parts.required? 1 (Json.asList? Json.asText?) }

/-- The index as a document. -/
def IndexShape.toJson (i : IndexShape) : Json :=
  .ofMembers [("name", .ofText i.name), ("columns", .ofTexts i.columns)]

/-- The index a document gives. -/
def IndexShape.ofJson? (document : Json) : Option IndexShape := do
  let parts ← document.parts? ["name", "columns"]
  return {
    name := ← parts.required? 0 Json.asText?
    columns := ← parts.required? 1 (Json.asList? Json.asText?) }

/-- The table as a document. -/
def TableShape.toJson (t : TableShape) : Json :=
  .ofMembers
    [("name", .ofText t.name), ("columns", .array (t.columns.map (·.toJson))),
     ("foreign_keys", .array (t.references.map (·.toJson))),
     ("unique_constraints", .array (t.uniques.map (·.toJson))),
     ("indexes", .array (t.indexes.map (·.toJson)))]

/-- The table a document gives. -/
def TableShape.ofJson? (document : Json) : Option TableShape := do
  let parts ← document.parts?
    ["name", "columns", "foreign_keys", "unique_constraints", "indexes"]
  return {
    name := ← parts.required? 0 Json.asText?
    columns := ← parts.required? 1 (Json.asList? ColumnShape.ofJson?)
    references := ← parts.required? 2 (Json.asList? ReferenceShape.ofJson?)
    uniques := ← parts.required? 3 (Json.asList? UniqueShape.ofJson?)
    indexes := ← parts.required? 4 (Json.asList? IndexShape.ofJson?) }

namespace Schema

/-- The schema as a document. -/
def toJson (s : Schema) : Json :=
  .ofMembers [("tables", .ofMembers (s.tables.map fun (key, t) => (key, t.toJson)))]

/-- The tables an object gives; of several under one key the last counts. -/
def tablesOfJson? : Json → Option Schema
  | .object members => do
    let entries ← members.mapM fun (key, document) => do
      return (← key, ← TableShape.ofJson? document)
    return entries.foldl (fun s (key, t) => s.insertAt key t) empty
  | _ => none

/-- The schema a document gives. -/
def ofJson? (document : Json) : Option Schema := do
  let parts ← document.parts? ["tables"]
  parts.required? 0 tablesOfJson?

/-- The schema as text, the same whenever the schema is. -/
def toText (s : Schema) : String :=
  s.toJson.write

/-- The schema a text gives. -/
def ofText (text : String) : Except Error Schema :=
  match (Json.ofText? text).bind ofJson? with
  | some s => .ok s
  | none => .error (.serialization "the document does not describe a schema")

end Schema

end EntityStore
