import EntityStore.Calendar.Stored
import EntityStore.Json.Decode
import EntityStore.Json.Read

/-!
# Configuration

The settings of a database.  A document gives the settings that differ from the
defaults.
-/

namespace EntityStore

/-- What becomes of a predicate that has no SQL. -/
inductive TranslationPolicy where
  /-- It holds for no row, and the reason is reported. -/
  | failClosed
  /-- It is an error. -/
  | strict
  deriving DecidableEq, Repr

/-- The settings of a database. -/
structure Config where
  path : String := ":memory:"
  /-- How long to wait for a locked database, in milliseconds. -/
  busyTimeout : Nat := 5000
  /-- Whether columns may be dropped and get other types. -/
  allowDestructive : Bool := false
  policy : TranslationPolicy := .failClosed
  /-- The format of stored timestamps. -/
  format : String := Calendar.defaultFormat
  enforceForeignKeys : Bool := true
  deriving DecidableEq, Repr

namespace TranslationPolicy

/-- The policy with a name. -/
def ofName? : String → Option TranslationPolicy
  | "fail_closed" => some failClosed
  | "strict" => some strict
  | _ => none

end TranslationPolicy

namespace Config

/-- The names of the settings in a document. -/
def partNames : List String :=
  ["path", "busy_timeout_ms", "allow_destructive_migrations", "translation_policy",
   "datetime_format", "enforce_foreign_keys"]

/-- The settings in a document. -/
def ofJson? (document : Json) : Option Config := do
  let parts ← document.parts? partNames
  let defaults : Config := {}
  return {
    path := ← parts.withDefault? 0 defaults.path Json.asText?
    busyTimeout := ← parts.withDefault? 1 defaults.busyTimeout (Json.asNatBelow? (1 <<< 32))
    allowDestructive := ← parts.withDefault? 2 defaults.allowDestructive Json.asBool?
    policy := ← parts.withDefault? 3 defaults.policy fun document =>
      document.asAlternative?.bind TranslationPolicy.ofName?
    format := ← parts.withDefault? 4 defaults.format Json.asText?
    enforceForeignKeys := ← parts.withDefault? 5 defaults.enforceForeignKeys Json.asBool? }

/-- Checks that the format of timestamps can be written. -/
def validate (config : Config) : Except Error Unit :=
  Calendar.check config.format

/-- The settings a text gives. -/
def ofText (s : String) : Except Error Config := do
  let some config := (Json.ofText? s).bind ofJson?
    | .error (.serialization "the document does not describe a configuration")
  config.validate
  return config

end Config

end EntityStore
