import EntityStore.Config
import EntityStore.Sqlite.File

/-!
# How a database is opened

The settings of a connection, and which databases can be opened by them.
-/

namespace EntityStore.Sqlite

open EntityStore

/-- The ways in which a database may be used. -/
structure OpenFlags where
  readOnly : Bool := false
  readWrite : Bool := false
  /-- Makes the database if it does not exist. -/
  create : Bool := false
  /-- Reads the path as a resource identifier. -/
  uri : Bool := false
  /-- Lets threads share the connection. -/
  fullMutex : Bool := false
  deriving DecidableEq, Repr

namespace OpenFlags

/-- Nothing may be written. -/
def reading : OpenFlags :=
  { readOnly := true }

/-- All may be read and written, and the database is made if it does not exist. -/
def creating : OpenFlags :=
  { readWrite := true, create := true }

/-- The use that flags stand for.  If nothing is said about reading and writing, all is
allowed; a database that is only read cannot be made. -/
def access? (flags : OpenFlags) : Option Access :=
  match flags.readOnly, flags.readWrite, flags.create with
  | true, false, false => some .read
  | false, true, false => some .write
  | false, _, _ => some .create
  | true, _, _ => none

end OpenFlags

/-- The settings of a connection. -/
structure Settings where
  path : String := ":memory:"
  flags : OpenFlags := .creating
  /-- How long to wait for a locked database, in milliseconds. -/
  busyTimeout : Nat := 5000
  /-- The format of stored timestamps. -/
  format : String := Calendar.defaultFormat
  /-- Whether the enforcement of foreign keys is turned on, which it is from the beginning. -/
  foreignKeys : Bool := true
  deriving DecidableEq, Repr

namespace Settings

/-- The settings of a configuration. -/
def ofConfig (config : Config) : Settings where
  path := config.path
  busyTimeout := config.busyTimeout
  format := config.format
  foreignKeys := config.enforceForeignKeys

/-- Checks that there is a database to open. -/
def reach (s : Settings) : Except OpenProblem Unit := do
  match s.flags.access? with
  | some access => do
    let t ← Target.ofPath s.path access
    t.check
  | none => throw .misuse

/-- The error about a database that cannot be opened. -/
def refused (text : String) : Error :=
  .connection .connect text none

/-- Checks that a database can be opened: its format, then its path. -/
def check (s : Settings) : Except Error Unit := do
  Calendar.check s.format
  if s.path.toList.contains '\x00' then
    .error (refused "Invalid path: contains null byte")
  match s.reach with
  | .ok () => return ()
  | .error problem =>
    .error (refused s!"Failed to open database '{s.path}': {problem.message}")

end Settings

end EntityStore.Sqlite
