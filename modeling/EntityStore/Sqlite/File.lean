import EntityStore.Sqlite.Resource

/-!
# Files of databases

The name of a file leads from the root or from the working directory through directories,
element by element.  Each step of the way is looked up, so a name that leads through
something other than a directory is refused, even if it turns back.  Of the files of the
system there are a few devices, which are empty databases; files can be made in the working
directory and in the directory for temporary files.
-/

namespace EntityStore.Sqlite

open Text

/-- An element of the name of a file in bytes. -/
abbrev Element := List UInt8

/-- The place a name leads to. -/
structure Place where
  /-- Whether it starts from the root. -/
  absolute : Bool
  /-- The number of directories above the working directory. -/
  above : Nat := 0
  /-- The elements below, the last first. -/
  below : List Element := []
  deriving DecidableEq, Repr

namespace Place

/-- The place of a name from the root. -/
def ofRoot (elements : List String) : Place :=
  { absolute := true, below := (elements.map utf8).reverse }

/-- The directory that holds all others. -/
def root : Place := ofRoot []

/-- The directory in which names begin that do not begin at the root. -/
def working : Place := { absolute := false }

/-- The directory for temporary files. -/
def temporary : Place := ofRoot ["tmp"]

/-- The directory of the devices. -/
def devices : Place := ofRoot ["dev"]

/-- The devices that have no size. -/
def deviceNames : List String := ["null", "zero", "full", "random", "urandom"]

/-- The directories that every system has below the root. -/
def directoryNames : List String :=
  ["bin", "boot", "dev", "etc", "home", "lib", "media", "mnt", "opt", "proc", "root", "run",
    "sbin", "srv", "sys", "tmp", "usr", "var"]

/-- How many directories lie between the root and the working directory, with itself. -/
def workingDepth : Nat := 2

/-- The place one directory up.  Nothing is above the root. -/
def up (p : Place) : Place :=
  match p.below with
  | _ :: rest => { p with below := rest }
  | [] =>
    if p.absolute then p
    else if p.above + 1 < workingDepth then { p with above := p.above + 1 }
    else root

/-- Whether there is a device at a place. -/
def isDevice (p : Place) : Bool :=
  p.up = devices && deviceNames.any fun name => p.below.head? = some (utf8 name)

/-- Whether there is a directory at a place. -/
def isDirectory (p : Place) : Bool :=
  p.below.isEmpty || directoryNames.any fun name => p = ofRoot [name]

/-- The number of bytes in the name of a place, where each element follows a separator.
The name of the working directory is not counted. -/
def length (p : Place) : Nat :=
  p.below.foldl (fun n e => n + 1 + e.length) 0

/-- The greatest number of bytes in an element. -/
def elementLimit : Nat := 255

/-- The greatest number of bytes in the name of a file. -/
def lengthLimit : Nat := 512

/-- The bytes that are left free for the endings of the files beside a database. -/
def endingRoom : Nat := 8

/-- Whether an element can be looked up in a place: the name must not grow too long, a device
has nothing below it, and a directory does not know elements that are too long.  It does not
matter whether anything is found. -/
def admits (p : Place) (e : Element) : Bool :=
  p.length + 1 + e.length < lengthLimit && !p.isDevice &&
    (e.length ≤ elementLimit || !p.isDirectory)

/-- The place after one more element, if it can be looked up. -/
def enter? (p : Place) (e : Element) : Option Place :=
  if e = [] ∨ e = utf8 "." then some p
  else if e = utf8 ".." then some p.up
  else if p.admits e then some { p with below := e :: p.below }
  else none

/-- The separator of elements. -/
def separator : UInt8 := 47

/-- The place of a name, if the name leads to one and leaves room for endings. -/
def ofName? (name : List UInt8) : Option Place := do
  let start := if name.head? = some separator then root else working
  let p ← (splitAt separator name).foldlM enter? start
  if p.length + endingRoom ≤ lengthLimit then some p else none

/-- Whether a file can be made at a place. -/
def isFree (p : Place) : Bool :=
  p.up = working || p.up = temporary

/-- Checks that a database can be opened at a place.  A directory can be opened for
reading, but then it cannot be read; the root cannot even be opened. -/
def check (p : Place) (access : Access) : Except OpenProblem Unit :=
  if p.isDevice then .ok ()
  else if p.isDirectory then
    if access = .read ∧ p ≠ root then .error .unreadable else .error .noFile
  else if access = .create ∧ p.isFree then .ok ()
  else .error .noFile

end Place

namespace Target

/-- The greatest number of bytes in a name in the system that keeps files in memory. -/
def memoryNameLimit : Nat := 1024

/-- Checks that a target can be opened. -/
def check (t : Target) : Except OpenProblem Unit :=
  if t.isTransient then .ok ()
  else if t.system = memorySystem then
    if t.file.length + Place.endingRoom ≤ memoryNameLimit then .ok () else .error .noFile
  else match Place.ofName? t.file with
    | some p => p.check t.access
    | none => .error .noFile

end Target

end EntityStore.Sqlite
