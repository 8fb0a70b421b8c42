import EntityStore.Text.Ascii
import EntityStore.Text.Utf8

/-!
# Resource identifiers

A path that begins with `file:` is a resource identifier: the name of a file, which may be
followed by options.  A percent sign with two hexadecimal digits stands for a byte.  Any
other path is the name of a file as it is.
-/

namespace EntityStore.Sqlite

open Text

/-- How a database is used. -/
inductive Access where
  | read
  | write
  /-- Reads and writes, and makes the database if it does not exist. -/
  | create
  /-- Keeps the database in memory. -/
  | memory
  deriving DecidableEq, Repr

namespace Access

/-- The use with a name. -/
def ofName? : String → Option Access
  | "ro" => some read
  | "rw" => some write
  | "rwc" => some create
  | "memory" => some memory
  | _ => none

/-- Whether a use may be changed to another, which must not go further. -/
def permits : Access → Access → Bool
  | memory, _ | _, memory => true
  | create, _ => true
  | write, other => other ≠ create
  | read, other => other = read

end Access

/-- Why a database cannot be opened. -/
inductive OpenProblem where
  /-- The flags contradict each other. -/
  | misuse
  | authority (name : String)
  /-- The kind of a mode and the mode. -/
  | unknownMode (kind mode : String)
  | forbiddenMode (mode : String)
  | unknownSystem (name : String)
  | noFile
  | unreadable
  deriving DecidableEq, Repr

/-- The problem in words. -/
def OpenProblem.message : OpenProblem → String
  | misuse => "bad parameter or other API misuse"
  | authority name => s!"invalid uri authority: {name}"
  | unknownMode kind mode => s!"no such {kind} mode: {mode}"
  | forbiddenMode mode => s!"access mode not allowed: {mode}"
  | unknownSystem name => s!"no such vfs: {name}"
  | noFile => "unable to open database file"
  | unreadable => "disk I/O error"

/-- A file with options about how to open it. -/
structure Resource where
  /-- The name of the file in bytes. -/
  file : List UInt8
  options : List (String × String) := []
  deriving DecidableEq, Repr

namespace Resource

/-- The bytes of a part of an identifier.  The byte zero ends the part. -/
def decoded : List Char → List UInt8
  | '%' :: c :: d :: rest =>
    match hexDigit? c, hexDigit? d with
    | some high, some low =>
      if 16 * high + low = 0 then [] else UInt8.ofNat (16 * high + low) :: decoded rest
    | _, _ => utf8 "%" ++ decoded (c :: d :: rest)
  | c :: rest => utf8 (String.singleton c) ++ decoded rest
  | [] => []

/-- What stands before the first occurrence of a character and what stands after it. -/
def cut (c : Char) (s : List Char) : List Char × List Char :=
  (s.takeWhile (· ≠ c), (s.dropWhile (· ≠ c)).drop 1)

/-- The name and the value of an option. -/
def option (s : List Char) : String × String :=
  let (name, value) := cut '=' s
  (ofUtf8 (decoded name), ofUtf8 (decoded value))

/-- The file and the options in an identifier without its scheme and authority.  Options
without a name do not count, and neither does what comes after a number sign. -/
def ofTail (s : List Char) : Resource :=
  let (file, query) := cut '?' (s.takeWhile (· ≠ '#'))
  ⟨decoded file, ((splitAt '&' query).map option).filter (!·.1.isEmpty)⟩

/-- What follows the authority of an identifier without its scheme.  The authority, if
there is one, must be the local machine. -/
def afterAuthority (s : List Char) : Except OpenProblem (List Char) :=
  match s with
  | '/' :: '/' :: rest =>
    let name := String.ofList (rest.takeWhile (· ≠ '/'))
    if name = "" ∨ name = "localhost" then .ok (rest.dropWhile (· ≠ '/'))
    else .error (.authority name)
  | s => .ok s

/-- What a path that is an identifier begins with. -/
def scheme : String := "file:"

/-- The resource of a path. -/
def ofPath (path : String) : Except OpenProblem Resource := do
  let s := path.toList
  if scheme.toList.isPrefixOf s then
    let tail ← afterAuthority (s.drop scheme.length)
    return ofTail tail
  else return ⟨utf8 path, []⟩

end Resource

/-- What is opened in the end. -/
structure Target where
  /-- The name of the file in bytes. -/
  file : List UInt8
  access : Access
  /-- The file system; there is a usual one. -/
  system : String := "unix"
  deriving DecidableEq, Repr

namespace Target

/-- The file system that keeps its files in memory. -/
def memorySystem : String := "memdb"

/-- The file systems there are. -/
def systems : List String :=
  ["unix", "unix-none", "unix-dotfile", "unix-excl", memorySystem]

/-- A target after an option.  Options without a meaning here change nothing. -/
def applyOption (t : Target) : String × String → Except OpenProblem Target
  | ("vfs", name) => .ok { t with system := name }
  | ("cache", mode) =>
    if mode = "shared" ∨ mode = "private" then .ok t else .error (.unknownMode "cache" mode)
  | ("mode", mode) =>
    match Access.ofName? mode with
    | some access =>
      if t.access.permits access then .ok { t with access } else .error (.forbiddenMode mode)
    | none => .error (.unknownMode "access" mode)
  | _ => .ok t

/-- The target of a path that may be used in a way. -/
def ofPath (path : String) (access : Access) : Except OpenProblem Target := do
  let resource ← Resource.ofPath path
  let t ← resource.options.foldlM applyOption { file := resource.file, access }
  if t.system ∈ systems then return t else throw (.unknownSystem t.system)

/-- Whether the database has no file: it is kept in memory or thrown away. -/
def isTransient (t : Target) : Bool :=
  t.file.isEmpty || t.file = utf8 ":memory:" || t.access = .memory

end Target

end EntityStore.Sqlite
