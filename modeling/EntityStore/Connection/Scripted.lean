import EntityStore.Connection.Command

/-!
# Scripted connections

A scripted connection answers by rules and keeps a log of the commands it was given.
The first rule that fits a command answers it; some rules answer a few times only.
-/

namespace EntityStore

/-- A rule for answers. -/
structure ScriptRule where
  /-- The kind of commands it fits, or any kind. -/
  kind : Option CommandKind := none
  /-- What must occur in the statement. -/
  part : Option String := none
  /-- How many times it still answers, unless that does not matter. -/
  times : Option Nat := none
  rows : List Row := []
  changes : Nat := 1
  /-- The key of an inserted row, or else the number of rows inserted so far. -/
  key : Option Int64 := none
  failure : Option Error := none
  deriving DecidableEq

namespace ScriptRule

/-- Whether the rule fits a command. -/
def fits (r : ScriptRule) (command : Command) : Bool :=
  r.kind.all (· = command.kind) &&
    r.part.all (fun part => Text.occursIn part.toList command.sql.toList) &&
    r.times ≠ some 0

/-- The rule after it has answered once more. -/
def used (r : ScriptRule) : ScriptRule :=
  { r with times := r.times.map (· - 1) }

end ScriptRule

/-- The state of a scripted connection. -/
structure Script where
  rules : List ScriptRule := []
  /-- The number of rows inserted so far. -/
  inserted : Nat := 0
  log : List Command := []
  deriving DecidableEq

namespace Script

/-- The first rule that fits a command, and the rules after it has answered. -/
def answer (command : Command) : List ScriptRule → Option ScriptRule × List ScriptRule
  | [] => (none, [])
  | r :: rest =>
    if r.fits command then (some r, r.used :: rest)
    else
      let (found, rest) := answer command rest
      (found, r :: rest)

/-- Logs a command and finds the rule that answers it; one without a rule does nothing. -/
def ask (command : Command) : StateM Script ScriptRule := fun s =>
  let (found, rules) := answer command s.rules
  (found.getD {}, { s with rules, log := s.log ++ [command] })

/-- The answer of a rule to a command that gives nothing. -/
def confirm (command : Command) : Action Script Unit := do
  let r : ScriptRule ← ask command
  match r.failure with
  | some e => throw e
  | none => return ()

/-- The connection that answers by the rules. -/
def connection : Connection Script where
  query sql params := do
    let r ← ask { kind := .query, sql, params }
    return { rows := r.rows, failure := r.failure }
  execute sql params := do
    let r : ScriptRule ← ask { kind := .execute, sql, params }
    match r.failure with
    | some e => throw e
    | none => return r.changes
  insert sql params := do
    let r : ScriptRule ← ask { kind := .insert, sql, params }
    match r.failure with
    | some e => throw e
    | none => do
      let s : Script ← get
      set { s with inserted := s.inserted + 1 }
      return r.key.getD (Int64.ofNat (s.inserted + 1))
  batch sql := confirm { kind := .batch, sql }
  begin := confirm { kind := .begin }
  commit := confirm { kind := .commit }
  rollback := confirm { kind := .rollback }

end Script

end EntityStore
