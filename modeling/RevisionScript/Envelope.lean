import RevisionScript.Failure
import RevisionScript.Json.Writer
import RevisionScript.Report
import RevisionScript.Run.Record
import RevisionScript.Run.Session

namespace RevisionScript

inductive Command
  | split
  | check
  | run
  deriving DecidableEq, Repr

namespace Command

def name : Command → String
  | split => "split"
  | check => "check"
  | run => "run"

def all : List Command := [split, check, run]

end Command

/-- One failure among the errors of an envelope, with the revision's path unless that is null. The
parts may come from a report as they are there. -/
structure ErrorEntry where
  code : Json
  message : Json
  path : Json := .null

namespace ErrorEntry

def ofFailure : Failure → ErrorEntry
  | .revision e => { code := .ofString? e.code, message := .string e.message }
  | e => { code := .string "error", message := .string e.message }

def toJson (e : ErrorEntry) : Json :=
  .object ([("code", e.code), ("message", e.message)] ++
    match e.path with
    | .null => []
    | path => [("path", path)])

end ErrorEntry

/-- What a command reports in JSON. Without data, the command stopped before it had any. -/
structure Envelope where
  command : Command
  data : Option Json
  milliseconds : Int
  errors : List ErrorEntry := []

namespace Envelope

def status (e : Envelope) : String := if e.errors.isEmpty then "success" else "error"

def exitCode (e : Envelope) : Nat := if e.errors.isEmpty then 0 else 1

def schemaVersion : String := "1"

def toJson (e : Envelope) : Json :=
  .object [("schemaVersion", .string schemaVersion), ("command", .string e.command.name),
    ("status", .string e.status), ("data", e.data.getD .null),
    ("errors", .list (e.errors.map (·.toJson))),
    ("meta", .object [("durationMs", .int e.milliseconds), ("exitCode", .int e.exitCode)])]

def text (e : Envelope) : String := e.toJson.pretty

def demand (record : Json) (name : String) : Except Failure Json :=
  match record.field? name with
  | some v => .ok v
  | none => .error (.missingField name)

def orText (default : String) (v : Json) : Json := if v.isTruthy then v else .string default

def entryOfCheck (record : Json) : Except Failure (Option ErrorEntry) := do
  if (← demand record "ok").isTruthy then return none
  let code := orText "error" (← demand record "errorCode")
  let message := orText "" (← demand record "errorMessage")
  let path ← demand record "path"
  return some { code, message, path }

def entriesOfRun (result : Json) : Except Failure (List ErrorEntry) := do
  if (← demand result "status").string? = some "success" then return []
  let message := orText "" (← demand result "error_message")
  return [{ code := .string "statement_failed", message }]

def ofSplit (path : String) (statements : List String) (started ended : Instant) :
    Except Failure Envelope := do
  let data := Json.object [("path", .string path), ("count", .int statements.length),
    ("statements", .strings statements)]
  let milliseconds ← millisecondsBetween started ended
  return { command := .split, data := some data, milliseconds }

def ofChecks (records : List Json) (started ended : Instant) : Except Failure Envelope := do
  let entries ← records.mapM entryOfCheck
  let data := Json.object [("revisions", .list records)]
  let milliseconds ← millisecondsBetween started ended
  return { command := .check, data := some data, milliseconds, errors := entries.filterMap id }

def ofRun (result : Json) (started ended : Instant) : Except Failure Envelope := do
  let errors ← entriesOfRun result
  let milliseconds ← millisecondsBetween started ended
  return { command := .run, data := some result, milliseconds, errors }

def ofFailure (command : Command) (failure : Failure) (started ended : Instant) :
    Except Failure Envelope := do
  let milliseconds ← millisecondsBetween started ended
  return { command, data := none, milliseconds, errors := [.ofFailure failure] }

end Envelope

end RevisionScript
