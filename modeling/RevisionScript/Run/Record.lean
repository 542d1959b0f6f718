import RevisionScript.Run.RecordField

namespace RevisionScript

structure Settings where
  dryRun : Bool := false
  stopOnError : Bool := true
  showProgress : Bool := true
  encoding : String := "utf-8"
  deriving DecidableEq, Repr

namespace Settings

open RecordField in
def ofJson (record : Json) : Reading Settings :=
  mk <$> optional "dry_run" false (Reading.of ∘ readBool) record
    <*> optional "stop_on_error" true (Reading.of ∘ readBool) record
    <*> optional "show_progress" true (Reading.of ∘ readBool) record
    <*> optional "encoding" "utf-8" (Reading.of ∘ readString) record

def toJson (s : Settings) : Json :=
  .object [("dry_run", .bool s.dryRun), ("stop_on_error", .bool s.stopOnError),
    ("show_progress", .bool s.showProgress), ("encoding", .string s.encoding)]

end Settings

inductive StatementStatus
  | succeeded
  | failed
  | skipped
  deriving DecidableEq, Repr

namespace StatementStatus

def name : StatementStatus → String
  | succeeded => "success"
  | failed => "failed"
  | skipped => "skipped"

def all : List StatementStatus := [succeeded, failed, skipped]

end StatementStatus

/-- A run has failed partly when some statements failed and others did not. -/
inductive RunStatus
  | succeeded
  | failed
  | partly
  deriving DecidableEq, Repr

namespace RunStatus

def name : RunStatus → String
  | succeeded => "success"
  | failed => "failed"
  | partly => "partial"

def all : List RunStatus := [succeeded, failed, partly]

end RunStatus

/-- What became of one statement; its index counts from one. -/
structure StatementResult where
  index : Int
  sql : String
  status : StatementStatus
  milliseconds : Int := 0
  errorMessage : Option String := none
  rowsAffected : Option Int := none
  deriving DecidableEq, Repr

namespace StatementResult

open RecordField in
def ofJson : Json → Reading StatementResult
  | record@(.object _) =>
    mk <$> required "index" (Reading.of ∘ readInt) record
      <*> required "sql" (Reading.of ∘ readString) record
      <*> required "status" (Reading.of ∘ among StatementStatus.all StatementStatus.name) record
      <*> optional "execution_time_ms" 0 (Reading.of ∘ readInt) record
      <*> optional "error_message" none (Reading.of ∘ orNull readString) record
      <*> optional "rows_affected" none (Reading.of ∘ orNull readInt) record
  | _ => .missed [⟨[], .recordType⟩]

def toJson (r : StatementResult) : Json :=
  .object [("index", .int r.index), ("sql", .string r.sql), ("status", .string r.status.name),
    ("execution_time_ms", .int r.milliseconds), ("error_message", .ofString? r.errorMessage),
    ("rows_affected", .ofInt? r.rowsAffected)]

end StatementResult

structure RunResult where
  runId : String
  total : Int
  successful : Int := 0
  failedIndex : Option Int := none
  statements : List StatementResult := []
  milliseconds : Int := 0
  status : RunStatus
  errorMessage : Option String := none
  deriving DecidableEq, Repr

namespace RunResult

open RecordField in
def ofJson (record : Json) : Reading RunResult :=
  mk <$> required "run_id" (Reading.of ∘ readString) record
    <*> required "total_statements" (Reading.of ∘ readInt) record
    <*> optional "successful_statements" 0 (Reading.of ∘ readInt) record
    <*> optional "failed_statement_index" none (Reading.of ∘ orNull readInt) record
    <*> optional "statement_results" [] (readList StatementResult.ofJson) record
    <*> optional "total_execution_time_ms" 0 (Reading.of ∘ readInt) record
    <*> required "status" (Reading.of ∘ among RunStatus.all RunStatus.name) record
    <*> optional "error_message" none (Reading.of ∘ orNull readString) record

def toJson (r : RunResult) : Json :=
  .object [("run_id", .string r.runId), ("total_statements", .int r.total),
    ("successful_statements", .int r.successful),
    ("failed_statement_index", .ofInt? r.failedIndex),
    ("statement_results", .list (r.statements.map (·.toJson))),
    ("total_execution_time_ms", .int r.milliseconds), ("status", .string r.status.name),
    ("error_message", .ofString? r.errorMessage)]

end RunResult

structure FirstFailure where
  index : Int
  message : String
  deriving DecidableEq, Repr

def FirstFailure.of (index : Int) (r : StatementResult) : FirstFailure :=
  let reason := r.errorMessage.getD ""
  { index, message := s!"Statement {index} failed: {reason}" }

structure Tally where
  results : List StatementResult := []
  failure : Option FirstFailure := none
  deriving DecidableEq, Repr

def Tally.add (t : Tally) (index : Int) (r : StatementResult) : Tally where
  results := t.results ++ [r]
  failure := if r.status = .failed && t.failure.isNone then some (.of index r) else t.failure

def RunResult.ofTally (runId : String) (total : Nat) (t : Tally) (milliseconds : Int) : RunResult :=
  let successful := t.results.countP (·.status = .succeeded)
  { runId, total, successful, statements := t.results, milliseconds
    failedIndex := t.failure.map (·.index)
    status := match t.failure with
      | none => .succeeded
      | some _ => if successful = 0 then .failed else .partly
    errorMessage := t.failure.map (·.message) }

end RevisionScript
