import RevisionScript.File.Revision
import RevisionScript.Run.Database
import RevisionScript.Run.Record

namespace RevisionScript

def runIdOf (token : String) : String :=
  "run_" ++ String.ofList ((token.toList.take 8).map Char.toLower)

namespace Run

section

variable {W : Type} (executor : Executor W) (settings : Settings)

def announce (markup : String) : Act W Unit :=
  if settings.showProgress then Act.say markup else pure ()

def resultOf (index : Nat) (sql : String) (milliseconds : Except Failure Int) :
    Except Failure Json → Except Failure StatementResult
  | .error e => do
    if e.endsRun then throw e
    let milliseconds ← milliseconds
    return { index, sql, status := .failed, milliseconds, errorMessage := some e.message }
  | .ok rows => do
    let milliseconds ← milliseconds
    match RecordField.orNull RecordField.readInt rows with
    | .ok rowsAffected =>
      return { index, sql, status := .succeeded, milliseconds, rowsAffected }
    | .error kind => throw (.mismatch [⟨[.field "rows_affected"], kind⟩])

def perform (index : Nat) (sql : String) : Act W StatementResult := do
  let started ← Act.observe executor.now
  let reply ← Act.attempt (Act.call (.execute sql) (executor.execute sql))
  let ended ← Act.observe executor.now
  Act.ofExcept (resultOf index sql (millisecondsBetween started ended) reply)

/-- The progress line of a statement. The text of a failure is inserted as it came. -/
def outcomeLine (r : StatementResult) : String :=
  if r.status = .succeeded then
    let seconds := secondsText r.milliseconds
    s!"  [green]✓[/green] Completed in {seconds}s"
  else
    let reason := r.errorMessage.getD ""
    s!"  [red]✗[/red] Failed: {reason}"

def performAll (total : Nat) : Nat → List String → Tally → Act W Tally
  | _, [], t => pure t
  | index, sql :: rest, t => do
    announce settings s!"[cyan]Statement {index}/{total}[/cyan]"
    let r ← perform executor index sql
    announce settings (outcomeLine r)
    let t := t.add index r
    if r.status = .failed && settings.stopOnError then return t
    performAll total (index + 1) rest t

def skipAll (statements : List String) : List StatementResult :=
  statements.mapIdx fun i sql ↦ { index := i + 1, sql, status := .skipped }

def run (token : String) (revision : Revision) : Act W RunResult := do
  let total := revision.size
  let started ← Act.observe executor.now
  let tally ←
    if settings.dryRun then pure { results := skipAll revision.statements }
    else do
      announce settings s!"\n[bold cyan]Executing {total} statements...[/bold cyan]\n"
      performAll executor settings total 1 revision.statements {}
  let ended ← Act.observe executor.now
  let milliseconds ← Act.ofExcept (millisecondsBetween started ended)
  return .ofTally (runIdOf token) total tally milliseconds

end

section

variable {W : Type} (db : Database W) (settings : Settings)

def inTransaction (token : String) (revision : Revision) : Act W RunResult := do
  db.begin
  let result ← run db.executor settings token revision
  if result.status = .succeeded && !settings.dryRun then db.commitTransaction
  else db.rollbackTransaction
  return result

/-- Nothing is connected to before the revision has been read; the connection is closed at the end,
however it comes. -/
def runFile (files : Files) (token : String) (path database : Path) : Act W RunResult := do
  let revision ← Act.ofExcept (files.load path settings.encoding)
  db.connectTo database
  Act.ending (inTransaction db settings token revision) db.closeConnection

end

end Run

end RevisionScript
