import RevisionScript.File.Revision
import RevisionScript.Run.Record
import RevisionScript.Run.Session

namespace RevisionScript

structure Check where
  path : Path
  statementCount : Int := 0
  errorCode : Option String := none
  errorMessage : Option String := none
  deriving DecidableEq, Repr

namespace Check

def isOk (c : Check) : Bool := c.errorCode.isNone

def toJson (c : Check) : Json :=
  .object [("path", .string c.path.text), ("ok", .bool c.isOk),
    ("statementCount", .int c.statementCount), ("errorCode", .ofString? c.errorCode),
    ("errorMessage", .ofString? c.errorMessage)]

/-- A failure in the terms of revisions is recorded; any other stops the check. -/
def ofFile (files : Files) (encoding : String) (path : Path) : Except Failure Check :=
  match files.load path encoding with
  | .ok r => .ok { path, statementCount := r.size }
  | .error (.revision e) =>
    .ok { path, errorCode := e.code, errorMessage := some e.message }
  | .error e => .error e

def all (files : Files) (encoding : String) (paths : List Path) : Except Failure (List Check) := do
  let found ← files.collect paths
  found.mapM (ofFile files encoding)

def line (c : Check) : String :=
  let name := Markup.escaped c.path.text
  if c.isOk then s!"  [green]✓[/green] {name} ({c.statementCount} statements)"
  else
    let reason := Markup.escaped (c.errorMessage.getD "")
    s!"  [red]✗[/red] {name}: {reason}"

def verdict (checks : List Check) : String :=
  let total := checks.length
  let failed := checks.countP (!·.isOk)
  if failed = 0 then s!"\n[green]✓ All {total} revisions are valid[/green]"
  else s!"\n[red]✗ {failed} of {total} revisions rejected[/red]"

def report (checks : List Check) : List String :=
  if checks.isEmpty then ["[yellow]No revision files found[/yellow]"]
  else checks.map line ++ [verdict checks]

end Check

def RunResult.summary (r : RunResult) (dryRun : Bool) : Except Failure (List String) :=
  if dryRun then
    .ok [s!"[yellow]Dry run: {r.total} statements parsed, none executed[/yellow]"]
  else if exceedsSeconds r.milliseconds then .error .tooManySeconds
  else if r.status = .succeeded then
    let seconds := secondsText r.milliseconds
    .ok [s!"\n[green]✓ {r.successful}/{r.total} statements executed in {seconds}s[/green]"]
  else
    let status := r.status.name
    let reason := Markup.escaped (r.errorMessage.getD "")
    .ok [s!"\n[red]✗ Revision {status}:[/red] {reason}", "  Changes were rolled back"]

end RevisionScript
