import RevisionScript.CommandLine.Request
import RevisionScript.Console.Layout
import RevisionScript.Report
import RevisionScript.Run.Transaction
import RevisionScript.Script.Position

namespace RevisionScript.CommandLine

variable {W : Type} (db : Database W) (files : Files)

def sayAll : List String → Act W Unit
  | [] => pure ()
  | markup :: rest => do
    Act.say markup
    sayAll rest

def report (make : Instant → Except Failure Envelope) : Act W Envelope := do
  let e ← Act.ofExcept (make (← Act.observe db.now))
  Act.write (e.text ++ "\n")
  return e

def failureLine (failure : Failure) : String :=
  let reason := Markup.escaped failure.message
  s!"[red]✗ Error:[/red] {reason}"

def reportFailure (command : Command) (failure : Failure) (started : Instant) (json : Bool) :
    Act W Nat := do
  if json then let _ ← report db (Envelope.ofFailure command failure started)
  else Act.say (failureLine failure)
  return 1

/-- Goes on with the result of an action. A failure in the terms of revisions is reported, any other
stays one. -/
def reporting {α : Type} (command : Command) (started : Instant) (json : Bool) (act : Act W α)
    (next : α → Act W Nat) : Act W Nat := do
  match ← Act.attempt act with
  | .ok a => next a
  | .error (.revision e) => reportFailure db command (.revision e) started json
  | .error e => throw e

def split (path : Path) (encoding : String) (json : Bool) : Act W Nat := do
  let started ← Act.observe db.now
  reporting db .split started json (Act.ofExcept (files.load path encoding)) fun revision ↦ do
    if json then let _ ← report db (Envelope.ofSplit path.text revision.statements started)
    else revision.list
    return 0

def check (paths : List Path) (encoding : String) (json : Bool) : Act W Nat := do
  let started ← Act.observe db.now
  reporting db .check started json (Act.ofExcept (Check.all files encoding paths)) fun checks ↦ do
    if json then
      let e ← report db (Envelope.ofChecks (checks.map (·.toJson)) started)
      return e.exitCode
    else
      sayAll (Check.report checks)
      return if checks.all (·.isOk) then 0 else 1

def run (token : String) (path database : Path) (settings : Settings) (json : Bool) :
    Act W Nat := do
  let started ← Act.observe db.now
  reporting db .run started json (Run.runFile db settings files token path database) fun r ↦ do
    if json then let _ ← report db (Envelope.ofRun r.toJson started)
    else sayAll (← Act.ofExcept (r.summary settings.dryRun))
    return if r.status = .succeeded then 0 else 1

def usageLine : Option Command → String
  | none => "Usage: cli [OPTIONS] COMMAND [ARGS]..."
  | some c => s!"Usage: cli {c.name} [OPTIONS] {argumentOf c}"

def versionLine : String := "sqlrev, version 0.1.0"

def perform (token : String) : Request → Act W Nat
  | .version => do
    Act.write (versionLine ++ "\n")
    return 0
  | .help command => do
    Act.write (usageLine command ++ "\n")
    return 0
  | .split path encoding json => split db files path encoding json
  | .check paths encoding json => check db files paths encoding json
  | .run path database settings json => run db files token path database settings json

def helpCommand : Option Command → String
  | none => "cli --help"
  | some c => s!"cli {c.name} --help"

def usageText (command : Option Command) (error : UsageError) : String :=
  let line := s!"Error: {error.message}\n"
  if error.isBare then line
  else s!"{usageLine command}\nTry '{helpCommand command}' for help.\n\n{line}"

structure Ending where
  exitCode : Nat
  output : String := ""
  errorOutput : String := ""
  calls : List Call := []
  failure : Option Failure := none

/-- Runs the program on the words of a command line. How it ends on an interrupt from the keyboard,
at the end of its input or when its output is a broken pipe is left out. -/
def program (token : String) (words : List String) (world : W) : Ending :=
  match readProgram files words with
  | .error (.usage command e) =>
    let shown := Console.trimLines (Console.withoutSequences (usageText command e).toList)
    { exitCode := 2, errorOutput := String.ofList shown }
  | .error (.failure e) => { exitCode := 1, failure := some e }
  | .ok request =>
    match perform db files token request { world } with
    | .ok code s => { exitCode := code, output := s.output, calls := s.calls }
    | .error e s => { exitCode := 1, output := s.output, calls := s.calls, failure := some e }

end RevisionScript.CommandLine
