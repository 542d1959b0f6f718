import RevisionScript.CommandLine.Options
import RevisionScript.Envelope
import RevisionScript.File.Revision
import RevisionScript.Run.Record

namespace RevisionScript.CommandLine

inductive Request
  | version
  | help (command : Option Command)
  | split (path : Path) (encoding : String) (json : Bool)
  | check (paths : List Path) (encoding : String) (json : Bool)
  | run (path database : Path) (settings : Settings) (json : Bool)
  deriving DecidableEq, Repr

inductive Refusal
  | usage (command : Option Command) (error : UsageError)
  | failure (failure : Failure)
  deriving DecidableEq, Repr

def helpRule : OptionRule := ⟨["--help"], false⟩

def versionRule : OptionRule := ⟨["--version"], false⟩

def encodingRule : OptionRule := ⟨["--encoding"], true⟩

def jsonRule : OptionRule := ⟨["--json"], false⟩

def databaseRule : OptionRule := ⟨["--database", "-d"], true⟩

def dryRunRule : OptionRule := ⟨["--dry-run"], false⟩

def continueRule : OptionRule := ⟨["--continue-on-error"], false⟩

def rulesOf : Command → List OptionRule
  | .split => [encodingRule, jsonRule, helpRule]
  | .check => [encodingRule, jsonRule, helpRule]
  | .run => [databaseRule, dryRunRule, continueRule, encodingRule, jsonRule, helpRule]

def argumentOf : Command → String
  | .check => "PATHS..."
  | _ => "PATH"

def readPath (text : String) : Except Refusal Path :=
  if text.toList.contains '\x00' then
    .error (.failure .nullInPath)
  else .ok (.ofString text)

/-- A database may be missing, but it is no directory. The empty text names nothing. -/
def readDatabase (files : Files) (text : String) : Except Refusal Path := do
  let path ← readPath text
  match files path with
  | .ok (.directory _) =>
    if text = "" then return path
    else throw (.usage (some .run) (.isDirectory databaseRule.names text))
  | _ => return path

def encodingOf (w : Words) : String := (w.value? encodingRule.key).getD "utf-8"

def onePath (command : Command) (w : Words) : Except Refusal (Path × List String) :=
  match w.plain with
  | [] => .error (.usage (some command) (.missingArgument (argumentOf command)))
  | text :: extra => do return (← readPath text, extra)

def noMore (command : Command) : List String → Except Refusal Unit
  | [] => .ok ()
  | extra => .error (.usage (some command) (.unexpected extra))

def readSplit (w : Words) : Except Refusal Request := do
  let (path, extra) ← onePath .split w
  noMore .split extra
  return .split path (encodingOf w) (w.has jsonRule.key)

def readCheck (w : Words) : Except Refusal Request := do
  if w.plain.isEmpty then
    throw (.usage (some .check) (.missingArgument (argumentOf .check)))
  let paths ← w.plain.mapM readPath
  return .check paths (encodingOf w) (w.has jsonRule.key)

/-- A database that is given is looked at before the path, a missing one is missed after it. -/
def readRun (files : Files) (w : Words) : Except Refusal Request := do
  let given ← (w.value? databaseRule.key).mapM (readDatabase files)
  let (path, extra) ← onePath .run w
  match given with
  | none => throw (.usage (some .run) (.missingOption databaseRule.names))
  | some database =>
    noMore .run extra
    let json := w.has jsonRule.key
    let settings : Settings := {
      dryRun := w.has dryRunRule.key
      stopOnError := !w.has continueRule.key
      showProgress := !json
      encoding := encodingOf w }
    return .run path database settings json

def readCommand (files : Files) (command : Command) (words : List String) :
    Except Refusal Request := do
  let w ← (Words.read (rulesOf command) false words).mapError (.usage (some command))
  if w.has helpRule.key then return .help (some command)
  match command with
  | .split => readSplit w
  | .check => readCheck w
  | .run => readRun files w

def programRules : List OptionRule := [versionRule, helpRule]

def programRequest? (w : Words) : Option Request :=
  w.given.head?.map fun g ↦ if g.key = versionRule.key then .version else .help none

/-- A command may stand after two dashes; a name there that looks like an option is read as
one. -/
def readProgram (files : Files) (words : List String) : Except Refusal Request := do
  let w ← (Words.read programRules true words).mapError (.usage none)
  if let some request := programRequest? w then return request
  match w.plain with
  | [] => throw (.usage none .nothingGiven)
  | name :: rest =>
    match Command.all.find? (·.name == name) with
    | some command => readCommand files command rest
    | none =>
      let w ← (Words.read programRules true (name :: rest)).mapError (.usage none)
      if let some request := programRequest? w then return request
      let similar := Similarity.closest name (Command.all.map (·.name))
      throw (.usage none (.noSuchCommand name similar))

end RevisionScript.CommandLine
