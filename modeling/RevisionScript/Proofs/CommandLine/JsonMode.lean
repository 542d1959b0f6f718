import RevisionScript.Proofs.CommandLine.Ending
import RevisionScript.Proofs.CommandLine.Envelope
import RevisionScript.Proofs.Run.Silent
import RevisionScript.Run.Rehearsal

namespace RevisionScript.CommandLine

open Act

def Request.envelopeCommand? : Request → Option Command
  | .split _ _ true => some .split
  | .check _ _ true => some .check
  | .run _ _ _ true => some .run
  | _ => none

variable {W : Type} {db : Database W} {files : Files} {token : String} {words : List String}
  {s s' : Session W} {code : Nat}

/-- A request fails in the terms of revisions before its command has any data. -/
def Stops (db : Database W) (files : Files) (token : String) (w : W) : Request → Prop
  | .split path encoding _ => ∃ f, files.load path encoding = .error (.revision f)
  | .check paths encoding _ => ∃ f, Check.all files encoding paths = .error (.revision f)
  | .run path database settings _ =>
    ∃ f, reply (Run.runFile db settings files token path database) { world := w } =
      .error (.revision f)
  | _ => False

theorem showProgress_of_readRun {w : Words} {path database : Path} {settings : Settings}
    {json : Bool}
    (h : readRun files w = .ok (.run path database settings json)) :
    settings.showProgress = !json := by
  obtain ⟨given, -, h⟩ := except_bind_eq_ok h
  obtain ⟨⟨path', extra⟩, -, h⟩ := except_bind_eq_ok h
  cases given with
  | none => cases h
  | some database' =>
    obtain ⟨⟨⟩, -, h⟩ := except_bind_eq_ok h
    cases h
    rfl

theorem showProgress_of_readCommand {command : Command} {path database : Path} {settings : Settings}
    {json : Bool} (h : readCommand files command words = .ok (.run path database settings json)) :
    settings.showProgress = !json := by
  obtain ⟨w, -, h⟩ := except_bind_eq_ok h
  split at h
  · cases h
  cases command with
  | split =>
    obtain ⟨⟨path', extra⟩, -, h⟩ := except_bind_eq_ok h
    obtain ⟨⟨⟩, -, h⟩ := except_bind_eq_ok h
    cases h
  | check =>
    change readCheck w = _ at h
    unfold readCheck at h
    dsimp only at h
    split at h
    · cases h
    · obtain ⟨paths, -, h⟩ := except_bind_eq_ok h
      cases h
  | run => exact showProgress_of_readRun h

theorem programRequest?_ne_run {w : Words} {path database : Path} {settings : Settings}
    {json : Bool} :
    programRequest? w ≠ some (.run path database settings json) := by
  unfold programRequest?
  cases w.given.head? with
  | none => simp
  | some g =>
    rw [Option.map_some, ne_eq, Option.some.injEq]
    split <;> simp

/-- In JSON mode no progress is shown. -/
theorem showProgress_of_readProgram {path database : Path} {settings : Settings} {json : Bool}
    (h : readProgram files words = .ok (.run path database settings json)) :
    settings.showProgress = !json := by
  obtain ⟨w, -, h⟩ := except_bind_eq_ok h
  split at h
  · next request hrequest =>
    cases h
    exact absurd hrequest programRequest?_ne_run
  split at h
  · cases h
  split at h
  · exact showProgress_of_readCommand h
  · obtain ⟨w', -, h⟩ := except_bind_eq_ok h
    split at h
    · next request hrequest =>
      cases h
      exact absurd hrequest programRequest?_ne_run
    · cases h

theorem reporting_tells {α : Type} {command : Command} {started : Instant} {act : Act W α}
    {next : α → Act W Nat} (hsilent : Silent act)
    (hnext : ∀ a s₁, next a s₁ = .ok code s' →
      ∃ e : Envelope, s'.output = s₁.output ++ (e.text ++ "\n") ∧ e.Tells command code False)
    (h : reporting db command started true act next s = .ok code s') :
    ∃ e : Envelope, s'.output = s.output ++ (e.text ++ "\n") ∧
      e.Tells command code (∃ f, reply act s = .error (.revision f)) := by
  obtain ⟨a, s₁, hact, hrest⟩ | ⟨f, s₁, hact, hfail⟩ := reporting_eq_ok h
  · obtain ⟨hreply, rfl⟩ := eq_ok_iff.1 hact
    obtain ⟨e, houtput, htells⟩ := hnext a _ hrest
    refine ⟨e, by rw [houtput, hsilent s], { htells with data := htells.data.trans ?_ }⟩
    simp [hreply]
  · obtain ⟨hreply, rfl⟩ := eq_error_iff.1 hact
    obtain ⟨rfl, text, rfl, hshown⟩ := reportFailure_eq_ok hfail
    cases hshown with
    | @envelope e hmake =>
      have htells := Envelope.tells_ofFailure hmake
      refine ⟨e, by simp only [hsilent s], { htells with data := htells.data.trans ?_ }⟩
      simp [hreply]

theorem report_tells {make : Instant → Except Failure Envelope} {command : Command}
    {e : Envelope} (htells : ∀ e, make (db.now s.world) = .ok e → e.Tells command code False)
    (h : report db make s = .ok e s') :
    s'.output = s.output ++ (e.text ++ "\n") ∧ e.Tells command code False := by
  obtain ⟨hmake, rfl⟩ := report_eq_ok h
  exact ⟨rfl, htells e hmake⟩

theorem split_tells {path : Path} {encoding : String}
    (h : split db files path encoding true s = .ok code s') :
    ∃ e : Envelope, s'.output = s.output ++ (e.text ++ "\n") ∧
      e.Tells .split code (∃ f, files.load path encoding = .error (.revision f)) := by
  unfold split at h
  rw [bind_observe] at h
  have htells := reporting_tells (silent_ofExcept _) (fun revision s₁ hnext ↦ ?_) h
  · rwa [reply_ofExcept] at htells
  · obtain ⟨e, s₂, hreport, hpure⟩ := exists_of_bind_eq_ok hnext
    cases hpure
    exact ⟨e, report_tells (fun _ ↦ Envelope.tells_ofSplit) hreport⟩

theorem check_tells {paths : List Path} {encoding : String}
    (h : check db files paths encoding true s = .ok code s') :
    ∃ e : Envelope, s'.output = s.output ++ (e.text ++ "\n") ∧
      e.Tells .check code (∃ f, Check.all files encoding paths = .error (.revision f)) := by
  unfold check at h
  rw [bind_observe] at h
  have htells := reporting_tells (silent_ofExcept _) (fun checks s₁ hnext ↦ ?_) h
  · rwa [reply_ofExcept] at htells
  · obtain ⟨e, s₂, hreport, hpure⟩ := exists_of_bind_eq_ok hnext
    cases hpure
    obtain ⟨hmake, rfl⟩ := report_eq_ok hreport
    exact ⟨e, rfl, Envelope.tells_ofChecks hmake⟩

theorem run_tells {path database : Path} {settings : Settings}
    (hquiet : settings.showProgress = false)
    (h : run db files token path database settings true s = .ok code s') :
    ∃ e : Envelope, s'.output = s.output ++ (e.text ++ "\n") ∧
      e.Tells .run code (∃ f, reply (Run.runFile db settings files token path database) s =
        .error (.revision f)) := by
  unfold run at h
  rw [bind_observe] at h
  refine reporting_tells (Run.silent_runFile hquiet files token path database)
    (fun result s₁ hnext ↦ ?_) h
  obtain ⟨e, s₂, hreport, hpure⟩ := exists_of_bind_eq_ok hnext
  cases hpure
  exact ⟨e, report_tells (fun _ ↦ Envelope.tells_ofRun) hreport⟩

/-- A command in JSON mode writes its envelope and nothing else. -/
theorem perform_tells {request : Request} {command : Command} {w : W}
    (hcommand : request.envelopeCommand? = some command)
    (hquiet : ∀ path database settings, request = .run path database settings true →
      settings.showProgress = false)
    (h : perform db files token request { world := w } = .ok code s') :
    ∃ e : Envelope, s'.output = e.text ++ "\n" ∧
      e.Tells command code (Stops db files token w request) := by
  cases request with
  | version => cases hcommand
  | help => cases hcommand
  | split path encoding json =>
    cases json with
    | false => cases hcommand
    | true =>
      cases hcommand
      simpa [Stops] using split_tells h
  | check paths encoding json =>
    cases json with
    | false => cases hcommand
    | true =>
      cases hcommand
      simpa [Stops] using check_tells h
  | run path database settings json =>
    cases json with
    | false => cases hcommand
    | true =>
      cases hcommand
      simpa [Stops] using run_tells (hquiet path database settings rfl) h

/-- A command in JSON mode that ends has written one JSON document, which agrees with the exit
status. -/
theorem ending_of_json {request : Request} {command : Command} {w : W}
    (hread : readProgram files words = .ok request)
    (hcommand : request.envelopeCommand? = some command)
    (hended : (program db files token words w).failure = none) :
    let ending := program db files token words w
    ∃ document : Json, ending.output = document.pretty ++ "\n" ∧
      Json.read ending.output = some document ∧
      document.field? "command" = some (.string command.name) ∧
      (document.field? "meta").bind (Json.field? "exitCode") = some (.int ending.exitCode) ∧
      (document.field? "status" = some (.string "error") ↔ ending.exitCode ≠ 0) ∧
      (∃ errors, document.field? "errors" = some (.list errors) ∧
        (errors ≠ [] ↔ ending.exitCode ≠ 0)) ∧
      (document.field? "data" = some .null ↔ Stops db files token w request) := by
  intro ending
  obtain ⟨code, s', hperform, hending⟩ := program_of_request hread hended
  have hquiet : ∀ path database settings, request = .run path database settings true →
      settings.showProgress = false := by
    rintro path database settings rfl
    exact showProgress_of_readProgram hread
  obtain ⟨e, houtput, htells⟩ := perform_tells hcommand hquiet hperform
  have hwritten : ending.output = e.text ++ "\n" := (congrArg Ending.output hending).trans houtput
  have hexit : ending.exitCode = code := congrArg Ending.exitCode hending
  refine ⟨e.toJson, hwritten, ?_⟩
  rw [hwritten, hexit]
  exact htells.read

/-- There is no revision to run. -/
theorem ending_of_json_of_missing :
    let files : Files := fun _ ↦ .error .missing
    let words := ["run", "--json", "-d", "a.db", "a.sql"]
    let settings : Settings := { showProgress := false }
    let request := Request.run (.ofString "a.sql") (.ofString "a.db") settings true
    let ending := program Rehearsal.database files "" words {}
    ending.failure = none ∧ ∃ document : Json, ending.output = document.pretty ++ "\n" ∧
      Json.read ending.output = some document ∧
      document.field? "command" = some (.string "run") ∧
      (document.field? "meta").bind (Json.field? "exitCode") = some (.int ending.exitCode) ∧
      (document.field? "status" = some (.string "error") ↔ ending.exitCode ≠ 0) ∧
      (∃ errors, document.field? "errors" = some (.list errors) ∧
        (errors ≠ [] ↔ ending.exitCode ≠ 0)) ∧
      (document.field? "data" = some .null ↔ Stops Rehearsal.database files "" {} request) := by
  intro files words settings request
  have hread : readProgram files words = .ok request := by decide +kernel
  have hended : (program Rehearsal.database files "" words {}).failure = none := by decide +kernel
  exact ⟨hended, ending_of_json hread rfl hended⟩

end RevisionScript.CommandLine
