import RevisionScript.Proofs.CommandLine.JsonMode
import RevisionScript.Proofs.Run.Containment
import RevisionScript.Proofs.Run.Rehearsal

namespace RevisionScript

namespace Envelope

variable {started ended : Instant}

theorem exists_ofRun (hclock : (millisecondsBetween started ended).isOk) (r : RunResult) :
    ∃ e, ofRun r.toJson started ended = .ok e := by
  obtain ⟨ms, hms⟩ := exists_of_isOk hclock
  unfold ofRun
  rw [entriesOfRun_toJson, hms]
  exact ⟨_, rfl⟩

theorem exists_ofFailure (hclock : (millisecondsBetween started ended).isOk) (command : Command)
    (failure : Failure) : ∃ e, ofFailure command failure started ended = .ok e := by
  obtain ⟨ms, hms⟩ := exists_of_isOk hclock
  unfold ofFailure
  rw [hms]
  exact ⟨_, rfl⟩

end Envelope

namespace CommandLine

open Act

variable {W : Type} {db : Database W} {files : Files} {token : String} {words : List String} {w : W}
  {path database : Path} {settings : Settings} {s : Session W}

/-- A run in JSON mode ends when what it runs is contained and the time passed is finite. -/
theorem reply_run_isOk (files : Files) (token : String) (path database : Path)
    (hclock : (millisecondsBetween (db.now s.world) (db.now
      (final (Run.runFile db settings files token path database) s).world)).isOk)
    (h : Run.Contained (reply (Run.runFile db settings files token path database) s)) :
    ∃ code, reply (run db files token path database settings true) s = .ok code := by
  have happly : run db files token path database settings true s =
      reporting db .run (db.now s.world) true
        (Run.runFile db settings files token path database) _ s :=
    bind_observe
  rw [reply, happly, reporting_apply]
  obtain ⟨result, hreply⟩ | ⟨e, hreply⟩ := h
  · obtain ⟨envelope, hmake⟩ := Envelope.exists_ofRun hclock result
    rw [hreply]
    exact ⟨_, (bind_of_ok _ (reply_report.trans hmake)).1⟩
  · obtain ⟨envelope, hmake⟩ := Envelope.exists_ofFailure hclock .run (.revision e)
    rw [hreply]
    exact ⟨1, (bind_of_ok _ (reply_report.trans hmake)).1⟩

theorem failure_eq_none_iff {request : Request} (hread : readProgram files words = .ok request) :
    (program db files token words w).failure = none ↔
      ∃ code, reply (perform db files token request) { world := w } = .ok code := by
  unfold program reply
  rw [hread]
  cases hperform : perform db files token request { world := w } <;> simp [hperform]

/-- When a driver fails as drivers do, the failure of a run is one in the terms of revisions unless
a call that opens or ends the transaction fails; and only then a run in JSON mode ends without its
envelope. -/
theorem run_contained_iff {revision : Revision}
    (hload : files.load path settings.encoding = .ok revision)
    (hquiet : settings.showProgress = false) (hlaw : db.Lawful w)
    (hdriver : db.FailsWith (fun e ↦ ∃ name message, e = .driver name message) w)
    (hclose : ∀ calls, (db.close (db.after calls w)).1 = .ok ()) (token : String)
    (database : Path) :
    let act := Run.runFile db settings files token path database
    let calls := (final act { world := w }).calls
    (Run.Contained (reply act { world := w }) ↔ db.Endures calls w) ∧
      ∀ words, readProgram files words = .ok (.run path database settings true) →
        ((program db files token words w).failure = none ↔ db.Endures calls w) := by
  intro act calls
  have hcontained : Run.Contained (reply act { world := w }) ↔ db.Endures calls w :=
    (Run.fileCourse_runFile files token path database w).contained_iff hload hquiet hlaw hdriver
      hclose
  refine ⟨hcontained, fun words hread ↦ ?_⟩
  rw [failure_eq_none_iff hread]
  constructor
  · rintro ⟨code, hcode⟩
    obtain ⟨text, -, -, hreply⟩ := run_eq_ok (eq_ok_iff.2 ⟨hcode, rfl⟩)
    refine hcontained.1 ?_
    obtain ⟨result, hreply, -⟩ | ⟨e, hreply, -⟩ := hreply
    · exact .inl ⟨result, hreply⟩
    · exact .inr ⟨e, hreply⟩
  · intro hendures
    refine reply_run_isOk files token path database ?_ (hcontained.2 hendures)
    have hdoes : Act.Does db act { world := w } _ := Run.does_runFile files token path database
    obtain ⟨cs, -, hworld, -⟩ := hdoes
    rw [hworld]
    exact hlaw.clock [] cs

/-- Nothing fails. -/
theorem run_contained_iff_of_rehearsal :
    let files : Files := fun _ ↦ .ok (.file "select 1;".toUTF8.toList)
    let settings : Settings := { showProgress := false }
    let act := Run.runFile Rehearsal.database settings files "" (.ofString "a.sql")
      (.ofString "a.db")
    let calls := (final act { world := {} }).calls
    Rehearsal.database.Lawful {} ∧
      Rehearsal.database.FailsWith (fun e ↦ ∃ name message, e = .driver name message) {} ∧
      (Run.Contained (reply act { world := {} }) ↔ Rehearsal.database.Endures calls {}) := by
  intro files settings
  have hload : files.load (.ofString "a.sql") settings.encoding = .ok ⟨["select 1"]⟩ := by
    decide +kernel
  have hlaw : Rehearsal.database.Lawful {} :=
    Rehearsal.lawful_of_outcomes_eq_nil rfl (by decide +kernel)
  have hdriver : Rehearsal.database.FailsWith
      (fun e ↦ ∃ name message, e = .driver name message) {} :=
    Rehearsal.FailsWith.database ⟨by simp, by simp, by simp, by simp, by simp⟩
  have h := run_contained_iff hload rfl hlaw hdriver (fun _ ↦ rfl) "" (.ofString "a.db")
  exact ⟨hlaw, hdriver, h.1⟩

/-- The failure of a commit is neither reported nor put in the terms of revisions. -/
theorem run_not_contained_of_commit :
    let files : Files := fun _ ↦ .ok (.file "select 1;".toUTF8.toList)
    let settings : Settings := { showProgress := false }
    let failure := Failure.driver "OperationalError" "database is locked"
    let world : Rehearsal := { commitFailure := some failure }
    let act := Run.runFile Rehearsal.database settings files "" (.ofString "a.sql")
      (.ofString "a.db")
    let words := ["run", "--json", "-d", "a.db", "a.sql"]
    files.load (.ofString "a.sql") settings.encoding = .ok ⟨["select 1"]⟩ ∧
      Rehearsal.database.FailsWith (fun e ↦ ∃ name message, e = .driver name message) world ∧
      ¬ Run.Contained (reply act { world := world }) ∧
      (program Rehearsal.database files "" words world).failure = some failure := by
  intro files settings failure world act words
  have hreply : reply act { world := world } = .error failure := by decide +kernel
  refine ⟨by decide +kernel, ?_, ?_, by decide +kernel⟩
  · refine Rehearsal.FailsWith.database ⟨by simp [world], by simp [world], by simp [world], ?_,
      by simp [world]⟩
    rintro e he
    cases he
    exact ⟨_, _, rfl⟩
  · rw [hreply]
    simp [Run.contained_error_iff, failure]

end CommandLine

end RevisionScript
