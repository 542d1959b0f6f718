import RevisionScript.Proofs.CommandLine.Ending
import RevisionScript.Proofs.Run.Course
import RevisionScript.Proofs.Run.Rehearsal

namespace RevisionScript

namespace RunResult

theorem undone_mem_summary_iff {r : RunResult} {dryRun : Bool} {lines : List String}
    (h : r.summary dryRun = .ok lines) :
    "  Changes were rolled back" ∈ lines ↔ dryRun = false ∧ r.status ≠ .succeeded := by
  unfold summary at h
  cases dryRun with
  | true =>
    cases h
    simp only [List.mem_singleton, Bool.true_eq_false, false_and, iff_false]
    intro hline
    have hhead := congrArg (·.toList.head?) hline
    simp [toString] at hhead
  | false =>
    split at h
    · next htrue => cases htrue
    split at h
    · cases h
    split at h
    · next hstatus =>
      cases h
      simp only [hstatus, List.mem_singleton, ne_eq, not_true_eq_false, and_false, iff_false]
      intro hline
      have hhead := congrArg (·.toList.head?) hline
      simp [toString] at hhead
    · next hstatus =>
      cases h
      simp [hstatus]

end RunResult

namespace CommandLine

open Act

variable {W : Type} {db : Database W} {files : Files} {token : String} {words : List String} {w : W}
  {path database : Path} {settings : Settings} {json : Bool}

theorem undone_ne_failureLine (e : Failure) : "  Changes were rolled back" ≠ failureLine e := by
  unfold failureLine
  generalize Markup.escaped e.message = reason
  intro hline
  have hhead := congrArg (·.toList.head?) hline
  simp [toString] at hhead

theorem undone_mem_closingLines_iff {dryRun : Bool} {result : Except Failure RunResult}
    {lines : List String} (h : closingLines dryRun result = .ok lines) :
    "  Changes were rolled back" ∈ lines ↔
      dryRun = false ∧ ∃ r, result = .ok r ∧ r.status ≠ .succeeded := by
  cases result with
  | ok r => simpa using RunResult.undone_mem_summary_iff h
  | error e =>
    cases h
    simp [undone_ne_failureLine]

/-- When a driver never fails in the terms of revisions, the end of a run tells what has become of
the transaction. -/
theorem ending_of_run (hread : readProgram files words = .ok (.run path database settings json))
    (hforeign : db.FailsWith (fun e ↦ ∀ f, e ≠ .revision f) w)
    (hended : (program db files token words w).failure = none) :
    let ending := program db files token words w
    let act := Run.runFile db settings files token path database
    (settings.dryRun = false →
      (ending.exitCode = 0 ↔ (.commit, true) ∈ db.transcript ending.calls w)) ∧
    (settings.dryRun = true → .commit ∉ ending.calls) ∧
    (ending.exitCode = 1 → .commit ∉ ending.calls) ∧
    (json = false → ∃ lines texts,
      closingLines settings.dryRun (reply act { world := w }) = .ok lines ∧
      lines.mapM Console.message = .ok texts ∧
      ending.output = (final act { world := w }).output ++ String.join texts ∧
      ("  Changes were rolled back" ∈ lines ↔
        .rollback ∈ ending.calls ∧ settings.dryRun = false)) := by
  intro ending act
  obtain ⟨code, s', hperform, hending⟩ := program_of_request hread hended
  obtain ⟨text, rfl, hshown, hcode⟩ := run_eq_ok hperform
  have hrevision : ∀ e, reply act { world := w } = .error e → ∃ f, e = .revision f := by
    intro e he
    obtain ⟨result, hreply, -⟩ | ⟨f, hreply, -⟩ := hcode
    · cases he.symm.trans hreply
    · cases he.symm.trans hreply
      exact ⟨f, rfl⟩
  have hzero : code = 0 ↔ ∃ r, reply act { world := w } = .ok r ∧ r.status = .succeeded := by
    obtain ⟨result, hreply, rfl⟩ | ⟨f, hreply, rfl⟩ := hcode
    · simp [act, hreply]
    · simp [act, hreply]
  have hsettled := (Run.fileCourse_runFile files token path database w).settled hforeign hrevision
  have hcalls : ending.calls = (final act { world := w }).calls := congrArg Ending.calls hending
  have hexit : ending.exitCode = code := congrArg Ending.exitCode hending
  have houtput : ending.output = (final act { world := w }).output ++ text :=
    congrArg Ending.output hending
  rw [hcalls, hexit, houtput]
  refine ⟨fun hdry ↦ ⟨fun h ↦ ?_, fun h ↦ ?_⟩, fun hdry h ↦ ?_, fun hone h ↦ ?_, ?_⟩
  · obtain ⟨r, hr, hstatus⟩ := hzero.1 h
    exact hsettled.commit hdry r hr hstatus
  · exact hzero.2 (hsettled.of_commit (Database.mem_of_mem_transcript h)).2
  · have hdry' := (hsettled.of_commit h).1
    rw [hdry] at hdry'
    cases hdry'
  · have hcode := hzero.2 (hsettled.of_commit h).2
    rw [hone] at hcode
    cases hcode
  · rintro rfl
    cases hshown with
    | messages hlines htexts =>
      refine ⟨_, _, hlines, htexts, rfl, ?_⟩
      rw [undone_mem_closingLines_iff hlines]
      constructor
      · rintro ⟨hdry, r, hr, hstatus⟩
        exact ⟨hsettled.rollback r hr hstatus, hdry⟩
      · rintro ⟨hrollback, hdry⟩
        exact ⟨hdry, hsettled.of_rollback hrollback hdry⟩

/-- The only statement fails. -/
theorem ending_of_run_of_rehearsal :
    let files : Files := fun _ ↦ .ok (.file "select 1;".toUTF8.toList)
    let failure := Failure.driver "OperationalError" "database is locked"
    let world : Rehearsal := { outcomes := [⟨0, .error failure⟩] }
    let ending := program Rehearsal.database files "" ["run", "a.sql", "-d", "a.db"] world
    let act := Run.runFile Rehearsal.database {} files "" (.ofString "a.sql") (.ofString "a.db")
    ending.failure = none ∧
      (ending.exitCode = 0 ↔
        (.commit, true) ∈ Rehearsal.database.transcript ending.calls world) ∧
      ∃ lines texts, closingLines false (reply act { world := world }) = .ok lines ∧
        lines.mapM Console.message = .ok texts ∧
        ending.output = (final act { world := world }).output ++ String.join texts ∧
        ("  Changes were rolled back" ∈ lines ↔ .rollback ∈ ending.calls ∧ false = false) := by
  intro files failure world
  have hread : readProgram files ["run", "a.sql", "-d", "a.db"] =
      .ok (.run (.ofString "a.sql") (.ofString "a.db") {} false) := by decide +kernel
  have hforeign : Rehearsal.database.FailsWith (fun e ↦ ∀ f, e ≠ .revision f) world := by
    refine Rehearsal.FailsWith.database ⟨by simp [world], by simp [world], fun o ho e he ↦ ?_,
      by simp [world], by simp [world]⟩
    simp only [world, List.mem_singleton] at ho
    rw [ho, Except.error.injEq] at he
    simp [← he, failure]
  have hended : (program Rehearsal.database files "" ["run", "a.sql", "-d", "a.db"] world).failure =
      none := by decide +kernel
  have h := ending_of_run hread hforeign hended
  exact ⟨hended, h.1 rfl, h.2.2.2 rfl⟩

end CommandLine

end RevisionScript
