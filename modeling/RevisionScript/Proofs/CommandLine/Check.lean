import RevisionScript.File.Tree
import RevisionScript.Proofs.CommandLine.Ending
import RevisionScript.Proofs.CommandLine.Envelope
import RevisionScript.Proofs.Report.Check
import RevisionScript.Run.Rehearsal

namespace RevisionScript

theorem Envelope.orText_string {s : String} (h : s ≠ "") (default : String) :
    orText default (.string s) = .string s := by
  unfold orText
  rw [if_pos (by simpa [Json.isTruthy] using h)]

namespace Check

open Act CommandLine

variable {W : Type} {files : Files} {encoding : String} {paths : List Path} {checks : List Check}
  {c : Check}

def rejection (c : Check) : ErrorEntry where
  code := .ofString? c.errorCode
  message := .ofString? c.errorMessage
  path := .string c.path.text

def envelope (checks : List Check) (milliseconds : Int) : Envelope where
  command := .check
  data := some (.object [("revisions", .list (checks.map (·.toJson)))])
  milliseconds
  errors := (checks.filter (!·.isOk)).map (·.rejection)

def exitCode (checks : List Check) : Nat := if ∀ c ∈ checks, c.isOk then 0 else 1

/-- What failed has a code and a message, so that an envelope puts nothing in their place. -/
theorem Reports.failureEntry_eq (h : c.Reports files encoding) :
    c.failureEntry = if c.isOk then none else some c.rejection := by
  unfold failureEntry
  cases h with
  | accepted => rfl
  | rejected hload hcode =>
    obtain ⟨code, hcode', hne, hmessage⟩ := Files.exists_code_of_load_eq_error hload
    rw [hcode] at hcode'
    cases hcode'
    simp only [rejection, Json.ofString?, Option.elim, Envelope.orText_string hne,
      Envelope.orText_string hmessage]

theorem filterMap_failureEntry (h : ∀ c ∈ checks, c.Reports files encoding) :
    checks.filterMap (·.failureEntry) = (checks.filter (!·.isOk)).map (·.rejection) := by
  induction checks with
  | nil => rfl
  | cons c checks ih =>
    obtain ⟨hc, hchecks⟩ := List.forall_mem_cons.1 h
    rw [List.filterMap_cons, hc.failureEntry_eq, ih hchecks]
    cases hok : c.isOk <;> simp [hok]

theorem exitCode_eq_zero_iff : exitCode checks = 0 ↔ ∀ c ∈ checks, c.isOk := by
  simp [exitCode]

theorem ofChecks_toJson (h : ∀ c ∈ checks, c.Reports files encoding) (started ended : Instant) :
    Envelope.ofChecks (checks.map (·.toJson)) started ended =
      (millisecondsBetween started ended).map (envelope checks) := by
  unfold Envelope.ofChecks
  rw [Envelope.mapM_entryOfCheck_toJson]
  cases millisecondsBetween started ended with
  | error e => rfl
  | ok ms =>
    have herrors : (checks.map (·.failureEntry)).filterMap id =
        (checks.filter (!·.isOk)).map (·.rejection) := by
      rw [List.filterMap_map]
      exact filterMap_failureEntry h
    simp only [bind, Except.bind, herrors]
    rfl

theorem exitCode_envelope (checks : List Check) (ms : Int) :
    (envelope checks ms).exitCode = exitCode checks := by
  have herrors : (envelope checks ms).errors.isEmpty ↔ ∀ c ∈ checks, c.isOk := by
    simp [envelope]
  unfold Envelope.exitCode exitCode
  simp only [herrors]

section

variable (h : all files encoding paths = .ok checks) (db : Database W) (s : Session W)
include h

theorem reply_check_json :
    reply (check db files paths encoding true) s =
      (millisecondsBetween (db.now s.world) (db.now s.world)).map fun _ ↦ exitCode checks := by
  unfold check
  rw [reply_bind_observe, reply_reporting_of_ok ((reply_ofExcept ..).trans h), final_ofExcept]
  simp only [if_true]
  rw [reply_bind_pure, reply_report, ofChecks_toJson (all_eq_ok_iff.1 h).2]
  cases millisecondsBetween (db.now s.world) (db.now s.world) with
  | error e => rfl
  | ok ms => exact congrArg Except.ok (exitCode_envelope checks ms)

theorem reply_check_console :
    reply (check db files paths encoding false) s =
      (reply (sayAll (report checks)) s).map fun _ ↦ exitCode checks := by
  unfold check
  rw [reply_bind_observe, reply_reporting_of_ok ((reply_ofExcept ..).trans h), final_ofExcept]
  simp only [Bool.false_eq_true, if_false]
  rw [reply_bind_pure]
  simp only [exitCode, List.all_eq_true]

/-- A check tells of each file found what reading it gives, in the order of the arguments, and its
envelope and its messages agree on what has failed. -/
theorem reports_of_all :
    files.collect paths = .ok (checks.map (·.path)) ∧
      (∀ c ∈ checks, c.Reports files encoding ∧ c.isOk = (files.load c.path encoding).isOk) ∧
      (∀ ps qs cs, all files encoding (ps ++ qs) = .ok cs ↔
        ∃ xs ys, all files encoding ps = .ok xs ∧ all files encoding qs = .ok ys ∧ cs = xs ++ ys) ∧
      (∀ started ended, Envelope.ofChecks (checks.map (·.toJson)) started ended =
        (millisecondsBetween started ended).map (envelope checks)) ∧
      (∀ ms, (envelope checks ms).exitCode = exitCode checks) ∧
      (exitCode checks = 0 ↔ ∀ c ∈ checks, c.isOk) ∧
      reply (check db files paths encoding true) s =
        ((millisecondsBetween (db.now s.world) (db.now s.world)).map fun _ ↦ exitCode checks) ∧
      reply (check db files paths encoding false) s =
        ((reply (sayAll (report checks)) s).map fun _ ↦ exitCode checks) := by
  obtain ⟨hfound, hreports⟩ := all_eq_ok_iff.1 h
  exact ⟨hfound, fun c hc ↦ ⟨hreports c hc, (hreports c hc).isOk_eq⟩,
    fun _ _ _ ↦ all_append_eq_ok_iff, ofChecks_toJson hreports, exitCode_envelope checks,
    exitCode_eq_zero_iff, reply_check_json h db s, reply_check_console h db s⟩

end

/-- A directory with a revision and a file that is none, then a path with nothing there. -/
theorem reports_of_all_of_mixed :
    let files : Files := Tree.files (.directory [("d", .directory [
      ("b.sql", .file "begin;".toUTF8.data.toList),
      ("a.sql", .file "select 1;select 2".toUTF8.data.toList), ("c.txt", .file [])])])
    let paths : List Path := [.ofString "d", .ofString "e.sql"]
    let checks : List Check := [
      { path := .ofString "d/a.sql", statementCount := 2 },
      { path := .ofString "d/b.sql", errorCode := some "reserved_command",
        errorMessage := some "BEGIN command is not supported in a revision" },
      { path := .ofString "e.sql", errorCode := some "revision_not_found",
        errorMessage := some "Revision file not found: e.sql" }]
    all files "utf-8" paths = .ok checks ∧
      files.collect paths = .ok (["d/a.sql", "d/b.sql", "e.sql"].map Path.ofString) ∧
      (Envelope.ofChecks (checks.map (·.toJson)) 0 0).map (·.errors) = .ok [
        { code := .string "reserved_command",
          message := .string "BEGIN command is not supported in a revision",
          path := .string "d/b.sql" },
        { code := .string "revision_not_found",
          message := .string "Revision file not found: e.sql", path := .string "e.sql" }] ∧
      reply (check Rehearsal.database files paths "utf-8" true) { world := {} } = .ok 1 ∧
      reply (check Rehearsal.database files paths "utf-8" false) { world := {} } = .ok 1 := by
  intro files paths checks
  let names := ["b.sql", "a.sql", "c.txt"]
  have hdirectory : files (.ofString "d") = .ok (.directory names) := by decide +kernel
  have hnames : names.filterM (Files.isRevisionIn files (.ofString "d")) =
      .ok ["b.sql", "a.sql"] := by
    decide +kernel
  have hsort : (["b.sql", "a.sql"].mergeSort fun a b ↦ decide (a ≤ b)) = ["a.sql", "b.sql"] := by
    simp [List.mergeSort, List.MergeSort.Internal.splitInTwo]
  have hexpand : files.expand (.ofString "d") = .ok (["d/a.sql", "d/b.sql"].map Path.ofString) := by
    simp only [Files.expand, Files.revisionsIn, hdirectory, hnames, bind, Except.bind, hsort]
    decide +kernel
  have hmissing : files.expand (.ofString "e.sql") = .ok [.ofString "e.sql"] := by decide +kernel
  have hparts : paths.mapM (Files.expand files) =
      .ok [["d/a.sql", "d/b.sql"].map Path.ofString, [.ofString "e.sql"]] := by
    simp only [paths, List.mapM_cons, hexpand, hmissing]
    rfl
  have hall : all files "utf-8" paths = .ok checks := by
    unfold all
    rw [Files.collect_eq_ok_iff.2 ⟨_, hparts, rfl⟩]
    decide +kernel
  obtain ⟨hfound, -, -, henvelope, -, -, hjson, hconsole⟩ :=
    reports_of_all hall Rehearsal.database { world := {} }
  have hclock : millisecondsBetween 0 0 = .ok 0 := by decide +kernel
  refine ⟨hall, hfound, ?_, ?_, ?_⟩
  · rw [henvelope, hclock]
    rfl
  · rw [hjson]
    decide +kernel
  · rw [hconsole]
    decide +kernel

end Check

end RevisionScript
