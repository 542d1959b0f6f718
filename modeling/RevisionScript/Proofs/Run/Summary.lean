import RevisionScript.Proofs.Run.Attempt
import RevisionScript.Proofs.Run.Rehearsal

namespace RevisionScript

namespace Run

open Act

structure IsResult (index : Nat) (sql : String) (r : StatementResult) : Prop where
  index : r.index = index
  sql : r.sql = sql
  reason : r.status = .failed → ∃ message, r.errorMessage = some message

/-- The results of some statements, the first with the given index. Only a failure that stops the
run leaves statements without a result. -/
inductive Results (settings : Settings) : Nat → List String → List StatementResult → Prop
  | done (index : Nat) : Results settings index [] []
  | stopped {index : Nat} {sql : String} {r : StatementResult} (hr : IsResult index sql r)
      (hfailed : r.status = .failed) (hstop : settings.stopOnError = true) (rest : List String) :
      Results settings index (sql :: rest) [r]
  | goesOn {index : Nat} {sql : String} {r : StatementResult} {rest : List String}
      {rs : List StatementResult} (hr : IsResult index sql r)
      (hgo : settings.stopOnError = true → r.status ≠ .failed)
      (hrest : Results settings (index + 1) rest rs) :
      Results settings index (sql :: rest) (r :: rs)

variable {W : Type} {executor : Executor W} {settings : Settings} {index : Nat} {sql : String}
  {statements : List String} {w : W} {r : StatementResult} {rs : List StatementResult}

theorem isResult_of_resultOf {milliseconds : Except Failure Int} {reply : Except Failure Json}
    (h : resultOf index sql milliseconds reply = .ok r) : IsResult index sql r := by
  obtain ⟨ms, ⟨rows, rowsAffected, -, rfl⟩ | ⟨e, -, rfl⟩⟩ := exists_of_resultOf_eq_ok h
  · exact ⟨rfl, rfl, nofun⟩
  · exact ⟨rfl, rfl, fun _ ↦ ⟨_, rfl⟩⟩

theorem results_attempts (h : (attempts executor settings index statements w).mapM id = .ok rs) :
    Results settings index statements rs := by
  induction statements generalizing index w rs with
  | nil =>
    cases h
    exact .done index
  | cons sql rest ih =>
    cases hattempt : attempt executor settings index sql w with
    | error e =>
      rw [attempts_of_error hattempt] at h
      cases h
    | ok r =>
      have hr : IsResult index sql r := isResult_of_resultOf (performed_of_attempt hattempt)
      by_cases hstop : (r.status = .failed && settings.stopOnError) = true
      · rw [attempts_of_stop hattempt hstop] at h
        cases h
        rw [Bool.and_eq_true, decide_eq_true_eq] at hstop
        exact .stopped hr hstop.1 hstop.2 rest
      · rw [attempts_of_ok hattempt hstop, mapM_id_ok_cons] at h
        obtain ⟨rs', hrs', rfl⟩ := except_map_eq_ok h
        rw [Bool.and_eq_true, decide_eq_true_eq, not_and'] at hstop
        exact .goesOn hr hstop (ih hrs')

theorem results_mapIdx (settings : Settings) (index : Nat) (statements : List String) :
    Results settings index statements (statements.mapIdx fun i sql ↦
      { index := i + index, sql, status := .skipped }) := by
  induction statements generalizing index with
  | nil => exact .done index
  | cons sql rest ih =>
    have hnext (i : Nat) : ((i + 1 : Nat) : Int) + index = i + (index + 1 : Nat) := by omega
    rw [List.mapIdx_cons]
    simp only [hnext]
    exact .goesOn ⟨by simp, rfl, nofun⟩ nofun (ih (index + 1))

theorem addAll_skipAll (index : Nat) (statements : List String) :
    ({} : Tally).addAll index (skipAll statements) = { results := skipAll statements } := by
  apply Tally.addAll_of_unfailed
  intro r hr
  obtain ⟨i, hi, rfl⟩ := List.mem_mapIdx.1 hr
  exact nofun

theorem results_skipAll (settings : Settings) (statements : List String) :
    Results settings 1 statements (skipAll statements) := results_mapIdx settings 1 statements

namespace Results

theorem exists_isResult (h : Results settings index statements rs) {i : Nat}
    (hi : rs[i]? = some r) :
    ∃ sql, statements[i]? = some sql ∧ IsResult (index + i) sql r := by
  induction h generalizing i with
  | done => cases hi
  | stopped hr =>
    cases i with
    | zero =>
      cases hi
      exact ⟨_, rfl, hr⟩
    | succ => cases hi
  | goesOn hr _ _ ih =>
    cases i with
    | zero =>
      cases hi
      exact ⟨_, rfl, hr⟩
    | succ i =>
      obtain ⟨sql, hsql, hr'⟩ := ih hi
      rw [Nat.add_right_comm] at hr'
      exact ⟨sql, hsql, hr'⟩

theorem of_length_lt (h : Results settings index statements rs)
    (hlt : rs.length < statements.length) :
    settings.stopOnError = true ∧ ∃ r, rs.getLast? = some r ∧ r.status = .failed := by
  induction h with
  | done => cases hlt
  | stopped _ hfailed hstop => exact ⟨hstop, _, rfl, hfailed⟩
  | goesOn _ _ _ ih =>
    obtain ⟨hstop, r, hlast, hfailed⟩ := ih (Nat.lt_of_succ_lt_succ hlt)
    refine ⟨hstop, r, ?_, hfailed⟩
    rw [List.getLast?_cons, hlast]
    rfl

theorem unfailed_dropLast (h : Results settings index statements rs)
    (hstop : settings.stopOnError = true) : ∀ r ∈ rs.dropLast, r.status ≠ .failed := by
  induction h with
  | done | stopped => exact List.forall_mem_nil _
  | @goesOn _ _ r _ rs _ hgo _ ih =>
    cases rs with
    | nil => exact List.forall_mem_nil _
    | cons => exact List.forall_mem_cons.2 ⟨hgo hstop, ih⟩

end Results

theorem exists_results_of_run {s : Session W} {token : String} {revision : Revision}
    {result : RunResult} (h : reply (run executor settings token revision) s = .ok result) :
    ∃ rs ms, Results settings 1 revision.statements rs ∧
      result = .ofTally (runIdOf token) revision.size (({} : Tally).addAll 1 rs) ms := by
  cases hdry : settings.dryRun with
  | true =>
    have hgives : Gives executor.driver (run executor settings token revision) s _ _ :=
      gives_run_of_dry hdry token revision
    rw [hgives.reply] at h
    obtain ⟨ms, -, rfl⟩ := except_map_eq_ok h
    rw [← addAll_skipAll 1]
    exact ⟨_, ms, results_skipAll settings revision.statements, rfl⟩
  | false =>
    have hgives : Gives executor.driver (run executor settings token revision) s _ _ :=
      gives_run_of_not_dry executor.drivenBy_driver hdry token revision rfl
    rw [hgives.reply] at h
    obtain ⟨rs, hrs, h⟩ := except_bind_eq_ok h
    obtain ⟨ms, -, rfl⟩ := except_map_eq_ok h
    exact ⟨rs, ms, results_attempts hrs, rfl⟩

structure Summarized (settings : Settings) (statements : List String) (result : RunResult) :
    Prop where
  total : result.total = statements.length
  successful : result.successful = result.statements.countP (·.status = .succeeded)
  unfailed : (∀ r ∈ result.statements, r.status ≠ .failed) →
    result.failedIndex = none ∧ result.errorMessage = none ∧ result.status = .succeeded
  failed : ∀ before r later, result.statements = before ++ r :: later →
    (∀ q ∈ before, q.status ≠ .failed) → r.status = .failed → ∃ message,
      r.errorMessage = some message ∧ result.failedIndex = some r.index ∧
      result.errorMessage = some s!"Statement {r.index} failed: {message}" ∧
      result.status = if ∀ q ∈ result.statements, q.status ≠ .succeeded then .failed else .partly
  entries : ∀ (i : Nat) r, result.statements[i]? = some r →
    r.index = i + 1 ∧ statements[i]? = some r.sql
  short : result.statements.length < statements.length →
    settings.stopOnError = true ∧ ∃ r, result.statements.getLast? = some r ∧ r.status = .failed
  stopped : settings.stopOnError = true → ∀ r ∈ result.statements.dropLast, r.status ≠ .failed

theorem Results.summarized (h : Results settings 1 statements rs) (runId : String)
    (milliseconds : Int) :
    Summarized settings statements
      (.ofTally runId statements.length (({} : Tally).addAll 1 rs) milliseconds) := by
  have hresults : (({} : Tally).addAll 1 rs).results = rs := Tally.results_addAll {} 1 rs
  constructor
  case total => rfl
  case successful => rfl
  case unfailed =>
    intro hall
    exact RunResult.ofTally_of_unfailed (Tally.failure_addAll_eq_none_iff.2 (hresults ▸ hall))
  case failed =>
    intro before r later hrs hbefore hfailed
    obtain rfl : rs = before ++ r :: later := hresults.symm.trans hrs
    obtain ⟨sql, -, hr⟩ := h.exists_isResult (i := before.length) (r := r) (by simp)
    obtain ⟨message, hmessage⟩ := hr.reason hfailed
    have hfailure : (({} : Tally).addAll 1 (before ++ r :: later)).failure =
        some (.of r.index r) := by
      rw [Tally.failure_addAll_of_failed hbefore hfailed, hr.index]
    refine ⟨message, hmessage, ?_⟩
    rw [← FirstFailure.message_of hmessage]
    exact RunResult.ofTally_of_failed hfailure
  case entries =>
    intro i r hi
    rw [RunResult.ofTally, hresults] at hi
    obtain ⟨sql, hsql, hr⟩ := h.exists_isResult hi
    rw [hr.index, hr.sql]
    exact ⟨by omega, hsql⟩
  case short =>
    rw [RunResult.ofTally, hresults]
    exact h.of_length_lt
  case stopped =>
    rw [RunResult.ofTally, hresults]
    exact h.unfailed_dropLast

/-- Whatever the executor answers and whether or not there are messages, the result that a run comes
to follows from the results of its statements. -/
theorem summarized_of_run {s : Session W} {token : String} {revision : Revision}
    {result : RunResult}
    (h : reply (run executor settings token revision) s = .ok result) :
    Summarized settings revision.statements result := by
  obtain ⟨rs, ms, hrs, rfl⟩ := exists_results_of_run h
  exact hrs.summarized (runIdOf token) ms

/-- The second of three statements fails and stops the run. -/
theorem summarized_of_run_of_rehearsal :
    let failure := Failure.driver "OperationalError" "no such table: t"
    let world : Rehearsal := { outcomes := [⟨0, .ok (.int 3)⟩, ⟨0, .error failure⟩] }
    let settings : Settings := {}
    let revision : Revision := ⟨["select 1", "select * from t", "select 2"]⟩
    let result : RunResult :=
      { runId := "run_0f", total := 3, successful := 1, failedIndex := some 2, status := .partly
        errorMessage := some "Statement 2 failed: no such table: t"
        statements :=
          [{ index := 1, sql := "select 1", status := .succeeded, rowsAffected := some 3 },
            { index := 2, sql := "select * from t", status := .failed
              errorMessage := some "no such table: t" }] }
    reply (run Rehearsal.executor settings "0f" revision) { world := world } = .ok result ∧
      Summarized settings revision.statements result := by
  intro failure world settings revision result
  have hreply : reply (run Rehearsal.executor settings "0f" revision) { world := world } =
      .ok result := by decide +kernel
  exact ⟨hreply, summarized_of_run hreply⟩

end Run

end RevisionScript
