import RevisionScript.Proofs.Run.Attempt
import RevisionScript.Proofs.Run.Rehearsal

namespace RevisionScript

namespace Run

open Act

variable {W : Type} {executor : Executor W} {settings : Settings} {w : W}

def stops (settings : Settings) : Except Failure Json → Bool
  | .ok _ => false
  | .error e => e.endsRun || settings.stopOnError

/-- The number of statements executed: up to the first answer that stops the run, or all. -/
def reach (settings : Settings) (answers : List (Except Failure Json)) : Nat :=
  min answers.length (answers.findIdx (stops settings) + 1)

theorem reach_cons (a : Except Failure Json) (as : List (Except Failure Json)) :
    reach settings (a :: as) = if stops settings a then 1 else reach settings as + 1 := by
  unfold reach
  rw [List.findIdx_cons, List.length_cons]
  cases stops settings a with
  | true => simp
  | false => simp only [cond_false, Bool.false_eq_true, if_false]; omega

theorem eq_nil_of_reach_eq_zero {answers : List (Except Failure Json)}
    (h : reach settings answers = 0) : answers = [] := by
  unfold reach at h
  exact List.length_eq_zero_iff.1 (by omega)

/-- What becomes of the answer to a statement. A failure of the execution as a whole stays what it
is; any other is recorded with its text. -/
inductive Recorded (index : Nat) (sql : String) :
    Except Failure Json → Except Failure StatementResult → Prop
  | succeeded (count : Option Int) (milliseconds : Int) :
      Recorded index sql (.ok (.ofInt? count))
        (.ok { index, sql, status := .succeeded, milliseconds, rowsAffected := count })
  | failed {e : Failure} (h : e.endsRun = false) (milliseconds : Int) :
      Recorded index sql (.error e)
        (.ok { index, sql, status := .failed, milliseconds, errorMessage := some e.message })
  | ended {e : Failure} (h : e.endsRun = true) : Recorded index sql (.error e) (.error e)

theorem recorded_performed (h : executor.Lawful w) (index : Nat) (sql : String) :
    Recorded index sql (executor.execute sql w).1 (performed executor index sql w) := by
  obtain ⟨ms, hms⟩ := h.exists_milliseconds [sql]
  change millisecondsBetween (executor.now w) (executor.now (executor.execute sql w).2) =
    .ok ms at hms
  rw [performed, hms]
  cases hreply : (executor.execute sql w).1 with
  | error e =>
    cases he : e.endsRun with
    | true =>
      simp only [resultOf, he, reduceIte]
      exact .ended he
    | false =>
      simp only [resultOf, he, Bool.false_eq_true, reduceIte]
      exact .failed he ms
  | ok rows =>
    obtain ⟨count, rfl⟩ := h.rows [] sql rows hreply
    cases count with
    | none => exact .succeeded none ms
    | some n => exact .succeeded (some n) ms

variable {index : Nat} {sql : String} {answer : Except Failure Json}

theorem stops_of_recorded {r : StatementResult} (h : Recorded index sql answer (.ok r)) :
    stops settings answer = (r.status = .failed && settings.stopOnError) := by
  cases h with
  | succeeded => rfl
  | failed h => simp [stops, h]

theorem stops_of_ended {e : Failure} (h : Recorded index sql answer (.error e)) :
    stops settings answer = true := by
  cases h with
  | ended h => simp [stops, h]

/-- Without messages the answers alone decide how far a run comes. -/
theorem length_attempts (hquiet : settings.showProgress = false) (hlaw : executor.Lawful w)
    (index : Nat) (statements : List String) :
    (attempts executor settings index statements w).length =
      reach settings (executor.answers statements w) := by
  induction statements generalizing index w with
  | nil => rfl
  | cons sql rest ih =>
    have hrec := recorded_performed hlaw index sql
    rw [← attempt_of_quiet hquiet] at hrec
    rw [Executor.answers, reach_cons]
    cases h : attempt executor settings index sql w with
    | error e =>
      rw [h] at hrec
      rw [attempts_of_error h, if_pos (stops_of_ended hrec)]
      rfl
    | ok r =>
      rw [h] at hrec
      rw [stops_of_recorded hrec]
      by_cases hstop : (r.status = .failed && settings.stopOnError) = true
      · rw [attempts_of_stop h hstop, if_pos hstop]
        rfl
      · rw [attempts_of_ok h hstop, if_neg hstop, List.length_cons, ih (hlaw.execute sql)]

theorem exists_recorded (hquiet : settings.showProgress = false) (hlaw : executor.Lawful w)
    {statements : List String} {i : Nat} {a : Except Failure StatementResult}
    (h : (attempts executor settings index statements w)[i]? = some a) :
    ∃ sql answer, statements[i]? = some sql ∧ (executor.answers statements w)[i]? = some answer ∧
      Recorded (index + i) sql answer a := by
  induction statements generalizing index w i with
  | nil => cases h
  | cons sql rest ih =>
    obtain ⟨later, hmade, hlater⟩ := exists_attempts_cons executor settings index sql rest w
    rw [hmade] at h
    cases i with
    | zero =>
      obtain rfl : attempt executor settings index sql w = a := Option.some.inj h
      rw [attempt_of_quiet hquiet]
      exact ⟨sql, _, rfl, rfl, recorded_performed hlaw index sql⟩
    | succ i =>
      rw [List.getElem?_cons_succ] at h
      obtain ⟨hi, rfl⟩ := List.getElem?_eq_some_iff.1 h
      obtain ⟨sql', answer, hsql, hanswer, hrec⟩ :=
        ih (hlaw.execute sql) (List.prefix_iff_getElem?.1 hlater i hi)
      rw [Nat.add_assoc, Nat.add_comm 1] at hrec
      exact ⟨sql', answer, hsql, hanswer, hrec⟩

/-- The course of a run that is not dry, told from the answers of its executor. The last answer
that it gets either ends it or is recorded like those before. -/
structure IsTrace (settings : Settings) (statements : List String)
    (answers : List (Except Failure Json)) (calls : List Call) (reply : Except Failure RunResult) :
    Prop where
  calls : calls = (statements.take (reach settings answers)).map .execute
  ended : ∀ e, answers[reach settings answers - 1]? = some (.error e) → e.endsRun = true →
    reply = .error e
  returned : (∀ e, answers[reach settings answers - 1]? = some (.error e) → e.endsRun = false) →
    ∃ result, reply = .ok result ∧ result.statements.length = reach settings answers ∧
      ∀ i r, result.statements[i]? = some r → ∃ sql answer, statements[i]? = some sql ∧
        answers[i]? = some answer ∧ Recorded (i + 1) sql answer (.ok r)

theorem exists_recorded_last (hquiet : settings.showProgress = false) (hlaw : executor.Lawful w)
    {statements : List String} {a : Except Failure StatementResult}
    (h : (attempts executor settings index statements w).getLast? = some a) :
    ∃ i sql answer, (executor.answers statements w)[
      reach settings (executor.answers statements w) - 1]? = some answer ∧
        Recorded i sql answer a := by
  rw [List.getLast?_eq_getElem?, length_attempts hquiet hlaw] at h
  obtain ⟨sql, answer, -, hanswer, hrec⟩ := exists_recorded hquiet hlaw h
  exact ⟨_, sql, answer, hanswer, hrec⟩

variable {statements : List String} {finish : List StatementResult → Except Failure RunResult}

theorem isTrace_of_ended (hquiet : settings.showProgress = false) (hlaw : executor.Lawful w)
    {rs : List StatementResult} {e : Failure}
    (h : attempts executor settings 1 statements w = rs.map .ok ++ [.error e]) :
    IsTrace settings statements (executor.answers statements w)
      ((statements.take (attempts executor settings 1 statements w).length).map .execute)
      ((attempts executor settings 1 statements w).mapM id >>= finish) := by
  have hlast : (attempts executor settings 1 statements w).getLast? = some (.error e) := by
    rw [h, List.getLast?_concat]
  obtain ⟨i, sql, answer, hanswer, hrec⟩ := exists_recorded_last hquiet hlaw hlast
  cases hrec with
  | ended hends =>
    refine ⟨by rw [length_attempts hquiet hlaw], fun e' he' _ ↦ ?_, fun hnot ↦ ?_⟩
    · rw [hanswer] at he'
      cases he'
      rw [h, mapM_id_map_ok_append_error]
      rfl
    · rw [hnot e hanswer] at hends
      cases hends

theorem isTrace_of_returned (hquiet : settings.showProgress = false) (hlaw : executor.Lawful w)
    {rs : List StatementResult} (h : attempts executor settings 1 statements w = rs.map .ok)
    (hfinish : ∃ result, finish rs = .ok result ∧ result.statements = rs) :
    IsTrace settings statements (executor.answers statements w)
      ((statements.take (attempts executor settings 1 statements w).length).map .execute)
      ((attempts executor settings 1 statements w).mapM id >>= finish) := by
  have hlength := length_attempts hquiet hlaw 1 statements
  refine ⟨by rw [hlength], fun e he hends ↦ ?_, fun _ ↦ ?_⟩
  · exfalso
    cases hrs : rs.getLast? with
    | none =>
      rw [h, List.getLast?_eq_none_iff.1 hrs] at hlength
      rw [eq_nil_of_reach_eq_zero hlength.symm] at he
      cases he
    | some r =>
      have hlast : (attempts executor settings 1 statements w).getLast? = some (.ok r) := by
        rw [h, List.getLast?_map, hrs]
        rfl
      obtain ⟨i, sql, answer, hanswer, hrec⟩ := exists_recorded_last hquiet hlaw hlast
      rw [he] at hanswer
      cases hanswer
      cases hrec with
      | failed hnot => simp [hnot] at hends
  · obtain ⟨result, hresult, rfl⟩ := hfinish
    refine ⟨result, ?_, ?_, fun i r hr ↦ ?_⟩
    · rw [h, mapM_id_map_ok]
      exact hresult
    · rw [← hlength, h, List.length_map]
    · have hmade : (attempts executor settings 1 statements w)[i]? = some (.ok r) := by
        rw [h, List.getElem?_map, hr]
        rfl
      rw [Nat.add_comm]
      exact exists_recorded hquiet hlaw hmade

/-- A run of a lawful executor without messages. -/
theorem run_trace {executor : Executor W} {settings : Settings} {w : W}
    (hquiet : settings.showProgress = false) (hlaw : executor.Lawful w) (token : String)
    (revision : Revision) :
    let statements := revision.statements
    let act := run executor settings token revision
    let calls := (final act { world := w }).calls
    let reply := Act.reply act { world := w }
    (settings.dryRun = true → calls = [] ∧ ∃ result, reply = .ok result ∧
      result.statements =
        statements.mapIdx fun i sql ↦ { index := i + 1, sql, status := .skipped }) ∧
    (settings.dryRun = false →
      IsTrace settings statements (executor.answers statements w) calls reply) := by
  intro statements act calls reply
  refine ⟨fun hdry ↦ ?_, fun hdry ↦ ?_⟩
  · obtain ⟨hcalls, hreply⟩ := run_of_dry executor settings hdry token revision w
    refine ⟨hcalls, ?_⟩
    obtain ⟨ms, hms⟩ := hlaw.exists_milliseconds []
    change millisecondsBetween (executor.now w) (executor.now w) = .ok ms at hms
    rw [hms] at hreply
    exact ⟨_, hreply, rfl⟩
  · obtain ⟨hcalls, hreply⟩ := run_of_not_dry executor settings hdry token revision (w := w) rfl
    obtain ⟨ms, hms⟩ := hlaw.exists_milliseconds
      (statements.take (attempts executor settings 1 statements w).length)
    rw [hms] at hreply
    have hcs : calls = _ := hcalls
    have hr : reply = _ := hreply
    rw [hcs, hr]
    obtain ⟨rs, hmade | ⟨e, hmade⟩⟩ := exists_attempts_eq executor settings 1 statements w
    · exact isTrace_of_returned hquiet hlaw hmade ⟨_, rfl, Tally.results_addAll {} 1 rs⟩
    · exact isTrace_of_ended hquiet hlaw hmade

/-- The second statement fails and the run goes on; the failure after the fourth ends it. -/
theorem run_trace_of_rehearsal :
    let failure := Failure.foreign "RuntimeError" "boom"
    let fault := Failure.revision (.reported .execution "connection lost" none)
    let world : Rehearsal := { outcomes :=
      [⟨0, .ok (.int 3)⟩, ⟨0, .error failure⟩, ⟨0, .ok .null⟩, ⟨0, .error fault⟩] }
    let settings : Settings := { stopOnError := false, showProgress := false }
    let act := run Rehearsal.executor settings "" ⟨["a", "b", "c", "d", "e"]⟩
    settings.showProgress = false ∧ Rehearsal.executor.Lawful world ∧
      (final act { world := world }).calls = ["a", "b", "c", "d"].map .execute ∧
      reply act { world := world } = .error fault := by
  intro failure fault world settings act
  have hlaw : Rehearsal.executor.Lawful world := by
    refine Rehearsal.lawful_executor ?_ ?_ (by decide +kernel)
    · exact Rehearsal.standsStill_of_advance (by decide +kernel) (by simp [world])
    · simp only [world, List.forall_mem_cons]
      exact ⟨fun _ h ↦ ⟨some 3, (Except.ok.inj h).symm⟩, nofun,
        fun _ h ↦ ⟨none, (Except.ok.inj h).symm⟩, nofun, nofun⟩
  have hquiet : settings.showProgress = false := rfl
  have h := (run_trace hquiet hlaw "" ⟨["a", "b", "c", "d", "e"]⟩).2 rfl
  refine ⟨hquiet, hlaw, h.calls, ?_⟩
  exact h.ended fault rfl rfl

end Run

end RevisionScript
