import RevisionScript.Proofs.Run.Attempt
import RevisionScript.Proofs.Run.Tally

namespace RevisionScript

namespace Database

variable {W : Type} (db : Database W)

def Accepts (calls : List Call) (w : W) : Prop := ∀ p ∈ db.transcript calls w, p.2 = true

/-- From a world on, executions answer with integers and the time that passes is finite. -/
structure Lawful (w : W) : Prop where
  rows : ∀ calls sql rows, (db.execute sql (db.after calls w)).1 = .ok rows → ∃ n, rows = .int n
  clock : ∀ calls later,
    (millisecondsBetween (db.now (db.after calls w)) (db.now (db.after (calls ++ later) w))).isOk

variable {db} {c : Call} {cs : List Call} {w : W}

theorem accepts_cons :
    db.Accepts (c :: cs) w ↔ (db.respond c w).1 = true ∧ db.Accepts cs (db.respond c w).2 := by
  unfold Accepts
  rw [transcript_cons, List.forall_mem_cons]

theorem Lawful.after (h : db.Lawful w) (calls : List Call) : db.Lawful (db.after calls w) where
  rows calls' sql rows hr := by
    rw [← after_append] at hr
    exact h.rows _ sql rows hr
  clock calls' later := by
    rw [← after_append, ← after_append, ← List.append_assoc]
    exact h.clock _ later

end Database

namespace Run

open Act

variable {W : Type} {db : Database W} {settings : Settings} {s : Session W}

theorem status_of_resultOf {index : Nat} {sql : String} {milliseconds : Except Failure Int}
    {reply : Except Failure Json} {r : StatementResult}
    (h : resultOf index sql milliseconds reply = .ok r) :
    r.status = if reply.isOk then .succeeded else .failed := by
  obtain ⟨hok, hstatus, -⟩ | ⟨e, rfl, hstatus, -⟩ := cases_of_resultOf_eq_ok h
  · rw [hstatus, if_pos hok]
  · exact hstatus

theorem exists_resultOf_eq_ok (index : Nat) (sql : String) {milliseconds : Except Failure Int}
    (hm : milliseconds.isOk) (n : Int) :
    ∃ r, resultOf index sql milliseconds (.ok (Database.rowCount (.int n))) = .ok r := by
  cases milliseconds with
  | error e => cases hm
  | ok ms =>
    by_cases hn : n < 0
    · have hrows : Database.rowCount (.int n) = .null := by
        simp [Database.rowCount, Json.isNegative, hn]
      rw [hrows]
      exact ⟨_, rfl⟩
    · have hrows : Database.rowCount (.int n) = .int n := by
        simp [Database.rowCount, Json.isNegative, hn]
      rw [hrows]
      exact ⟨_, rfl⟩

theorem status_of_attempt {index : Nat} {sql : String} {w : W} {r : StatementResult}
    (h : attempt db.executor settings index sql w = .ok r) :
    r.status = if (db.respond (.execute sql) w).1 then .succeeded else .failed := by
  have hok := isOk_map Database.rowCount (db.execute sql w).1
  rw [status_of_resultOf (performed_of_attempt h)]
  exact congrArg (fun ok : Bool ↦ if ok then StatementStatus.succeeded else .failed) hok

/-- A statement that a lawful driver accepts has a result, and the message about it is sound. -/
theorem exists_attempt_eq_ok (settings : Settings) (index : Nat) {sql : String} {w : W}
    (hlaw : db.Lawful w)
    (hok : (db.respond (.execute sql) w).1 = true) :
    ∃ r, attempt db.executor settings index sql w = .ok r := by
  cases hrows : (db.execute sql w).1 with
  | error e => simp [Database.respond, hrows, Except.isOk, Except.toBool] at hok
  | ok rows =>
    obtain ⟨n, rfl⟩ := hlaw.rows [] sql rows hrows
    obtain ⟨r, hr⟩ := exists_resultOf_eq_ok index sql (hlaw.clock [] [.execute sql]) n
    have hanswer : (db.executor.execute sql w).1 = .ok (Database.rowCount (.int n)) :=
      congrArg (Except.map Database.rowCount) hrows
    have hperformed : performed db.executor index sql w = .ok r := by
      rw [performed, hanswer]
      exact hr
    refine ⟨r, ?_⟩
    rw [attempt_of_performed hperformed,
      announcement_of_isOk (isOk_message_success (status_of_resultOf hr))]
    rfl

/-- Statements are executed one after another from the first on. Unless one of them has failed, all
of them have been executed and accepted; with a lawful driver that accepts them, all succeed. -/
structure Executed (db : Database W) (statements : List String) (w : W) (cs : List Call)
    (reply : Except Failure (List StatementResult)) : Prop where
  calls : ∃ k, cs = (statements.take k).map .execute
  accepted : ∀ rs, reply = .ok rs → (∀ r ∈ rs, r.status ≠ .failed) →
    cs = statements.map .execute ∧ db.Accepts cs w
  completes : db.Lawful w → db.Accepts (statements.map .execute) w →
    ∃ rs, reply = .ok rs ∧ ∀ r ∈ rs, r.status = .succeeded

namespace Executed

variable {sql : String} {rest : List String} {w : W} {cs : List Call}
  {reply : Except Failure (List StatementResult)}

theorem stop (hreply : ∀ rs, reply = .ok rs → ∃ r ∈ rs, r.status = .failed)
    (hw : db.Lawful w → ¬ (db.respond (.execute sql) w).1 = true) :
    Executed db (sql :: rest) w [.execute sql] reply where
  calls := ⟨1, rfl⟩
  accepted rs hr hall := by
    obtain ⟨r, hmem, hr⟩ := hreply rs hr
    exact absurd hr (hall r hmem)
  completes hlaw haccepts := absurd (Database.accepts_cons.1 haccepts).1 (hw hlaw)

theorem cons {r : StatementResult}
    (hr : r.status = if (db.respond (.execute sql) w).1 then .succeeded else .failed)
    (h : Executed db rest (db.respond (.execute sql) w).2 cs reply) :
    Executed db (sql :: rest) w (.execute sql :: cs) (List.cons r <$> reply) where
  calls := by
    obtain ⟨k, rfl⟩ := h.calls
    exact ⟨k + 1, rfl⟩
  accepted rs hrs hall := by
    cases reply with
    | error e => cases hrs
    | ok rs' =>
      cases hrs
      rw [List.forall_mem_cons, hr] at hall
      obtain ⟨rfl, hrest⟩ := h.accepted rs' rfl hall.2
      refine ⟨rfl, Database.accepts_cons.2 ⟨?_, hrest⟩⟩
      by_contra hfail
      exact hall.1 (if_neg hfail)
  completes hlaw haccepts := by
    obtain ⟨hsql, hrest⟩ := Database.accepts_cons.1 haccepts
    obtain ⟨rs, rfl, hall⟩ := h.completes (hlaw.after [.execute sql]) hrest
    refine ⟨r :: rs, rfl, List.forall_mem_cons.2 ⟨?_, hall⟩⟩
    rw [hr, if_pos hsql]

end Executed

theorem executed_attempts (db : Database W) (settings : Settings) (index : Nat)
    (statements : List String) (w : W) :
    Executed db statements w
      ((statements.take (attempts db.executor settings index statements w).length).map .execute)
      ((attempts db.executor settings index statements w).mapM id) := by
  induction statements generalizing index w with
  | nil =>
    refine ⟨⟨0, rfl⟩, fun _ _ _ ↦ ⟨rfl, ?_⟩, fun _ _ ↦ ⟨[], rfl, ?_⟩⟩
    · exact List.forall_mem_nil _
    · exact List.forall_mem_nil _
  | cons sql rest ih =>
    cases h : attempt db.executor settings index sql w with
    | error e =>
      rw [attempts_of_error h]
      refine .stop (fun _ hr ↦ nomatch hr) fun hlaw hok ↦ ?_
      obtain ⟨r, hr⟩ := exists_attempt_eq_ok settings index hlaw hok
      cases h.symm.trans hr
    | ok r =>
      have hr := status_of_attempt h
      by_cases hstop : (r.status = .failed && settings.stopOnError) = true
      · rw [attempts_of_stop h hstop]
        simp only [Bool.and_eq_true, decide_eq_true_eq] at hstop
        refine .stop (fun rs hrs ↦ ?_) fun _ hok ↦ ?_
        · cases hrs
          exact ⟨r, List.mem_singleton_self r, hstop.1⟩
        · rw [if_pos hok, hstop.1] at hr
          cases hr
      · rw [attempts_of_ok h hstop, mapM_id_ok_cons]
        exact (ih (index + 1) (db.respond (.execute sql) w).2).cons hr

structure Ran (db : Database W) (settings : Settings) (statements : List String) (w : W)
    (cs : List Call) (reply : Except Failure RunResult) : Prop where
  calls : ∃ k, cs = (statements.take k).map .execute
  dry : settings.dryRun = true → cs = []
  accepted : settings.dryRun = false → ∀ result, reply = .ok result → result.status = .succeeded →
    cs = statements.map .execute ∧ db.Accepts cs w
  completes : db.Lawful w → (settings.dryRun = false → db.Accepts (statements.map .execute) w) →
    ∃ result, reply = .ok result ∧ result.status = .succeeded

namespace Ran

variable {statements : List String} {w : W} {cs : List Call}

theorem of_dry (hdry : settings.dryRun = true) {runId : String} {total : Nat}
    {milliseconds : Except Failure Int} (hm : db.Lawful w → milliseconds.isOk) :
    Ran db settings statements w []
      (milliseconds.map (.ofTally runId total { results := skipAll statements })) where
  calls := ⟨0, rfl⟩
  dry _ := rfl
  accepted hdry' := absurd hdry (Bool.eq_false_iff.1 hdry')
  completes hlaw _ := by
    cases milliseconds with
    | error e => cases hm hlaw
    | ok ms => exact ⟨_, rfl, RunResult.status_ofTally.2 rfl⟩

theorem of_executed (hdry : settings.dryRun = false) {runId : String} {total : Nat}
    {rs : List StatementResult} {milliseconds : Except Failure Int}
    (hm : db.Lawful w → milliseconds.isOk) (h : Executed db statements w cs (.ok rs)) :
    Ran db settings statements w cs
      (milliseconds.map (.ofTally runId total (({} : Tally).addAll 1 rs))) where
  calls := h.calls
  dry hdry' := absurd hdry' (Bool.eq_false_iff.1 hdry)
  accepted _ result hr hs := by
    cases milliseconds with
    | error e => cases hr
    | ok ms =>
      cases hr
      exact h.accepted rs rfl (Tally.failure_addAll_eq_none_iff.1 (RunResult.status_ofTally.1 hs))
  completes hlaw haccepts := by
    obtain ⟨rs', hrs, hall⟩ := h.completes hlaw (haccepts hdry)
    cases hrs
    cases milliseconds with
    | error e => cases hm hlaw
    | ok ms =>
      refine ⟨_, rfl, RunResult.status_ofTally.2 (Tally.failure_addAll_eq_none_iff.2 ?_)⟩
      intro r hr
      rw [hall r hr]
      decide

theorem of_error (hdry : settings.dryRun = false) {e : Failure}
    (h : Executed db statements w cs (.error e)) : Ran db settings statements w cs (.error e) where
  calls := h.calls
  dry hdry' := absurd hdry' (Bool.eq_false_iff.1 hdry)
  accepted _ _ hr := nomatch hr
  completes hlaw haccepts := by
    obtain ⟨rs, hrs, -⟩ := h.completes hlaw (haccepts hdry)
    cases hrs

end Ran

theorem does_run (token : String) (revision : Revision) :
    Does db (run db.executor settings token revision) s
      (Ran db settings revision.statements s.world) := by
  cases hdry : settings.dryRun with
  | true =>
    refine (gives_run_of_dry hdry token revision).does ?_
    exact .of_dry hdry fun hlaw ↦ hlaw.clock [] []
  | false =>
    refine (gives_run_of_not_dry db.executor_drivenBy hdry token revision rfl).does ?_
    have h := executed_attempts db settings 1 revision.statements s.world
    cases hr : (attempts db.executor settings 1 revision.statements s.world).mapM id with
    | error e =>
      rw [hr] at h
      exact .of_error hdry h
    | ok results =>
      rw [hr] at h
      exact .of_executed hdry (fun hlaw ↦ hlaw.clock [] _) h

end Run

end RevisionScript
