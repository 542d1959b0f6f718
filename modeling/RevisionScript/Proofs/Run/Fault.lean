import RevisionScript.Proofs.Run.Attempt

namespace RevisionScript

namespace Run

open Act

variable {W : Type} {executor : Executor W} {settings : Settings} {s : Session W} {w : W}
  {e : Failure}

/-- Why a run has no result: a failure of the execution as a whole, a clock or a row count that
cannot be read, or a message that cannot be written. -/
inductive Fault (executor : Executor W) (settings : Settings) (w : W) : Failure → Prop
  | execution {done : List String} {sql : String} {e : Failure}
      (h : (executor.execute sql (executor.after done w)).1 = .error e) (hends : e.endsRun = true) :
      Fault executor settings w e
  | clock {done later : List String} {e : Failure}
      (h : millisecondsBetween (executor.now (executor.after done w))
        (executor.now (executor.after (done ++ later) w)) = .error e) : Fault executor settings w e
  | rows {done : List String} {sql : String} {rows : Json} {kind : MismatchKind}
      (h : (executor.execute sql (executor.after done w)).1 = .ok rows)
      (hkind : RecordField.orNull RecordField.readInt rows = .error kind) :
      Fault executor settings w (.mismatch [⟨[.field "rows_affected"], kind⟩])
  | message {failure : MarkupFailure} (h : settings.showProgress = true) :
      Fault executor settings w (.markup failure)

theorem fault_of_performed {index : Nat} {sql : String} {done : List String}
    (h : performed executor index sql (executor.after done w) = .error e) :
    Fault executor settings w e := by
  obtain ⟨hreply, hends⟩ | hclock | ⟨rows, kind, hreply, hkind, rfl⟩ := cases_of_resultOf_eq_error h
  · exact .execution hreply hends
  · have hafter : (executor.execute sql (executor.after done w)).2 =
        executor.after (done ++ [sql]) w := by
      simp [Executor.after]
    rw [hafter] at hclock
    exact .clock hclock
  · exact .rows hreply hkind

theorem fault_of_announcement {markup : String} (h : announcement settings markup = .error e) :
    Fault executor settings w e := by
  unfold announcement at h
  split at h
  · next hloud =>
    split at h
    · cases h
    · cases h
      exact .message hloud
  · cases h

theorem fault_of_mem_attempts {index : Nat} {statements : List String}
    (h : .error e ∈ attempts executor settings index statements w) :
    Fault executor settings w e := by
  obtain ⟨i, sql, done, ha⟩ := exists_attempt_of_mem h
  unfold attempt at ha
  split at ha
  · next hperformed =>
    cases ha
    exact fault_of_performed hperformed
  · next r _ =>
    cases hmessage : announcement settings (outcomeLine r) with
    | error e' =>
      rw [hmessage] at ha
      cases ha
      exact fault_of_announcement hmessage
    | ok _ =>
      rw [hmessage] at ha
      cases ha

theorem fault_of_map {α : Type} (done : List String) {f : Int → α}
    (h : (millisecondsBetween (executor.now w) (executor.now (executor.after done w))).map f =
      .error e) : Fault executor settings w e := by
  have hclock : millisecondsBetween (executor.now (executor.after [] w))
      (executor.now (executor.after ([] ++ done) w)) = .error e := except_map_eq_error h
  exact .clock hclock

theorem fault_of_run {token : String} {revision : Revision}
    (h : reply (run executor settings token revision) s = .error e) :
    Fault executor settings s.world e := by
  cases hdry : settings.dryRun with
  | true =>
    have hrun : Gives executor.driver (run executor settings token revision) s _ _ :=
      gives_run_of_dry hdry token revision
    rw [hrun.reply] at h
    exact fault_of_map [] h
  | false =>
    have hrun : Gives executor.driver (run executor settings token revision) s _ _ :=
      gives_run_of_not_dry executor.drivenBy_driver hdry token revision rfl
    rw [hrun.reply, executor.drivenBy_driver.after_map] at h
    cases hmade : (attempts executor settings 1 revision.statements s.world).mapM id with
    | error e' =>
      rw [hmade] at h
      cases h
      exact fault_of_mem_attempts (mem_of_mapM_id_eq_error hmade)
    | ok results =>
      rw [hmade] at h
      exact fault_of_map _ h

theorem millisecondsBetween_eq_error {started ended : Instant}
    (h : millisecondsBetween started ended = .error e) : ∃ reason, e = .notFinite reason := by
  unfold millisecondsBetween at h
  split at h
  · cases h
  · cases h
    exact ⟨_, rfl⟩

namespace Fault

theorem ne_markup (h : Fault executor settings w e) (hquiet : settings.showProgress = false)
    (m : MarkupFailure) : e ≠ .markup m := by
  rintro rfl
  cases h with
  | execution _ hends => cases hends
  | clock h =>
    obtain ⟨reason, hreason⟩ := millisecondsBetween_eq_error h
    cases hreason
  | message hloud =>
    rw [hquiet] at hloud
    cases hloud

/-- With a lawful executor and without messages only a failure of the execution is left. -/
theorem exists_execution (h : Fault executor settings w e) (hquiet : settings.showProgress = false)
    (hlaw : executor.Lawful w) :
    ∃ done sql, (executor.execute sql (executor.after done w)).1 = .error e ∧ e.endsRun = true := by
  cases h with
  | execution h hends => exact ⟨_, _, h, hends⟩
  | @clock done later e h =>
    have hclock := hlaw.clock done later
    rw [h] at hclock
    cases hclock
  | rows h hkind =>
    obtain ⟨count, rfl⟩ := hlaw.rows _ _ _ h
    cases count <;> cases hkind
  | message hloud =>
    rw [hquiet] at hloud
    cases hloud

end Fault

end Run

end RevisionScript
