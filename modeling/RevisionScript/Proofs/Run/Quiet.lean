import RevisionScript.Proofs.Run.Fault
import RevisionScript.Proofs.Run.Rehearsal

namespace RevisionScript

namespace Settings

def loud (settings : Settings) : Settings := { settings with showProgress := true }

def quiet (settings : Settings) : Settings := { settings with showProgress := false }

end Settings

namespace Run

open Act

variable {W : Type} {executor : Executor W} {settings : Settings} {index : Nat} {sql : String}
  {w : W}

def Printable (r : StatementResult) : Prop :=
  ∀ text ∈ r.errorMessage, (Markup.render text.toList).isOk

theorem printable_of_errorMessage {r : StatementResult} {text : String}
    (h : r.errorMessage = some text) : Printable r ↔ (Markup.render text.toList).isOk := by
  unfold Printable
  rw [h]
  constructor
  · intro hall
    exact hall text rfl
  · intro ht text' htext'
    cases htext'
    exact ht

theorem announcement_of_not_isOk (hloud : settings.showProgress = true) {markup : String}
    (h : ¬ (Console.message markup).isOk) :
    ∃ m, announcement settings markup = .error (.markup m) := by
  unfold announcement
  rw [if_pos hloud]
  cases hm : Console.message markup with
  | ok text =>
    rw [hm] at h
    exact absurd rfl h
  | error m => exact ⟨m, rfl⟩

theorem isOk_message_iff {r : StatementResult} (h : performed executor index sql w = .ok r) :
    (Console.message (outcomeLine r)).isOk ↔ Printable r := by
  obtain ⟨-, hstatus, hnone⟩ | ⟨e, -, hstatus, hsome⟩ := cases_of_resultOf_eq_ok h
  · refine iff_of_true (isOk_message_success hstatus) fun text ht ↦ ?_
    rw [hnone] at ht
    cases ht
  · rw [printable_of_errorMessage hsome, isOk_message_failure hstatus hsome]

/-- A message comes after the execution and before its result is recorded, so that one that cannot
be written takes the place of the result. -/
theorem attempt_loud (h : attempt executor settings.quiet index sql w = .ok r) :
    (Printable r ∧ attempt executor settings.loud index sql w = .ok r) ∨
      (¬ Printable r ∧ ∃ m, attempt executor settings.loud index sql w = .error (.markup m)) := by
  rw [attempt_of_quiet rfl] at h
  rw [attempt_of_performed h]
  by_cases hr : Printable r
  · refine .inl ⟨hr, ?_⟩
    rw [announcement_of_isOk ((isOk_message_iff h).2 hr)]
    rfl
  · have hloud : settings.loud.showProgress = true := rfl
    obtain ⟨m, hm⟩ := announcement_of_not_isOk hloud
      (mt (isOk_message_iff h).1 hr)
    refine .inr ⟨hr, m, ?_⟩
    rw [hm]
    rfl

theorem attempt_loud_of_error {e : Failure}
    (h : attempt executor settings.quiet index sql w = .error e) :
    attempt executor settings.loud index sql w = .error e := by
  rw [attempt_of_quiet rfl] at h
  rw [attempt, h]

variable (executor settings) in
theorem attempts_loud (index : Nat) (statements : List String) (w : W) :
    let made := attempts executor settings.quiet index statements w
    ((∀ r, .ok r ∈ made → Printable r) ∧
      attempts executor settings.loud index statements w = made) ∨
    ((¬ ∀ r, .ok r ∈ made → Printable r) ∧
      ∃ m, (attempts executor settings.loud index statements w).mapM id = .error (.markup m)) := by
  induction statements generalizing index w with
  | nil => exact .inl ⟨nofun, rfl⟩
  | cons sql rest ih =>
    intro made
    cases h : attempt executor settings.quiet index sql w with
    | error e =>
      have hmade : made = [.error e] := attempts_of_error h
      rw [hmade, attempts_of_error (attempt_loud_of_error h)]
      refine .inl ⟨fun r hr ↦ ?_, rfl⟩
      cases List.mem_singleton.1 hr
    | ok r =>
      obtain ⟨hr, hloud⟩ | ⟨hr, m, hloud⟩ := attempt_loud h
      · by_cases hstop : (r.status = .failed && settings.stopOnError) = true
        · have hmade : made = [.ok r] := attempts_of_stop h hstop
          rw [hmade, attempts_of_stop hloud hstop]
          refine .inl ⟨fun r' hr' ↦ ?_, rfl⟩
          cases List.mem_singleton.1 hr'
          exact hr
        · have hmade : made = .ok r :: _ := attempts_of_ok h hstop
          have hall (later : List (Except Failure StatementResult)) :
              (∀ r', .ok r' ∈ .ok r :: later → Printable r') ↔
                ∀ r', .ok r' ∈ later → Printable r' := by
            simp only [List.mem_cons, Except.ok.injEq, forall_eq_or_imp, hr, true_and]
          rw [hmade, attempts_of_ok hloud hstop, hall, mapM_id_ok_cons]
          obtain ⟨hlater, heq⟩ | ⟨hlater, m, hm⟩ := ih (index + 1) (executor.execute sql w).2
          · exact .inl ⟨hlater, congrArg _ heq⟩
          · refine .inr ⟨hlater, m, ?_⟩
            rw [hm]
            rfl
      · rw [attempts_of_error hloud]
        obtain ⟨later, hmade, -⟩ := exists_attempts_cons executor settings.quiet index sql rest w
        have hmem : .ok r ∈ made := by
          rw [h] at hmade
          exact List.mem_of_mem_head? (congrArg List.head? hmade)
        exact .inr ⟨fun hall ↦ hr (hall r hmem), m, rfl⟩

theorem run_loud (executor : Executor W) (settings : Settings) (token : String)
    (revision : Revision) (w : W) :
    let act settings := run executor settings token revision
    let harmless := settings.dryRun = true ∨
      ∀ r, .ok r ∈ attempts executor settings.quiet 1 revision.statements w → Printable r
    (harmless ∧
      (final (act settings.loud) { world := w }).calls =
        (final (act settings.quiet) { world := w }).calls ∧
      reply (act settings.loud) { world := w } = reply (act settings.quiet) { world := w }) ∨
    (¬ harmless ∧ ∃ m, reply (act settings.loud) { world := w } = .error (.markup m)) := by
  intro act harmless
  cases hdry : settings.dryRun with
  | true =>
    obtain ⟨hloud, hloud'⟩ := run_of_dry executor settings.loud hdry token revision w
    obtain ⟨hquiet, hquiet'⟩ := run_of_dry executor settings.quiet hdry token revision w
    exact .inl ⟨.inl hdry, hloud.trans hquiet.symm, hloud'.trans hquiet'.symm⟩
  | false =>
    obtain ⟨hquiet, hquiet'⟩ := run_of_not_dry executor settings.quiet hdry token revision
      (w := w) rfl
    obtain ⟨hall, hmade⟩ | ⟨hnot, m, hm⟩ := attempts_loud executor settings 1
      revision.statements w
    · obtain ⟨hloud, hloud'⟩ := run_of_not_dry executor settings.loud hdry token revision hmade
      exact .inl ⟨.inr hall, hloud.trans hquiet.symm, hloud'.trans hquiet'.symm⟩
    · obtain ⟨-, hloud⟩ := run_of_not_dry executor settings.loud hdry token revision rfl
      rw [hm] at hloud
      refine .inr ⟨?_, m, hloud⟩
      rintro (hd | hall)
      · rw [hdry] at hd
        cases hd
      · exact hnot hall

/-- Messages leave a run as it is if and only if the text of every failure that it records is sound
markup. Otherwise a message ends it, which no failure of a statement does. -/
theorem run_loud_iff (executor : Executor W) (settings : Settings) (token : String)
    (revision : Revision) (w : W) :
    let act settings := run executor settings token revision
    let calls settings := (final (act settings) { world := w }).calls
    let reply settings := reply (act settings) { world := w }
    let harmless := settings.dryRun = true ∨
      ∀ r, .ok r ∈ attempts executor settings.quiet 1 revision.statements w → Printable r
    (calls settings.loud = calls settings.quiet ∧ reply settings.loud = reply settings.quiet ↔
      harmless) ∧
    ((∃ m, reply settings.loud = .error (.markup m)) ↔ ¬ harmless) ∧
    (executor.Lawful w →
      ((∀ e, reply settings.loud = .error e → e.endsRun = true) ↔ harmless)) := by
  intro act calls reply harmless
  have hquiet (e : Failure) (he : reply settings.quiet = .error e) :
      Fault executor settings.quiet w e := fault_of_run he
  obtain ⟨h, hcalls, hreply⟩ | ⟨h, m, hreply⟩ := run_loud executor settings token revision w
  · refine ⟨iff_of_true ⟨hcalls, hreply⟩ h, iff_of_false ?_ (not_not_intro h), fun hlaw ↦
      iff_of_true (fun e he ↦ ?_) h⟩
    · rintro ⟨m, hm⟩
      exact (hquiet _ (hreply.symm.trans hm)).ne_markup rfl m rfl
    · obtain ⟨_, _, -, hends⟩ := (hquiet e (hreply.symm.trans he)).exists_execution rfl hlaw
      exact hends
  · refine ⟨iff_of_false ?_ h, iff_of_true ⟨m, hreply⟩ h, fun _ ↦ iff_of_false ?_ h⟩
    · rintro ⟨-, heq⟩
      exact (hquiet _ (heq.symm.trans hreply)).ne_markup rfl m rfl
    · intro hall
      cases hall _ hreply

/-- The text of the failure opens a tag, which is sound. -/
theorem run_loud_iff_of_rehearsal :
    let failure := Failure.driver "OperationalError" "no such table: [x]"
    let world : Rehearsal := { outcomes := [⟨0, .error failure⟩] }
    let settings : Settings := {}
    let act settings := run Rehearsal.executor settings "" ⟨["select * from \"[x]\""]⟩
    Rehearsal.executor.Lawful world ∧
      reply (act settings.loud) { world := world } = reply (act settings.quiet) { world := world } ∧
      ∀ e, reply (act settings.loud) { world := world } = .error e → e.endsRun = true := by
  intro failure world settings act
  have hlaw : Rehearsal.executor.Lawful world := by
    refine Rehearsal.lawful_executor ?_ ?_ (by decide +kernel)
    · exact Rehearsal.standsStill_of_advance (by decide +kernel) (by simp [world])
    · intro o ho rows hrows
      rw [List.mem_singleton.1 ho] at hrows
      cases hrows
  have hmade : attempts Rehearsal.executor settings.quiet 1 ["select * from \"[x]\""] world =
      [.ok { index := 1, sql := "select * from \"[x]\"", status := .failed
             errorMessage := some failure.message }] := by
    decide +kernel
  have hall : ∀ r, .ok r ∈ attempts Rehearsal.executor settings.quiet 1 ["select * from \"[x]\""]
      world → Printable r := by
    rw [hmade]
    intro r hr
    cases List.mem_singleton.1 hr
    exact (printable_of_errorMessage rfl).2 (by decide +kernel)
  obtain ⟨hsame, -, hends⟩ :=
    run_loud_iff Rehearsal.executor settings "" ⟨["select * from \"[x]\""]⟩ world
  exact ⟨hlaw, (hsame.2 (.inr hall)).2, (hends hlaw).2 (.inr hall)⟩

/-- A failure whose text closes a tag that is not open is not recorded: the message about it ends
the run. -/
theorem run_loud_ne_quiet :
    let failure := Failure.driver "OperationalError" "no such table: [/x]"
    let world : Rehearsal := { outcomes := [⟨0, .error failure⟩] }
    let settings : Settings := {}
    let act settings := run Rehearsal.executor settings "" ⟨["select * from \"[/x]\""]⟩
    reply (act settings.loud) { world := world } = .error (.markup (.unmatched "/x" 38)) ∧
      (reply (act settings.quiet) { world := world }).isOk := by
  decide +kernel

end Run

end RevisionScript
