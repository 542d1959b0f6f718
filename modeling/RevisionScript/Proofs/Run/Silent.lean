import RevisionScript.Proofs.Run.Session
import RevisionScript.Run.Transaction

namespace RevisionScript

namespace Act

variable {W α β : Type} {act : Act W α} {next : α → Act W β}

def Silent (act : Act W α) : Prop := ∀ s, (final act s).output = s.output

theorem silent_pure (a : α) : Silent (pure a : Act W α) := fun _ ↦ rfl

theorem silent_throw (e : Failure) : Silent (throw e : Act W α) := fun _ ↦ rfl

theorem silent_observe (f : W → α) : Silent (observe f) := fun _ ↦ rfl

theorem silent_ofExcept (r : Except Failure α) : Silent (ofExcept r : Act W α) := by
  intro s
  rw [final_ofExcept]

theorem silent_call (c : Call) (step : W → Except Failure α × W) : Silent (call c step) := by
  intro s
  rw [final_call]

theorem Silent.attempt (h : Silent act) : Silent (attempt act) := by
  intro s
  rw [final_attempt, h s]

theorem Silent.bind (h : Silent act) (hnext : ∀ a, Silent (next a)) : Silent (act >>= next) := by
  intro s
  cases hreply : reply act s with
  | ok a => rw [(bind_of_ok next hreply).2, hnext a, h s]
  | error e => rw [(bind_of_error next hreply).2, h s]

theorem Silent.ending (h : Silent act) {last : Act W Unit} (hlast : Silent last) :
    Silent (ending act last) := by
  intro s
  rw [final_ending, hlast, h s]

end Act

namespace Run

open Act

variable {W : Type} {executor : Executor W} {db : Database W} {settings : Settings}

theorem silent_announce (hquiet : settings.showProgress = false) (markup : String) :
    Silent (announce settings markup : Act W Unit) := by
  unfold announce
  rw [hquiet]
  exact silent_pure ()

theorem silent_perform (index : Nat) (sql : String) : Silent (perform executor index sql) :=
  (silent_observe _).bind fun _ ↦ (silent_call _ _).attempt.bind fun _ ↦
    (silent_observe _).bind fun _ ↦ silent_ofExcept _

theorem silent_performAll (hquiet : settings.showProgress = false) (total index : Nat)
    (statements : List String) (t : Tally) :
    Silent (performAll executor settings total index statements t) := by
  induction statements generalizing index t with
  | nil => exact silent_pure t
  | cons sql rest ih =>
    refine (silent_announce hquiet _).bind fun _ ↦ (silent_perform index sql).bind fun r ↦
      (silent_announce hquiet _).bind fun _ ↦ ?_
    split
    · exact silent_pure (t.add index r)
    · exact ih (index + 1) (t.add index r)

theorem silent_run (hquiet : settings.showProgress = false) (token : String) (revision : Revision) :
    Silent (run executor settings token revision) := by
  refine (silent_observe _).bind fun started ↦ ?_
  have hclosing (tally : Tally) : Silent (W := W) do
      let ended ← observe executor.now
      let milliseconds ← Act.ofExcept (millisecondsBetween started ended)
      return RunResult.ofTally (runIdOf token) revision.size tally milliseconds :=
    (silent_observe _).bind fun _ ↦ (silent_ofExcept _).bind fun _ ↦ silent_pure _
  dsimp only
  split
  · exact (silent_pure _).bind hclosing
  · exact (silent_announce hquiet _).bind fun _ ↦ (silent_performAll hquiet _ _ _ _).bind hclosing

theorem silent_begin : Silent db.begin := by
  refine (silent_observe _).bind fun isOpen ↦ ?_
  split
  · exact silent_throw _
  · exact (silent_call _ _).bind fun _ ↦ silent_pure ()

theorem silent_inTransaction (hquiet : settings.showProgress = false) (token : String)
    (revision : Revision) : Silent (inTransaction db settings token revision) := by
  refine silent_begin.bind fun _ ↦ (silent_run hquiet token revision).bind fun result ↦ ?_
  split
  · exact (silent_call _ _).bind fun _ ↦ silent_pure result
  · exact (silent_call _ _).bind fun _ ↦ silent_pure result

/-- Without progress messages a run writes nothing at all. -/
theorem silent_runFile (hquiet : settings.showProgress = false) (files : Files) (token : String)
    (path database : Path) : Silent (runFile db settings files token path database) :=
  (silent_ofExcept _).bind fun revision ↦ (silent_call _ _).bind fun _ ↦
    (silent_inTransaction hquiet token revision).ending (silent_call _ _)

end Run

end RevisionScript
