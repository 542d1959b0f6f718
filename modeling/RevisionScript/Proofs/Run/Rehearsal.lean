import RevisionScript.Proofs.Run.Course
import RevisionScript.Run.Rehearsal

namespace RevisionScript

namespace Rehearsal

theorem answer_world (failure : Option Failure) {changed r : Rehearsal}
    (houtcomes : changed.outcomes = r.outcomes) (hclock : changed.clock = r.clock) :
    (answer failure changed r).2.outcomes = r.outcomes ∧
      (answer failure changed r).2.clock = r.clock := by
  cases failure with
  | none => exact ⟨houtcomes, hclock⟩
  | some e => exact ⟨rfl, rfl⟩

theorem execute_world {r : Rehearsal} (h : r.outcomes = []) (sql : String) :
    (execute sql r).2.outcomes = r.outcomes ∧ (execute sql r).2.clock = r.clock := by
  unfold execute
  split
  · exact answer_world r.beginFailure rfl rfl
  · rw [next, h]
    exact ⟨h, rfl⟩

theorem execute_reply {r : Rehearsal} (h : r.outcomes = []) {sql : String} {rows : Json}
    (hr : (execute sql r).1 = .ok rows) : rows = .int (-1) := by
  unfold execute at hr
  split at hr
  · revert hr
    cases r.beginFailure with
    | none => exact fun hr ↦ (Except.ok.inj hr).symm
    | some e => exact nofun
  · rw [next, h] at hr
    exact (Except.ok.inj hr).symm

/-- Without outcomes the clock stands still. -/
theorem respond_of_outcomes_eq_nil {r : Rehearsal} (h : r.outcomes = []) (c : Call) :
    (database.respond c r).2.outcomes = r.outcomes ∧ (database.respond c r).2.clock = r.clock := by
  cases c with
  | connect path => exact answer_world r.connectFailure rfl rfl
  | execute sql => exact execute_world h sql
  | commit => exact answer_world r.commitFailure rfl rfl
  | rollback => exact answer_world r.rollbackFailure rfl rfl
  | close => exact ⟨rfl, rfl⟩

theorem after_of_outcomes_eq_nil {r : Rehearsal} (h : r.outcomes = []) (calls : List Call) :
    (database.after calls r).outcomes = [] ∧ (database.after calls r).clock = r.clock := by
  induction calls generalizing r with
  | nil => exact ⟨h, rfl⟩
  | cons c cs ih =>
    obtain ⟨houtcomes, hclock⟩ := respond_of_outcomes_eq_nil h c
    rw [Database.after_cons, ← hclock]
    exact ih (houtcomes.trans h)

theorem lawful_of_outcomes_eq_nil {r : Rehearsal} (h : r.outcomes = [])
    (hclock : (millisecondsBetween r.clock r.clock).isOk) : database.Lawful r where
  rows calls sql rows hr := ⟨-1, execute_reply (after_of_outcomes_eq_nil h calls).1 hr⟩
  clock calls later := by
    change (millisecondsBetween (database.after calls r).clock
      (database.after (calls ++ later) r).clock).isOk
    rwa [(after_of_outcomes_eq_nil h _).2, (after_of_outcomes_eq_nil h _).2]

def StandsStill (r : Rehearsal) : Prop := ∀ o ∈ r.outcomes, r.clock + o.advance = r.clock

theorem standsStill_of_advance {r : Rehearsal} (hclock : r.clock + 0 = r.clock)
    (h : ∀ o ∈ r.outcomes, o.advance = 0) : r.StandsStill := by
  intro o ho
  rw [h o ho, hclock]

theorem next_world {r : Rehearsal} (h : r.StandsStill) (afterLast : Json) :
    (r.next afterLast).2.clock = r.clock ∧ (r.next afterLast).2.outcomes <:+ r.outcomes := by
  unfold next
  split
  · exact ⟨rfl, List.suffix_rfl⟩
  · next o os ho => exact ⟨h o (by simp [ho]), ⟨[o], ho.symm⟩⟩

theorem next_reply {r : Rehearsal} {afterLast rows : Json} (h : (r.next afterLast).1 = .ok rows) :
    rows = afterLast ∨ ∃ o ∈ r.outcomes, o.reply = .ok rows := by
  unfold next at h
  split at h
  · exact .inl (Except.ok.inj h).symm
  · next o os ho => exact .inr ⟨o, by simp [ho], h⟩

theorem executor_after {r : Rehearsal} (h : r.StandsStill) (statements : List String) :
    (executor.after statements r).clock = r.clock ∧
      (executor.after statements r).outcomes <:+ r.outcomes := by
  induction statements generalizing r with
  | nil => exact ⟨rfl, List.suffix_rfl⟩
  | cons sql rest ih =>
    obtain ⟨hclock, hsuffix⟩ := next_world h .null
    have hnext : (r.next .null).2.StandsStill := by
      intro o ho
      rw [hclock]
      exact h o (hsuffix.subset ho)
    obtain ⟨hclock', hsuffix'⟩ := ih hnext
    exact ⟨hclock'.trans hclock, hsuffix'.trans hsuffix⟩

theorem lawful_executor {r : Rehearsal} (h : r.StandsStill)
    (hrows : ∀ o ∈ r.outcomes, ∀ rows, o.reply = .ok rows → ∃ count, rows = .ofInt? count)
    (hclock : (millisecondsBetween r.clock r.clock).isOk) : executor.Lawful r where
  rows statements sql rows hr := by
    obtain rfl | ⟨o, ho, hreply⟩ := next_reply hr
    · exact ⟨none, rfl⟩
    · exact hrows o ((executor_after h statements).2.subset ho) rows hreply
  clock statements later := by
    change (millisecondsBetween (executor.after statements r).clock
      (executor.after (statements ++ later) r).clock).isOk
    rwa [(executor_after h _).1, (executor_after h _).1]

structure FailsWith (P : Failure → Prop) (r : Rehearsal) : Prop where
  connect : ∀ e, r.connectFailure = some e → P e
  start : ∀ e, r.beginFailure = some e → P e
  execute : ∀ o ∈ r.outcomes, ∀ e, o.reply = .error e → P e
  commit : ∀ e, r.commitFailure = some e → P e
  rollback : ∀ e, r.rollbackFailure = some e → P e

namespace FailsWith

variable {P : Failure → Prop} {r : Rehearsal} {e : Failure}

theorem next (h : r.FailsWith P) (afterLast : Json) : (r.next afterLast).2.FailsWith P := by
  unfold Rehearsal.next
  split
  · exact h
  · next o os ho =>
    refine { h with execute := fun o' ho' ↦ ?_ }
    exact h.execute o' (ho ▸ List.mem_cons_of_mem o ho')

theorem of_next (h : r.FailsWith P) {afterLast : Json} (he : (r.next afterLast).1 = .error e) :
    P e := by
  unfold Rehearsal.next at he
  split at he
  · cases he
  · next o os ho => exact h.execute o (ho ▸ List.mem_cons_self) e he

theorem answer {failure : Option Failure} {changed : Rehearsal} (hchanged : changed.FailsWith P)
    (h : r.FailsWith P) : (answer failure changed r).2.FailsWith P := by
  cases failure with
  | none => exact hchanged
  | some e => exact h

theorem of_answer {failure : Option Failure} {changed : Rehearsal}
    (hfailure : ∀ e, failure = some e → P e)
    (he : (Rehearsal.answer failure changed r).1 = .error e) : P e := by
  cases failure with
  | none => cases he
  | some e' =>
    cases he
    exact hfailure e rfl

theorem respond (h : r.FailsWith P) (c : Call) : (database.respond c r).2.FailsWith P := by
  cases c with
  | connect path => exact h.answer h
  | execute sql =>
    change (Rehearsal.execute sql r).2.FailsWith P
    unfold Rehearsal.execute
    split
    · exact answer { h with } h
    · exact h.next _
  | commit => exact answer { h with } h
  | rollback => exact answer { h with } h
  | close => exact h

theorem after (h : r.FailsWith P) (calls : List Call) : (database.after calls r).FailsWith P := by
  induction calls generalizing r with
  | nil => exact h
  | cons c cs ih => exact ih (h.respond c)

theorem of_execute (h : r.FailsWith P) {sql : String}
    (he : (Rehearsal.execute sql r).1 = .error e) : P e := by
  unfold Rehearsal.execute at he
  split at he
  · refine h.start e ?_
    cases hbegin : r.beginFailure with
    | none => simp [hbegin, Rehearsal.answer, Except.map] at he
    | some e' => simpa [hbegin, Rehearsal.answer, Except.map] using he
  · exact h.of_next he

theorem database (h : r.FailsWith P) : database.FailsWith P r where
  connect calls _ _ he := of_answer (h.after calls).connect he
  execute calls _ _ he := (h.after calls).of_execute he
  commit calls _ he := of_answer (h.after calls).commit he
  rollback calls _ he := of_answer (h.after calls).rollback he
  close _ _ he := nomatch he

end FailsWith

end Rehearsal

end RevisionScript
