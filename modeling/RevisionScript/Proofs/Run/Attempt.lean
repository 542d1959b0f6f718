import RevisionScript.Proofs.Run.Executor
import RevisionScript.Proofs.Run.Progress
import RevisionScript.Proofs.Run.Tally

namespace RevisionScript

section

variable {ε α : Type}

theorem mapM_id_ok_cons (a : α) (as : List (Except ε α)) :
    (Except.ok a :: as).mapM id = List.cons a <$> as.mapM id := by
  rw [List.mapM_cons]
  rfl

theorem mapM_id_map_ok (as : List α) : (as.map (Except.ok (ε := ε))).mapM id = .ok as := by
  induction as with
  | nil => rfl
  | cons a as ih =>
    rw [List.map_cons, mapM_id_ok_cons, ih]
    rfl

theorem mapM_id_map_ok_append_error (as : List α) (e : ε) :
    (as.map Except.ok ++ [Except.error e]).mapM id = .error e := by
  induction as with
  | nil => rfl
  | cons a as ih =>
    rw [List.map_cons, List.cons_append, mapM_id_ok_cons, ih]
    rfl

theorem mem_of_mapM_id_eq_error {as : List (Except ε α)} {e : ε} (h : as.mapM id = .error e) :
    .error e ∈ as := by
  induction as with
  | nil => cases h
  | cons a as ih =>
    cases a with
    | error e' =>
      cases h
      exact List.mem_cons_self
    | ok a =>
      rw [mapM_id_ok_cons] at h
      cases has : as.mapM id with
      | error e' =>
        rw [has] at h
        cases h
        exact List.mem_cons_of_mem _ (ih has)
      | ok bs =>
        rw [has] at h
        cases h

end

namespace Run

open Act

variable {W : Type} (executor : Executor W) (settings : Settings)

def performed (index : Nat) (sql : String) (w : W) : Except Failure StatementResult :=
  resultOf index sql
    (millisecondsBetween (executor.now w) (executor.now (executor.execute sql w).2))
    (executor.execute sql w).1

def announcement (markup : String) : Except Failure Unit :=
  if settings.showProgress then
    match Console.message markup with
    | .ok _ => .ok ()
    | .error e => .error (.markup e)
  else .ok ()

def attempt (index : Nat) (sql : String) (w : W) : Except Failure StatementResult :=
  match performed executor index sql w with
  | .error e => .error e
  | .ok r => (fun _ ↦ r) <$> announcement settings (outcomeLine r)

def attempts : Nat → List String → W → List (Except Failure StatementResult)
  | _, [], _ => []
  | index, sql :: rest, w =>
    match attempt executor settings index sql w with
    | .error e => [.error e]
    | .ok r => .ok r ::
      if r.status = .failed && settings.stopOnError then []
      else attempts (index + 1) rest (executor.execute sql w).2

variable {executor settings} {db : Database W} {s : Session W} {index : Nat} {sql : String}
  {rest : List String} {w : W} {r : StatementResult}

/-- A result is made of a row count or of the text of a failure. -/
theorem exists_of_resultOf_eq_ok {milliseconds : Except Failure Int} {reply : Except Failure Json}
    (h : resultOf index sql milliseconds reply = .ok r) :
    ∃ ms, (∃ rows rowsAffected, reply = .ok rows ∧
        r = { index, sql, status := .succeeded, milliseconds := ms, rowsAffected }) ∨
      ∃ e, reply = .error e ∧ r =
        { index, sql, status := .failed, milliseconds := ms, errorMessage := some e.message } := by
  unfold resultOf at h
  cases reply with
  | error e =>
    cases he : e.endsRun <;> cases milliseconds <;> simp only [he, reduceIte] at h <;> cases h
    exact ⟨_, .inr ⟨e, rfl, rfl⟩⟩
  | ok rows =>
    cases milliseconds with
    | error e => cases h
    | ok ms =>
      cases hr : RecordField.orNull RecordField.readInt rows with
      | error kind =>
        simp only [hr, bind, Except.bind] at h
        cases h
      | ok rowsAffected =>
        simp only [hr, bind, Except.bind] at h
        cases h
        exact ⟨ms, .inl ⟨rows, rowsAffected, rfl, rfl⟩⟩

theorem cases_of_resultOf_eq_ok {milliseconds : Except Failure Int} {reply : Except Failure Json}
    (h : resultOf index sql milliseconds reply = .ok r) :
    (reply.isOk = true ∧ r.status = .succeeded ∧ r.errorMessage = none) ∨
      ∃ e, reply = .error e ∧ r.status = .failed ∧ r.errorMessage = some e.message := by
  obtain ⟨ms, ⟨rows, rowsAffected, rfl, rfl⟩ | ⟨e, rfl, rfl⟩⟩ := exists_of_resultOf_eq_ok h
  · exact .inl ⟨rfl, rfl, rfl⟩
  · exact .inr ⟨e, rfl, rfl, rfl⟩

/-- Without a result, the answer has ended the run, or the time or the row count is not known. -/
theorem cases_of_resultOf_eq_error {milliseconds : Except Failure Int}
    {reply : Except Failure Json} {e : Failure}
    (h : resultOf index sql milliseconds reply = .error e) :
    (reply = .error e ∧ e.endsRun = true) ∨ milliseconds = .error e ∨
      ∃ rows kind, reply = .ok rows ∧ RecordField.orNull RecordField.readInt rows = .error kind ∧
        e = .mismatch [⟨[.field "rows_affected"], kind⟩] := by
  unfold resultOf at h
  cases reply with
  | error e' =>
    cases he : e'.endsRun <;> cases milliseconds <;> simp only [he, reduceIte] at h <;> cases h
    · exact .inr (.inl rfl)
    · exact .inl ⟨rfl, he⟩
    · exact .inl ⟨rfl, he⟩
  | ok rows =>
    cases milliseconds with
    | error e' =>
      cases h
      exact .inr (.inl rfl)
    | ok ms =>
      cases hr : RecordField.orNull RecordField.readInt rows with
      | error kind =>
        simp only [hr, bind, Except.bind] at h
        cases h
        exact .inr (.inr ⟨rows, kind, rfl, hr, rfl⟩)
      | ok rowsAffected =>
        simp only [hr, bind, Except.bind] at h
        cases h

theorem announcement_of_isOk {markup : String} (h : (Console.message markup).isOk) :
    announcement settings markup = .ok () := by
  unfold announcement
  cases hm : Console.message markup with
  | ok text => simp
  | error e => simp [hm, Except.isOk, Except.toBool] at h

theorem attempt_of_performed (h : performed executor index sql w = .ok r) :
    attempt executor settings index sql w =
      (fun _ ↦ r) <$> announcement settings (outcomeLine r) := by
  rw [attempt, h]

theorem performed_of_attempt (h : attempt executor settings index sql w = .ok r) :
    performed executor index sql w = .ok r := by
  unfold attempt at h
  split at h
  · cases h
  · next hr =>
    rw [hr]
    cases ha : announcement settings (outcomeLine _) with
    | error e =>
      rw [ha] at h
      cases h
    | ok u =>
      rw [ha] at h
      exact h

theorem attempt_of_quiet (hquiet : settings.showProgress = false) (index : Nat) (sql : String) :
    attempt executor settings index sql w = performed executor index sql w := by
  unfold attempt announcement
  rw [hquiet]
  cases performed executor index sql w <;> rfl

theorem attempts_of_error {e : Failure} (h : attempt executor settings index sql w = .error e) :
    attempts executor settings index (sql :: rest) w = [.error e] := by
  rw [attempts, h]

theorem attempts_of_stop (h : attempt executor settings index sql w = .ok r)
    (hstop : (r.status = .failed && settings.stopOnError) = true) :
    attempts executor settings index (sql :: rest) w = [.ok r] := by
  rw [attempts, h]
  exact congrArg _ (if_pos hstop)

theorem attempts_of_ok (h : attempt executor settings index sql w = .ok r)
    (hstop : ¬ (r.status = .failed && settings.stopOnError) = true) :
    attempts executor settings index (sql :: rest) w =
      .ok r :: attempts executor settings (index + 1) rest (executor.execute sql w).2 := by
  rw [attempts, h]
  exact congrArg _ (if_neg hstop)

variable (executor settings) in
theorem exists_attempts_cons (index : Nat) (sql : String) (rest : List String) (w : W) :
    ∃ later, attempts executor settings index (sql :: rest) w =
        attempt executor settings index sql w :: later ∧
      later <+: attempts executor settings (index + 1) rest (executor.execute sql w).2 := by
  cases h : attempt executor settings index sql w with
  | error e => exact ⟨[], attempts_of_error h, List.nil_prefix⟩
  | ok r =>
    by_cases hstop : (r.status = .failed && settings.stopOnError) = true
    · exact ⟨[], attempts_of_stop h hstop, List.nil_prefix⟩
    · exact ⟨_, attempts_of_ok h hstop, List.prefix_rfl⟩

theorem exists_attempt_of_mem {statements : List String} {a : Except Failure StatementResult}
    (h : a ∈ attempts executor settings index statements w) :
    ∃ i sql done, a = attempt executor settings i sql (executor.after done w) := by
  induction statements generalizing index w with
  | nil => cases h
  | cons sql rest ih =>
    obtain ⟨later, hmade, hlater⟩ := exists_attempts_cons executor settings index sql rest w
    rw [hmade] at h
    obtain rfl | h := List.mem_cons.1 h
    · exact ⟨index, sql, [], rfl⟩
    · obtain ⟨i, sql', done, ha⟩ := ih (hlater.subset h)
      exact ⟨i, sql', sql :: done, ha⟩

variable (executor settings) in
/-- Only the last attempt can end the run. -/
theorem exists_attempts_eq (index : Nat) (statements : List String) (w : W) :
    ∃ rs : List StatementResult, attempts executor settings index statements w = rs.map .ok ∨
      ∃ e, attempts executor settings index statements w = rs.map .ok ++ [.error e] := by
  induction statements generalizing index w with
  | nil => exact ⟨[], .inl rfl⟩
  | cons sql rest ih =>
    cases h : attempt executor settings index sql w with
    | error e => exact ⟨[], .inr ⟨e, attempts_of_error h⟩⟩
    | ok r =>
      by_cases hstop : (r.status = .failed && settings.stopOnError) = true
      · exact ⟨[r], .inl (attempts_of_stop h hstop)⟩
      · rw [attempts_of_ok h hstop]
        obtain ⟨rs, hrs | ⟨e, hrs⟩⟩ := ih (index + 1) (executor.execute sql w).2
        · exact ⟨r :: rs, .inl (by rw [hrs, List.map_cons])⟩
        · exact ⟨r :: rs, .inr ⟨e, by rw [hrs, List.map_cons, List.cons_append]⟩⟩

theorem gives_announce (markup : String) :
    Gives db (announce settings markup) s [] (announcement settings markup) := by
  unfold announce announcement
  split
  · cases hm : Console.message markup with
    | ok text => exact gives_say_ok hm
    | error e => exact gives_say_error hm
  · exact gives_pure ()

theorem gives_announce_of_isOk {markup : String} (h : (Console.message markup).isOk) :
    Gives db (announce settings markup) s [] (.ok ()) := by
  rw [← announcement_of_isOk h]
  exact gives_announce markup

theorem gives_perform (hdb : executor.DrivenBy db) (index : Nat) (sql : String) :
    Gives db (perform executor index sql) s [.execute sql]
      (performed executor index sql s.world) := by
  refine gives_observe ((gives_call (hdb sql s.world)).attempt.bind fun s' hs' ↦ ?_)
  have hworld : s'.world = (executor.execute sql s.world).2 := hs'.trans (hdb sql s.world).symm
  refine gives_observe ?_
  rw [hworld]
  exact gives_ofExcept _

theorem gives_attempt (hdb : executor.DrivenBy db) (index : Nat) (sql : String) :
    Gives db (do
      let r ← perform executor index sql
      announce settings (outcomeLine r)
      return r) s [.execute sql] (Run.attempt executor settings index sql s.world) := by
  have hperform := gives_perform (s := s) hdb index sql
  cases h : performed executor index sql s.world with
  | error e =>
    rw [h] at hperform
    rw [Run.attempt, h]
    exact hperform.bind_error
  | ok r =>
    rw [h] at hperform
    rw [attempt_of_performed h]
    refine hperform.bind fun s₁ _ ↦ ?_
    have hannounce : Gives db (announce settings (outcomeLine r)) s₁ [] _ := gives_announce _
    cases ha : announcement settings (outcomeLine r) with
    | error e =>
      rw [ha] at hannounce
      exact hannounce.bind_error
    | ok u =>
      rw [ha] at hannounce
      exact hannounce.bind fun s₂ _ ↦ gives_pure r

theorem performAll_cons (total index : Nat) (sql : String) (rest : List String) (t : Tally) :
    performAll executor settings total index (sql :: rest) t = (do
      announce settings s!"[cyan]Statement {index}/{total}[/cyan]"
      let r ← (do
        let r ← perform executor index sql
        announce settings (outcomeLine r)
        return r)
      if r.status = .failed && settings.stopOnError then return t.add index r
      performAll executor settings total (index + 1) rest (t.add index r)) := by
  rw [performAll]
  simp only [bind_assoc, pure_bind]

/-- The statements that are executed are those at which an attempt is made. -/
theorem gives_performAll (hdb : executor.DrivenBy db) (total index : Nat)
    (statements : List String) (t : Tally) :
    Gives db (performAll executor settings total index statements t) s
      ((statements.take
        (attempts executor settings index statements s.world).length).map .execute)
      (((attempts executor settings index statements s.world).mapM id).map (t.addAll index)) := by
  induction statements generalizing index s t with
  | nil => exact gives_pure t
  | cons sql rest ih =>
    rw [performAll_cons]
    refine (gives_announce_of_isOk (isOk_message_statement index total)).bind fun s₁ hs₁ ↦ ?_
    rw [Database.after_nil] at hs₁
    rw [← hs₁]
    have hattempt : Gives db _ s₁ [.execute sql]
        (Run.attempt executor settings index sql s₁.world) :=
      gives_attempt hdb index sql
    cases h : Run.attempt executor settings index sql s₁.world with
    | error e =>
      rw [h] at hattempt
      rw [attempts_of_error h]
      exact hattempt.bind_error
    | ok r =>
      rw [h] at hattempt
      by_cases hstop : (r.status = .failed && settings.stopOnError) = true
      · rw [attempts_of_stop h hstop]
        refine hattempt.bind fun s₂ _ ↦ ?_
        rw [if_pos hstop]
        exact gives_pure (t.add index r)
      · rw [attempts_of_ok h hstop, mapM_id_ok_cons]
        refine hattempt.bind fun s₂ hs₂ ↦ ?_
        have hworld : s₂.world = (executor.execute sql s₁.world).2 :=
          hs₂.trans (hdb sql s₁.world).symm
        have hadded (x : Except Failure (List StatementResult)) : (List.cons r <$> x).map
            (t.addAll index) = x.map ((t.add index r).addAll (index + 1)) := by
          cases x <;> rfl
        rw [if_neg hstop, ← hworld, hadded]
        exact ih (index + 1) (t.add index r)

theorem gives_measure {f : Int → RunResult} (started : Instant) :
    Gives db (do
      let ended ← observe executor.now
      let milliseconds ← Act.ofExcept (millisecondsBetween started ended)
      return f milliseconds) s [] ((millisecondsBetween started (executor.now s.world)).map f) :=
  gives_observe ((gives_ofExcept _).map f)

theorem gives_run_of_dry (hdry : settings.dryRun = true) (token : String) (revision : Revision) :
    Gives db (run executor settings token revision) s []
      ((millisecondsBetween (executor.now s.world) (executor.now s.world)).map
        (.ofTally (runIdOf token) revision.size { results := skipAll revision.statements })) := by
  unfold run
  refine gives_observe ?_
  rw [if_pos hdry]
  exact gives_measure _

theorem gives_run_of_not_dry (hdb : executor.DrivenBy db) (hdry : settings.dryRun = false)
    (token : String) (revision : Revision) {made : List (Except Failure StatementResult)}
    (hmade : attempts executor settings 1 revision.statements s.world = made) :
    Gives db (run executor settings token revision) s
      ((revision.statements.take made.length).map .execute)
      (made.mapM id >>= fun results ↦
        (millisecondsBetween (executor.now s.world)
          (executor.now (db.after ((revision.statements.take made.length).map .execute)
            s.world))).map
              (.ofTally (runIdOf token) revision.size (({} : Tally).addAll 1 results))) := by
  unfold run
  refine gives_observe ?_
  rw [hdry, if_neg Bool.false_ne_true]
  refine (gives_announce_of_isOk (isOk_message_total _)).bind fun s₁ hs₁ ↦ ?_
  rw [Database.after_nil] at hs₁
  rw [← hs₁] at hmade ⊢
  have hall : Gives db (performAll executor settings _ 1 revision.statements {}) s₁ _ _ :=
    gives_performAll hdb revision.size 1 revision.statements {}
  rw [hmade] at hall
  cases h : made.mapM id with
  | error e =>
    rw [h] at hall
    exact hall.bind_error
  | ok results =>
    rw [h] at hall
    rw [← List.append_nil (List.map _ _)]
    refine hall.bind fun s₂ hs₂ ↦ ?_
    rw [List.append_nil, ← hs₂]
    exact gives_measure _

variable (executor) in
theorem run_of_dry (settings : Settings) (hdry : settings.dryRun = true) (token : String)
    (revision : Revision) (w : W) :
    (final (run executor settings token revision) { world := w }).calls = [] ∧
      reply (run executor settings token revision) { world := w } =
        (millisecondsBetween (executor.now w) (executor.now w)).map
          (.ofTally (runIdOf token) revision.size { results := skipAll revision.statements }) := by
  have h : Gives executor.driver (run executor settings token revision) { world := w } _ _ :=
    gives_run_of_dry hdry token revision
  exact ⟨h.calls, h.reply⟩

variable (executor) in
theorem run_of_not_dry (settings : Settings) (hdry : settings.dryRun = false) (token : String)
    (revision : Revision) {made : List (Except Failure StatementResult)}
    (hmade : attempts executor settings 1 revision.statements w = made) :
    (final (run executor settings token revision) { world := w }).calls =
        (revision.statements.take made.length).map .execute ∧
      reply (run executor settings token revision) { world := w } =
        made.mapM id >>= fun results ↦
          (millisecondsBetween (executor.now w)
            (executor.now (executor.after (revision.statements.take made.length) w))).map
              (.ofTally (runIdOf token) revision.size (({} : Tally).addAll 1 results)) := by
  have h : Gives executor.driver (run executor settings token revision) { world := w } _ _ :=
    gives_run_of_not_dry executor.drivenBy_driver hdry token revision hmade
  rw [executor.drivenBy_driver.after_map] at h
  exact ⟨h.calls, h.reply⟩

end Run

end RevisionScript
