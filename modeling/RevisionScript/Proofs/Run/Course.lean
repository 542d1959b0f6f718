import RevisionScript.Proofs.Run.Execution
import RevisionScript.Proofs.Run.Fault
import RevisionScript.Proofs.Script.Statement
import RevisionScript.Run.Transaction

namespace RevisionScript

namespace Database

variable {W : Type} {db : Database W} {P : Failure → Prop} {w : W} {cs : List Call} {c : Call}

structure FailsWith (db : Database W) (P : Failure → Prop) (w : W) : Prop where
  connect : ∀ calls path e, (db.connect path (db.after calls w)).1 = .error e → P e
  execute : ∀ calls sql e, (db.execute sql (db.after calls w)).1 = .error e → P e
  commit : ∀ calls e, (db.commit (db.after calls w)).1 = .error e → P e
  rollback : ∀ calls e, (db.rollback (db.after calls w)).1 = .error e → P e
  close : ∀ calls e, (db.close (db.after calls w)).1 = .error e → P e

theorem FailsWith.after (h : db.FailsWith P w) (calls : List Call) :
    db.FailsWith P (db.after calls w) := by
  constructor
  all_goals
    intro calls'
    rw [← after_append]
  · exact h.connect _
  · exact h.execute _
  · exact h.commit _
  · exact h.rollback _
  · exact h.close _

theorem mem_of_mem_transcript {succeeded : Bool} (h : (c, succeeded) ∈ db.transcript cs w) :
    c ∈ cs := by
  induction cs generalizing w with
  | nil => cases h
  | cons c' cs ih =>
    obtain h | h := List.mem_cons.1 h
    · cases h
      exact List.mem_cons_self
    · exact List.mem_cons_of_mem _ (ih h)

end Database

namespace Act

variable {W α : Type} {db : Database W} {act : Act W α} {last : Act W Unit} {s : Session W}

theorem reply_ending :
    reply (ending act last) s = reply last (final act s) >>= fun _ ↦ reply act s := by
  unfold reply ending final
  cases hact : act s with
  | ok a s' => cases hlast : last s' <;> simp [hlast, bind, Except.bind]
  | error e s' => cases hlast : last s' <;> simp [hlast, bind, Except.bind]

/-- The last action may fail as well; its failure is the one that counts. -/
theorem Gives.ending {cs ds : List Call} {r : Except Failure α} {closing : Except Failure Unit}
    (h : Gives db act s cs r)
    (hlast : ∀ s', s'.world = db.after cs s.world → Gives db last s' ds closing) :
    Gives db (ending act last) s (cs ++ ds) (closing >>= fun _ ↦ r) := by
  have hlast := hlast _ h.world
  refine ⟨?_, ?_, ?_⟩
  · rw [final_ending, hlast.calls, h.calls, List.append_assoc]
  · rw [final_ending, hlast.world, h.world, Database.after_append]
  · rw [reply_ending, hlast.reply, h.reply]

end Act

namespace Run

open Act

variable {W : Type} {db : Database W} {settings : Settings} {s : Session W}

/-- What a run calls between connecting and closing, and what it replies. Its ending depends on its
result, and without a result there is none. -/
inductive Course (db : Database W) (settings : Settings) (statements : List String) (w : W) :
    List Call → Except Failure RunResult → Prop
  | refused (h : db.inTransaction w = true) :
      Course db settings statements w [] (.error (.revision (.database .transactionOpen)))
  | unbegun {e : Failure} (h : (db.execute "BEGIN" w).1 = .error e) :
      Course db settings statements w [.execute "BEGIN"] (.error e)
  | broken {cs : List Call} {e : Failure} (hbegin : (db.respond (.execute "BEGIN") w).1 = true)
      (h : Ran db settings statements (db.respond (.execute "BEGIN") w).2 cs (.error e))
      (hfault : Fault db.executor settings (db.respond (.execute "BEGIN") w).2 e) :
      Course db settings statements w (.execute "BEGIN" :: cs) (.error e)
  | committed {cs : List Call} {result : RunResult}
      (hbegin : (db.respond (.execute "BEGIN") w).1 = true)
      (h : Ran db settings statements (db.respond (.execute "BEGIN") w).2 cs (.ok result))
      (hstatus : result.status = .succeeded) (hdry : settings.dryRun = false) :
      Course db settings statements w (.execute "BEGIN" :: (cs ++ [.commit]))
        ((fun _ ↦ result) <$> (db.commit (db.after (.execute "BEGIN" :: cs) w)).1)
  | undone {cs : List Call} {result : RunResult}
      (hbegin : (db.respond (.execute "BEGIN") w).1 = true)
      (h : Ran db settings statements (db.respond (.execute "BEGIN") w).2 cs (.ok result))
      (hstatus : result.status = .succeeded → settings.dryRun = true) :
      Course db settings statements w (.execute "BEGIN" :: (cs ++ [.rollback]))
        ((fun _ ↦ result) <$> (db.rollback (db.after (.execute "BEGIN" :: cs) w)).1)

theorem Ran.not_mem {statements : List String} {w : W} {cs : List Call}
    {reply : Except Failure RunResult} (h : Ran db settings statements w cs reply) :
    .commit ∉ cs ∧ .rollback ∉ cs := by
  obtain ⟨k, rfl⟩ := h.calls
  constructor
  · intro hmem
    obtain ⟨sql, -, hsql⟩ := List.mem_map.1 hmem
    cases hsql
  · intro hmem
    obtain ⟨sql, -, hsql⟩ := List.mem_map.1 hmem
    cases hsql

inductive Concluded (db : Database W) (settings : Settings) (w : W) (cs : List Call)
    (result : RunResult) : Prop
  | committed (hstatus : result.status = .succeeded) (hdry : settings.dryRun = false)
      (hcommit : (.commit, true) ∈ db.transcript cs w) (hrollback : .rollback ∉ cs) :
      Concluded db settings w cs result
  | undone (hstatus : result.status = .succeeded → settings.dryRun = true) (hcommit : .commit ∉ cs)
      (hrollback : .rollback ∈ cs) : Concluded db settings w cs result

theorem Concluded.connected {w : W} {cs : List Call} {result : RunResult} {path : String}
    (h : Concluded db settings (db.respond (.connect path) w).2 cs result) :
    Concluded db settings w (.connect path :: (cs ++ [.close])) result := by
  cases h with
  | committed hstatus hdry hcommit hrollback =>
    refine .committed hstatus hdry ?_ (by simp [hrollback])
    rw [Database.transcript_cons, Database.transcript_append]
    exact List.mem_cons_of_mem _ (List.mem_append_left _ hcommit)
  | undone hstatus hcommit hrollback =>
    exact .undone hstatus (by simp [hcommit]) (by simp [hrollback])

namespace Course

variable {statements : List String} {w : W} {cs : List Call} {reply : Except Failure RunResult}

/-- A run that has a result either commits or rolls back. -/
theorem concluded (h : Course db settings statements w cs reply) {result : RunResult}
    (hreply : reply = .ok result) : Concluded db settings w cs result := by
  cases h with
  | refused => cases hreply
  | unbegun => cases hreply
  | broken => cases hreply
  | @committed cs result' _ hran hstatus hdry =>
    obtain ⟨u, hcommit, rfl⟩ := except_map_eq_ok hreply
    refine .committed hstatus hdry ?_ (by simp [hran.not_mem])
    have hrespond : (db.respond .commit (db.after (.execute "BEGIN" :: cs) w)).1 = true := by
      rw [Database.respond, hcommit]
      rfl
    rw [← List.cons_append, Database.transcript_append]
    exact List.mem_append_right _ (List.mem_singleton.2 (by rw [hrespond]))
  | @undone cs result' _ hran hstatus =>
    obtain ⟨u, -, rfl⟩ := except_map_eq_ok hreply
    exact .undone hstatus (by simp [hran.not_mem]) (by simp)

/-- When a driver never fails in the terms of revisions, such a failure of a run comes before any
commit or rollback. -/
theorem of_revision (h : Course db settings statements w cs reply)
    (hforeign : db.FailsWith (fun e ↦ ∀ f, e ≠ .revision f) w) {failure : RevisionFailure}
    (hreply : reply = .error (.revision failure)) : .commit ∉ cs ∧ .rollback ∉ cs := by
  cases h with
  | refused => simp
  | unbegun => simp
  | broken _ hran => simp [hran.not_mem]
  | committed => exact absurd rfl (hforeign.commit _ _ (except_map_eq_error hreply) failure)
  | undone => exact absurd rfl (hforeign.rollback _ _ (except_map_eq_error hreply) failure)

end Course

theorem does_begin : Does db db.begin s fun cs r ↦
    (db.inTransaction s.world = true ∧ cs = [] ∧
      r = .error (.revision (.database .transactionOpen))) ∨
    (cs = [.execute "BEGIN"] ∧ r = (fun _ ↦ ()) <$> (db.execute "BEGIN" s.world).1) := by
  unfold Database.begin
  refine does_observe ?_
  split
  · next h => exact does_throw (.inl ⟨h, rfl, rfl⟩)
  · have hcall : Gives db (call (.execute "BEGIN") (db.execute "BEGIN")) s [.execute "BEGIN"]
        (db.execute "BEGIN" s.world).1 := gives_call rfl
    exact (hcall.map fun _ ↦ ()).does (.inr ⟨rfl, rfl⟩)

theorem does_run_or_fault (token : String) (revision : Revision) :
    Does db (run db.executor settings token revision) s fun cs r ↦
      Ran db settings revision.statements s.world cs r ∧
        ∀ e, r = .error e → Fault db.executor settings s.world e := by
  obtain ⟨cs, hc, hw, hran⟩ := does_run (s := s) token revision
  exact ⟨cs, hc, hw, hran, fun e he ↦ fault_of_run he⟩

theorem does_inTransaction (token : String) (revision : Revision) :
    Does db (inTransaction db settings token revision) s
      (Course db settings revision.statements s.world) := by
  unfold inTransaction
  refine does_begin.bind ?_ ?_
  · intro cs e hp
    rcases hp with ⟨hopen, rfl, he⟩ | ⟨rfl, he⟩
    · cases he
      exact .refused hopen
    · exact .unbegun (except_map_eq_error he.symm)
  rintro cs ⟨⟩ s₁ hs₁ (⟨-, -, h⟩ | ⟨rfl, h⟩)
  · cases h
  have hbegin : (db.respond (.execute "BEGIN") s.world).1 = true := by
    obtain ⟨rows, hrows, -⟩ := except_map_eq_ok h.symm
    rw [Database.respond, hrows]
    rfl
  have hworld : s₁.world = (db.respond (.execute "BEGIN") s.world).2 := hs₁
  refine (does_run_or_fault token revision).bind ?_ ?_
  · intro cs e hp
    rcases hp with ⟨hran, hfault⟩
    rw [hworld] at hran hfault
    exact .broken hbegin hran (hfault e rfl)
  intro cs result s₂ hs₂ hp
  rcases hp with ⟨hran, -⟩
  have hworld₂ : s₂.world = db.after (.execute "BEGIN" :: cs) s.world := by
    rw [hs₂, hworld, Database.after_cons]
  rw [hworld] at hran
  split
  · next hcommit =>
    simp only [Bool.and_eq_true, decide_eq_true_eq, Bool.not_eq_true'] at hcommit
    have hlast : Gives db db.commitTransaction s₂ [.commit] (db.commit s₂.world).1 := gives_call rfl
    refine (hlast.map fun _ ↦ result).does ?_
    rw [hworld₂]
    exact .committed hbegin hran hcommit.1 hcommit.2
  · next hcommit =>
    have hdry : result.status = .succeeded → settings.dryRun = true := by
      intro hs
      by_contra hdry
      simp [hs, hdry] at hcommit
    have hlast : Gives db db.rollbackTransaction s₂ [.rollback] (db.rollback s₂.world).1 :=
      gives_call rfl
    refine (hlast.map fun _ ↦ result).does ?_
    rw [hworld₂]
    exact .undone hbegin hran hdry

theorem begin_not_mem_of_load {files : Files} {path : Path} {encoding : String}
    {revision : Revision}
    (h : files.load path encoding = .ok revision) : "BEGIN" ∉ revision.statements := by
  obtain ⟨text, -, hparsed⟩ := except_bind_eq_ok h
  cases hp : Revision.parse text with
  | error command =>
    rw [hp] at hparsed
    cases hparsed
  | ok r =>
    rw [hp] at hparsed
    cases hparsed
    intro hbegin
    have hopen := (Revision.parse_eq_ok_iff.1 hp).2 "BEGIN" hbegin
    revert hopen
    decide +kernel

inductive FileCourse (db : Database W) (files : Files) (settings : Settings) (path database : Path)
    (w : W) : List Call → Except Failure RunResult → Prop
  | unread {e : Failure} (h : files.load path settings.encoding = .error e) :
      FileCourse db files settings path database w [] (.error e)
  | unconnected {revision : Revision} {e : Failure}
      (hload : files.load path settings.encoding = .ok revision)
      (h : (db.connect database.text w).1 = .error e) :
      FileCourse db files settings path database w [.connect database.text]
        (.error (Database.unavailable database e))
  | connected {revision : Revision} {body : List Call} {reply : Except Failure RunResult}
      (hload : files.load path settings.encoding = .ok revision)
      (hconnect : (db.respond (.connect database.text) w).1 = true)
      (h : Course db settings revision.statements (db.respond (.connect database.text) w).2 body
        reply) :
      FileCourse db files settings path database w (.connect database.text :: (body ++ [.close]))
        ((db.close (db.after (.connect database.text :: body) w)).1 >>= fun _ ↦ reply)

/-- What the calls of a run tell of its result, and its result of the calls. -/
structure Settled (db : Database W) (settings : Settings) (w : W) (cs : List Call)
    (reply : Except Failure RunResult) : Prop where
  of_commit : .commit ∈ cs →
    settings.dryRun = false ∧ ∃ r, reply = .ok r ∧ r.status = .succeeded
  commit : settings.dryRun = false → ∀ r, reply = .ok r → r.status = .succeeded →
    (.commit, true) ∈ db.transcript cs w
  of_rollback : .rollback ∈ cs → settings.dryRun = false →
    ∃ r, reply = .ok r ∧ r.status ≠ .succeeded
  rollback : ∀ r, reply = .ok r → r.status ≠ .succeeded → .rollback ∈ cs

namespace FileCourse

variable {files : Files} {path database : Path} {w : W} {cs : List Call}
  {reply : Except Failure RunResult}

theorem concluded (h : FileCourse db files settings path database w cs reply) {result : RunResult}
    (hreply : reply = .ok result) : Concluded db settings w cs result := by
  cases h with
  | unread => cases hreply
  | unconnected => cases hreply
  | @connected revision body reply' _ _ hcourse =>
    obtain ⟨u, -, hreply⟩ := except_bind_eq_ok hreply
    exact (hcourse.concluded hreply).connected

theorem of_revision (h : FileCourse db files settings path database w cs reply)
    (hforeign : db.FailsWith (fun e ↦ ∀ f, e ≠ .revision f) w) {failure : RevisionFailure}
    (hreply : reply = .error (.revision failure)) : .commit ∉ cs ∧ .rollback ∉ cs := by
  cases h with
  | unread => simp
  | unconnected => simp
  | @connected revision body reply' _ _ hcourse =>
    cases hclose : (db.close (db.after (.connect database.text :: body) w)).1 with
    | error e =>
      rw [hclose] at hreply
      cases hreply
      exact absurd rfl (hforeign.close _ _ hclose failure)
    | ok u =>
      rw [hclose] at hreply
      have hcalls := hcourse.of_revision (hforeign.after [.connect database.text]) hreply
      simp [hcalls]

/-- A run commits when it succeeds and is no dry run, and only then. What it rolls back has not
succeeded unless the run is dry. -/
theorem settled (h : FileCourse db files settings path database w cs reply)
    (hforeign : db.FailsWith (fun e ↦ ∀ f, e ≠ .revision f) w)
    (hrevision : ∀ e, reply = .error e → ∃ f, e = .revision f) :
    Settled db settings w cs reply := by
  cases hreply : reply with
  | error e =>
    obtain ⟨f, rfl⟩ := hrevision e hreply
    obtain ⟨hcommit, hrollback⟩ := h.of_revision hforeign hreply
    exact ⟨fun hmem ↦ absurd hmem hcommit, nofun, fun hmem ↦ absurd hmem hrollback, nofun⟩
  | ok result =>
    cases h.concluded hreply with
    | committed hstatus hdry hcommit hrollback =>
      refine ⟨fun _ ↦ ⟨hdry, result, rfl, hstatus⟩, fun _ _ _ _ ↦ hcommit,
        fun hmem ↦ absurd hmem hrollback, fun r hr hfailed ↦ ?_⟩
      cases hr
      exact absurd hstatus hfailed
    | undone hstatus hcommit hrollback =>
      refine ⟨fun hmem ↦ absurd hmem hcommit, fun hdry r hr hsucceeded ↦ ?_,
        fun _ hdry ↦ ⟨result, rfl, fun hsucceeded ↦ ?_⟩, fun _ _ _ ↦ hrollback⟩
      · cases hr
        exact absurd (hstatus hsucceeded) (Bool.eq_false_iff.1 hdry)
      · exact absurd (hstatus hsucceeded) (Bool.eq_false_iff.1 hdry)

end FileCourse

theorem does_runFile (files : Files) (token : String) (path database : Path) :
    Does db (runFile db settings files token path database) s
      (FileCourse db files settings path database s.world) := by
  unfold runFile
  cases hload : files.load path settings.encoding with
  | error e => exact (gives_ofExcept (.error e)).bind_error.does (.unread hload)
  | ok revision =>
    change Does db (db.connectTo database >>= fun _ ↦
      ending (inTransaction db settings token revision) db.closeConnection) s _
    have hconnect : Gives db (db.connectTo database) s [.connect database.text]
        ((db.connect database.text s.world).1.mapError (Database.unavailable database)) :=
      gives_call rfl
    cases hreply : (db.connect database.text s.world).1 with
    | error e =>
      rw [hreply] at hconnect
      exact hconnect.bind_error.does (.unconnected hload hreply)
    | ok u =>
      rw [hreply] at hconnect
      have hok : (db.respond (.connect database.text) s.world).1 = true := by
        rw [Database.respond, hreply]
        rfl
      have hdoes : Does db (inTransaction db settings token revision)
          (final (db.connectTo database) s) _ := does_inTransaction token revision
      obtain ⟨body, r, hbody, hcourse⟩ := hdoes.exists_gives
      rw [hconnect.world, Database.after_cons, Database.after_nil] at hcourse
      have hclose : ∀ s', s'.world = db.after body (final (db.connectTo database) s).world →
          Gives db db.closeConnection s' [.close]
            (db.close (db.after (.connect database.text :: body) s.world)).1 := by
        intro s' hs'
        rw [hconnect.world, ← Database.after_append, List.singleton_append] at hs'
        rw [← hs']
        exact gives_call rfl
      have hgives := FileCourse.connected hload hok hcourse
      exact (hconnect.bind_ok (hbody.ending hclose)).does hgives

theorem fileCourse_runFile (files : Files) (token : String) (path database : Path) (w : W) :
    FileCourse db files settings path database w
      (final (runFile db settings files token path database) { world := w }).calls
      (reply (runFile db settings files token path database) { world := w }) := by
  have hdoes : Does db (runFile db settings files token path database) { world := w } _ :=
    does_runFile files token path database
  obtain ⟨cs, hcalls, -, h⟩ := hdoes
  rw [hcalls]
  exact h

end Run

end RevisionScript
