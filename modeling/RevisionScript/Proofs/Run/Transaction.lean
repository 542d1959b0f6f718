import RevisionScript.Proofs.Run.Course
import RevisionScript.Proofs.Run.Rehearsal

namespace RevisionScript

theorem executions_cons {sql : String} {succeeded : Bool} {log : List (Call × Bool)} :
    executions ((.execute sql, succeeded) :: log) = (sql, succeeded) :: executions log := rfl

theorem executions_eq_iff {W : Type} {db : Database W} {found statements : List String} {w : W} :
    executions (db.transcript (found.map .execute) w) = statements.map (·, true) ↔
      found = statements ∧ db.Accepts (found.map .execute) w := by
  induction found generalizing statements w with
  | nil => cases statements <;> simp [executions, Database.Accepts]
  | cons sql rest ih =>
    rw [List.map_cons, Database.accepts_cons, Database.transcript_cons]
    cases statements with
    | nil => simp [executions]
    | cons sql' statements =>
      rw [executions_cons, List.map_cons, List.cons.injEq, ih, Prod.mk.injEq, List.cons.injEq]
      tauto

theorem executions_ending {W : Type} {db : Database W} {cs : List Call} {last : Call} {w : W}
    (h : last = .commit ∨ last = .rollback) :
    executions (db.transcript (cs ++ [last]) w) = executions (db.transcript cs w) := by
  rw [Database.transcript_append, executions_append]
  obtain rfl | rfl := h <;> exact List.append_nil _

namespace Run

open Act

variable {W : Type} {db : Database W} {settings : Settings} {s : Session W}

inductive Conversation (db : Database W) (settings : Settings) (statements : List String) (w : W) :
    List Call → Prop
  | refused (h : db.inTransaction w = true) : Conversation db settings statements w []
  | unbegun (h : (db.respond (.execute "BEGIN") w).1 = false) :
      Conversation db settings statements w [.execute "BEGIN"]
  | broken {cs : List Call} {e : Failure} (hbegin : (db.respond (.execute "BEGIN") w).1 = true)
      (h : Ran db settings statements (db.respond (.execute "BEGIN") w).2 cs (.error e)) :
      Conversation db settings statements w (.execute "BEGIN" :: cs)
  | committed {cs : List Call} {result : RunResult}
      (hbegin : (db.respond (.execute "BEGIN") w).1 = true)
      (h : Ran db settings statements (db.respond (.execute "BEGIN") w).2 cs (.ok result))
      (hstatus : result.status = .succeeded) (hdry : settings.dryRun = false) :
      Conversation db settings statements w (.execute "BEGIN" :: (cs ++ [.commit]))
  | undone {cs : List Call} {result : RunResult}
      (hbegin : (db.respond (.execute "BEGIN") w).1 = true)
      (h : Ran db settings statements (db.respond (.execute "BEGIN") w).2 cs (.ok result))
      (hstatus : result.status = .succeeded → settings.dryRun = true) :
      Conversation db settings statements w (.execute "BEGIN" :: (cs ++ [.rollback]))

/-- How a run uses a connection until it closes it. After `BEGIN` statements are executed in order,
and at most one of commit and rollback follows: a commit exactly when each statement has been
executed once with success, and a rollback at the end of a dry run, which executes none. -/
structure IsTransaction (db : Database W) (settings : Settings) (statements : List String) (w : W)
    (calls : List Call) : Prop where
  order : calls = [] ∨ ∃ k last,
    calls = .execute "BEGIN" :: ((statements.take k).map .execute ++ last) ∧
      (last = [] ∨ last = [.commit] ∨ last = [.rollback]) ∧
      ((db.respond (.execute "BEGIN") w).1 = false → k = 0 ∧ last = [])
  of_commit : .commit ∈ calls → settings.dryRun = false ∧
    executions (db.transcript calls w) = ("BEGIN", true) :: statements.map (·, true)
  commit : db.Lawful w → settings.dryRun = false →
    executions (db.transcript calls w) = ("BEGIN", true) :: statements.map (·, true) →
      .commit ∈ calls
  dry : settings.dryRun = true → ∀ sql ∈ statements, .execute sql ∉ calls
  rollback : db.Lawful w → settings.dryRun = true →
    (.execute "BEGIN", true) ∈ db.transcript calls w → .rollback ∈ calls

theorem IsTransaction.close_not_mem {statements : List String} {w : W} {calls : List Call}
    (h : IsTransaction db settings statements w calls) : .close ∉ calls := by
  obtain rfl | ⟨k, last, rfl, hlast, -⟩ := h.order
  · exact List.not_mem_nil
  intro hmem
  rw [List.mem_cons, List.mem_append, List.mem_map] at hmem
  obtain hmem | ⟨_, -, hmem⟩ | hmem := hmem
  · cases hmem
  · cases hmem
  · obtain rfl | rfl | rfl := hlast <;> simp at hmem

namespace Conversation

variable {statements : List String} {w : W} {calls : List Call}

theorem order (h : Conversation db settings statements w calls) : calls = [] ∨ ∃ k last,
    calls = .execute "BEGIN" :: ((statements.take k).map .execute ++ last) ∧
      (last = [] ∨ last = [.commit] ∨ last = [.rollback]) ∧
      ((db.respond (.execute "BEGIN") w).1 = false → k = 0 ∧ last = []) := by
  cases h with
  | refused => exact .inl rfl
  | unbegun => exact .inr ⟨0, [], rfl, .inl rfl, fun _ ↦ ⟨rfl, rfl⟩⟩
  | broken hbegin h =>
    obtain ⟨k, rfl⟩ := h.calls
    refine .inr ⟨k, [], by rw [List.append_nil], .inl rfl, fun hfail ↦ ?_⟩
    exact absurd hbegin (Bool.eq_false_iff.1 hfail)
  | committed hbegin h =>
    obtain ⟨k, rfl⟩ := h.calls
    refine .inr ⟨k, [.commit], rfl, .inr (.inl rfl), fun hfail ↦ ?_⟩
    exact absurd hbegin (Bool.eq_false_iff.1 hfail)
  | undone hbegin h =>
    obtain ⟨k, rfl⟩ := h.calls
    refine .inr ⟨k, [.rollback], rfl, .inr (.inr rfl), fun hfail ↦ ?_⟩
    exact absurd hbegin (Bool.eq_false_iff.1 hfail)

theorem commit_not_mem (found : List String) :
    .commit ∉ Call.execute "BEGIN" :: found.map .execute := by
  simp

theorem of_commit (h : Conversation db settings statements w calls) (hcommit : .commit ∈ calls) :
    settings.dryRun = false ∧
      executions (db.transcript calls w) = ("BEGIN", true) :: statements.map (·, true) := by
  cases h with
  | refused => cases hcommit
  | unbegun => exact absurd hcommit (commit_not_mem [])
  | broken hbegin h =>
    obtain ⟨k, rfl⟩ := h.calls
    exact absurd hcommit (commit_not_mem _)
  | committed hbegin h hstatus hdry =>
    obtain ⟨rfl, haccepts⟩ := h.accepted hdry _ rfl hstatus
    refine ⟨hdry, ?_⟩
    rw [Database.transcript_cons, executions_cons, executions_ending (.inl rfl), hbegin,
      executions_eq_iff.2 ⟨rfl, haccepts⟩]
  | undone hbegin h =>
    obtain ⟨k, rfl⟩ := h.calls
    rw [← List.cons_append, List.mem_append] at hcommit
    obtain hcommit | hcommit := hcommit
    · exact absurd hcommit (commit_not_mem _)
    · cases List.mem_singleton.1 hcommit

theorem commit (h : Conversation db settings statements w calls) (hlaw : db.Lawful w)
    (hdry : settings.dryRun = false)
    (hall : executions (db.transcript calls w) = ("BEGIN", true) :: statements.map (·, true)) :
    .commit ∈ calls := by
  have hlaw' := hlaw.after [.execute "BEGIN"]
  cases h with
  | refused => cases hall
  | unbegun h =>
    rw [Database.transcript_cons, executions_cons, h] at hall
    cases hall
  | broken hbegin h =>
    obtain ⟨k, rfl⟩ := h.calls
    rw [Database.transcript_cons, executions_cons, List.cons.injEq, executions_eq_iff] at hall
    rw [hall.2.1] at hall
    obtain ⟨result, hr, -⟩ := h.completes hlaw' fun _ ↦ hall.2.2
    cases hr
  | committed => simp
  | undone hbegin h hstatus =>
    obtain ⟨k, rfl⟩ := h.calls
    rw [Database.transcript_cons, executions_cons, executions_ending (.inr rfl), List.cons.injEq,
      executions_eq_iff] at hall
    rw [hall.2.1] at hall
    obtain ⟨result, hr, hs⟩ := h.completes hlaw' fun _ ↦ hall.2.2
    cases hr
    exact absurd (hstatus hs) (Bool.eq_false_iff.1 hdry)

theorem dry (h : Conversation db settings statements w calls) (hdry : settings.dryRun = true) :
    ∀ sql, .execute sql ∈ calls → sql = "BEGIN" := by
  cases h with
  | refused => simp
  | unbegun => simp
  | broken hbegin h => simp [h.dry hdry]
  | committed hbegin h => simp [h.dry hdry]
  | undone hbegin h => simp [h.dry hdry]

theorem rollback (h : Conversation db settings statements w calls) (hlaw : db.Lawful w)
    (hdry : settings.dryRun = true)
    (hbegin : (.execute "BEGIN", true) ∈ db.transcript calls w) : .rollback ∈ calls := by
  cases h with
  | refused => cases hbegin
  | unbegun h => simp [h] at hbegin
  | broken _ h =>
    obtain ⟨result, hr, -⟩ := h.completes (hlaw.after [.execute "BEGIN"]) fun hdry' ↦
      absurd hdry (Bool.eq_false_iff.1 hdry')
    cases hr
  | committed _ _ _ hdry' => exact absurd hdry (Bool.eq_false_iff.1 hdry')
  | undone => simp

theorem isTransaction (h : Conversation db settings statements w calls)
    (hbegin : "BEGIN" ∉ statements) : IsTransaction db settings statements w calls where
  order := h.order
  of_commit := h.of_commit
  commit := h.commit
  dry hdry sql hsql hmem := by
    rw [h.dry hdry sql hmem] at hsql
    exact hbegin hsql
  rollback := h.rollback

end Conversation

theorem Course.conversation {statements : List String} {w : W} {calls : List Call}
    {reply : Except Failure RunResult} (h : Course db settings statements w calls reply) :
    Conversation db settings statements w calls := by
  cases h with
  | refused h => exact .refused h
  | unbegun h => exact .unbegun (by rw [Database.respond, h]; rfl)
  | broken hbegin h => exact .broken hbegin h
  | committed hbegin h hstatus hdry => exact .committed hbegin h hstatus hdry
  | undone hbegin h hstatus => exact .undone hbegin h hstatus

/-- The calls of a whole run. When the revision cannot be read there are none, and when the
connection fails there is no other; a connection that is opened is closed once, at the end. -/
theorem runFile_calls (db : Database W) (files : Files) (settings : Settings) (token : String)
    (path database : Path) (w : W) :
    let calls := (final (runFile db settings files token path database) { world := w }).calls
    let connect := Call.connect database.text
    (∀ e, files.load path settings.encoding = .error e → calls = []) ∧
    ∀ revision, files.load path settings.encoding = .ok revision →
      ((db.respond connect w).1 = false → calls = [connect]) ∧
      ((db.respond connect w).1 = true →
        ∃ body, calls = connect :: (body ++ [.close]) ∧ .close ∉ body ∧
          IsTransaction db settings revision.statements (db.respond connect w).2 body) := by
  intro calls connect
  have h : FileCourse db files settings path database w calls _ :=
    fileCourse_runFile files token path database w
  generalize reply (runFile db settings files token path database) { world := w } = r at h
  clear_value calls
  cases h with
  | unread hload =>
    refine ⟨fun _ _ ↦ rfl, fun revision hload' ↦ ?_⟩
    cases hload.symm.trans hload'
  | unconnected hload herror =>
    have hfail : (db.respond connect w).1 = false := by
      rw [Database.respond, herror]
      rfl
    refine ⟨fun e hload' ↦ ?_, fun revision _ ↦ ⟨fun _ ↦ rfl, fun hok ↦ ?_⟩⟩
    · cases hload.symm.trans hload'
    · exact absurd hok (Bool.eq_false_iff.1 hfail)
  | @connected revision body _ hload hok hcourse =>
    refine ⟨fun e hload' ↦ ?_, fun revision' hload' ↦ ?_⟩
    · cases hload.symm.trans hload'
    obtain rfl : revision = revision' := Except.ok.inj (hload.symm.trans hload')
    refine ⟨fun hfail ↦ absurd hok (Bool.eq_false_iff.1 hfail), fun _ ↦ ?_⟩
    have htransaction := hcourse.conversation.isTransaction (begin_not_mem_of_load hload)
    exact ⟨body, rfl, htransaction.close_not_mem, htransaction⟩

theorem runFile_calls_of_rehearsal :
    let files : Files := fun _ ↦ .ok (.file "select 1;".toUTF8.toList)
    let act := runFile Rehearsal.database {} files "" (.ofString "a.sql") (.ofString "a.db")
    Rehearsal.database.Lawful {} ∧
      ∃ body, (final act { world := {} }).calls = .connect "a.db" :: (body ++ [.close]) ∧
        .close ∉ body ∧ IsTransaction Rehearsal.database {} ["select 1"] {} body := by
  intro files act
  refine ⟨Rehearsal.lawful_of_outcomes_eq_nil rfl (by decide +kernel), ?_⟩
  have h := runFile_calls Rehearsal.database files {} "" (.ofString "a.sql") (.ofString "a.db") {}
  exact (h.2 ⟨["select 1"]⟩ (by decide +kernel)).2 rfl

end Run

end RevisionScript
