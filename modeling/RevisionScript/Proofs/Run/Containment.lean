import RevisionScript.Proofs.Run.Course

namespace RevisionScript

namespace Database

variable {W : Type} {db : Database W} {w : W} {cs ds : List Call} {c : Call}

theorem Lawful.executor (h : db.Lawful w) : db.executor.Lawful w where
  rows statements sql rows hr := by
    rw [← db.executor_drivenBy.after_map] at hr
    obtain ⟨rows', hrows, rfl⟩ := except_map_eq_ok hr
    obtain ⟨n, rfl⟩ := h.rows _ sql rows' hrows
    by_cases hn : n < 0
    · exact ⟨none, by simp [rowCount, Json.isNegative, hn, Json.ofInt?]⟩
    · exact ⟨some n, by simp [rowCount, Json.isNegative, hn, Json.ofInt?]⟩
  clock statements later := by
    rw [← db.executor_drivenBy.after_map, ← db.executor_drivenBy.after_map, List.map_append]
    exact h.clock _ _

theorem execute_eq_error {sql : String} {e : Failure}
    (h : (db.executor.execute sql w).1 = .error e) :
    (db.execute sql w).1 = .error e := except_map_eq_error h

def transactionCalls : List Call := [.execute "BEGIN", .commit, .rollback]

def Endures (db : Database W) (cs : List Call) (w : W) : Prop :=
  ∀ c ∈ transactionCalls, (c, false) ∉ db.transcript cs w

theorem endures_append :
    db.Endures (cs ++ ds) w ↔ db.Endures cs w ∧ db.Endures ds (db.after cs w) := by
  unfold Endures
  rw [transcript_append]
  simp only [List.mem_append, not_or]
  exact forall₂_and

theorem endures_singleton (hc : c ∈ transactionCalls) :
    db.Endures [c] w ↔ (db.respond c w).1 = true := by
  unfold Endures
  simp only [transcript_cons, transcript_nil, List.mem_singleton, Prod.mk.injEq, not_and]
  constructor
  · intro h
    exact Bool.eq_false_or_eq_true _ |>.resolve_right fun hfail ↦ h c hc rfl hfail.symm
  · rintro hok c' - rfl hfail
    rw [hok] at hfail
    cases hfail

theorem endures_of_not_mem (h : ∀ c ∈ transactionCalls, c ∉ cs) : db.Endures cs w :=
  fun c hc hmem ↦ h c hc (mem_of_mem_transcript hmem)

end Database

namespace Run

open Act

variable {W : Type} {db : Database W} {settings : Settings} {statements : List String} {w : W}
  {cs : List Call} {reply : Except Failure RunResult}

theorem Ran.not_mem_transactionCalls (h : Ran db settings statements w cs reply)
    (hbegin : "BEGIN" ∉ statements) : ∀ c ∈ Database.transactionCalls, c ∉ cs := by
  obtain ⟨hcommit, hrollback⟩ := h.not_mem
  simp only [Database.transactionCalls, List.forall_mem_cons, List.not_mem_nil, false_implies,
    implies_true, and_true]
  refine ⟨fun hmem ↦ ?_, hcommit, hrollback⟩
  obtain ⟨k, rfl⟩ := h.calls
  obtain ⟨sql, hsql, heq⟩ := List.mem_map.1 hmem
  cases heq
  exact hbegin (List.mem_of_mem_take hsql)

def Contained (reply : Except Failure RunResult) : Prop :=
  (∃ result, reply = .ok result) ∨ ∃ e, reply = .error (.revision e)

theorem contained_error_iff {e : Failure} :
    Contained (.error e) ↔ ∃ f, e = .revision f := by
  simp [Contained]

theorem contained_map_iff {closing : Except Failure Unit} {result : RunResult}
    (hdriver : ∀ e, closing = .error e → ∃ name message, e = .driver name message) :
    Contained ((fun _ ↦ result) <$> closing) ↔ closing.isOk = true := by
  cases closing with
  | ok u => exact iff_of_true (.inl ⟨result, rfl⟩) rfl
  | error e =>
    obtain ⟨name, message, rfl⟩ := hdriver e rfl
    exact iff_of_false (by rintro (⟨_, h⟩ | ⟨_, h⟩) <;> cases h) nofun

theorem Ran.endures_iff {w : W}
    (h : Ran db settings statements (db.respond (.execute "BEGIN") w).2 cs reply)
    (hbegin : "BEGIN" ∉ statements) (hbegun : (db.respond (.execute "BEGIN") w).1 = true)
    {last : Call} (hlast : last ∈ Database.transactionCalls) :
    db.Endures (.execute "BEGIN" :: (cs ++ [last])) w ↔
      (db.respond last (db.after (.execute "BEGIN" :: cs) w)).1 = true := by
  have hfirst : db.Endures [.execute "BEGIN"] w :=
    (Database.endures_singleton List.mem_cons_self).2 hbegun
  have hcs : db.Endures cs (db.after [.execute "BEGIN"] w) :=
    Database.endures_of_not_mem (h.not_mem_transactionCalls hbegin)
  rw [← List.cons_append, Database.endures_append, Database.endures_singleton hlast,
    ← List.singleton_append, Database.endures_append, and_iff_right ⟨hfirst, hcs⟩]

/-- Without messages, a driver that is lawful and fails as drivers do is contained unless a call
that opens or ends the transaction fails. -/
theorem Course.contained_iff (h : Course db settings statements w cs reply)
    (hbegin : "BEGIN" ∉ statements) (hquiet : settings.showProgress = false) (hlaw : db.Lawful w)
    (hdriver : db.FailsWith (fun e ↦ ∃ name message, e = .driver name message) w) :
    Contained reply ↔ db.Endures cs w := by
  cases h with
  | refused =>
    exact iff_of_true (.inr ⟨_, rfl⟩) (Database.endures_of_not_mem fun _ _ ↦ List.not_mem_nil)
  | unbegun h =>
    obtain ⟨name, message, rfl⟩ := hdriver.execute [] _ _ h
    refine iff_of_false (by simp [contained_error_iff]) fun hendures ↦ ?_
    have hok := (Database.endures_singleton List.mem_cons_self).1 hendures
    rw [Database.respond, h] at hok
    cases hok
  | broken _ _ hfault =>
    have hlaw' := (hlaw.after [.execute "BEGIN"]).executor
    obtain ⟨done, sql, hexecute, hends⟩ := hfault.exists_execution hquiet hlaw'
    rw [← db.executor_drivenBy.after_map] at hexecute
    obtain ⟨name, message, rfl⟩ :=
      (hdriver.after [.execute "BEGIN"]).execute _ sql _ (Database.execute_eq_error hexecute)
    cases hends
  | committed hbegun hran =>
    rw [hran.endures_iff hbegin hbegun (by decide), contained_map_iff (hdriver.commit _)]
    rfl
  | undone hbegun hran =>
    rw [hran.endures_iff hbegin hbegun (by decide), contained_map_iff (hdriver.rollback _)]
    rfl

theorem FileCourse.contained_iff {files : Files} {path database : Path} {revision : Revision}
    (h : FileCourse db files settings path database w cs reply)
    (hload : files.load path settings.encoding = .ok revision)
    (hquiet : settings.showProgress = false) (hlaw : db.Lawful w)
    (hdriver : db.FailsWith (fun e ↦ ∃ name message, e = .driver name message) w)
    (hclose : ∀ calls, (db.close (db.after calls w)).1 = .ok ()) :
    Contained reply ↔ db.Endures cs w := by
  cases h with
  | unread hload' => cases hload.symm.trans hload'
  | unconnected _ h =>
    obtain ⟨name, message, rfl⟩ := hdriver.connect [] _ _ h
    refine iff_of_true (.inr ⟨_, rfl⟩) (Database.endures_of_not_mem ?_)
    simp [Database.transactionCalls]
  | @connected revision' body reply' hload' _ hcourse =>
    obtain rfl : revision = revision' := Except.ok.inj (hload.symm.trans hload')
    have hopened : db.Endures [.connect database.text] w :=
      Database.endures_of_not_mem (by simp [Database.transactionCalls])
    have hclosed : db.Endures [.close] (db.after body (db.after [.connect database.text] w)) :=
      Database.endures_of_not_mem (by simp [Database.transactionCalls])
    rw [hclose, ← List.singleton_append, Database.endures_append, Database.endures_append,
      and_iff_right hopened, and_iff_left hclosed]
    exact hcourse.contained_iff (begin_not_mem_of_load hload) hquiet
      (hlaw.after [.connect database.text]) (hdriver.after [.connect database.text])

end Run

end RevisionScript
