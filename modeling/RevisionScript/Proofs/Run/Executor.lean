import RevisionScript.Proofs.Run.Transcript

namespace RevisionScript

namespace Executor

variable {W : Type} (executor : Executor W)

/-- Statements change the world through a driver as they do through an executor. -/
def DrivenBy (db : Database W) : Prop :=
  ∀ sql w, (executor.execute sql w).2 = (db.execute sql w).2

def driver : Database W where
  connect _ w := (.ok (), w)
  execute := executor.execute
  commit w := (.ok (), w)
  rollback w := (.ok (), w)
  close w := (.ok (), w)
  inTransaction _ := false
  now := executor.now

theorem drivenBy_driver : executor.DrivenBy executor.driver := fun _ _ ↦ rfl

def after (statements : List String) (w : W) : W :=
  statements.foldl (fun w sql ↦ (executor.execute sql w).2) w

def answers : List String → W → List (Except Failure Json)
  | [], _ => []
  | sql :: rest, w => (executor.execute sql w).1 :: answers rest (executor.execute sql w).2

/-- From a world on, executions answer with a row count, which may be null, and the time that
passes is finite. -/
structure Lawful (w : W) : Prop where
  rows : ∀ statements sql rows, (executor.execute sql (executor.after statements w)).1 = .ok rows →
    ∃ count, rows = .ofInt? count
  clock : ∀ statements later,
    (millisecondsBetween (executor.now (executor.after statements w))
      (executor.now (executor.after (statements ++ later) w))).isOk

variable {executor} {w : W}

theorem DrivenBy.after_map {db : Database W} (h : executor.DrivenBy db) (statements : List String)
    (w : W) : db.after (statements.map .execute) w = executor.after statements w := by
  induction statements generalizing w with
  | nil => rfl
  | cons sql rest ih =>
    have hnext : (db.respond (.execute sql) w).2 = (executor.execute sql w).2 := (h sql w).symm
    rw [List.map_cons, Database.after_cons, hnext]
    exact ih _

theorem Lawful.exists_milliseconds (h : executor.Lawful w) (statements : List String) :
    ∃ ms, millisecondsBetween (executor.now w) (executor.now (executor.after statements w)) =
      .ok ms := by
  have hclock : (millisecondsBetween (executor.now w)
      (executor.now (executor.after statements w))).isOk := h.clock [] statements
  cases hms : millisecondsBetween (executor.now w) (executor.now (executor.after statements w)) with
  | error e => simp [hms, Except.isOk, Except.toBool] at hclock
  | ok ms => exact ⟨ms, rfl⟩

theorem Lawful.execute (h : executor.Lawful w) (sql : String) :
    executor.Lawful (executor.execute sql w).2 where
  rows statements := h.rows (sql :: statements)
  clock statements := h.clock (sql :: statements)

end Executor

theorem Database.executor_drivenBy {W : Type} (db : Database W) : db.executor.DrivenBy db :=
  fun _ _ ↦ rfl

end RevisionScript
