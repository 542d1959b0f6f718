import RevisionScript.Run.Record

namespace RevisionScript

variable {t : Tally} {f : FirstFailure} {before later rs : List StatementResult}
  {r : StatementResult} {index : Nat}

theorem FirstFailure.message_of {index : Int} {message : String}
    (h : r.errorMessage = some message) :
    (of index r).message = s!"Statement {index} failed: {message}" := by
  simp only [of, h, Option.getD_some]

theorem unfailed_or_exists (rs : List StatementResult) :
    (∀ r ∈ rs, r.status ≠ .failed) ∨ ∃ before r later, rs = before ++ r :: later ∧
      (∀ q ∈ before, q.status ≠ .failed) ∧ r.status = .failed := by
  induction rs with
  | nil => exact .inl (List.forall_mem_nil _)
  | cons r rs ih =>
    by_cases hr : r.status = .failed
    · exact .inr ⟨[], r, rs, rfl, List.forall_mem_nil _, hr⟩
    · obtain hall | ⟨before, r', later, rfl, hbefore, hr'⟩ := ih
      · exact .inl (List.forall_mem_cons.2 ⟨hr, hall⟩)
      · exact .inr ⟨r :: before, r', later, rfl, List.forall_mem_cons.2 ⟨hr, hbefore⟩, hr'⟩

namespace Tally

def addAll (t : Tally) (index : Nat) : List StatementResult → Tally
  | [] => t
  | r :: rs => (t.add index r).addAll (index + 1) rs

theorem add_of_ne (h : r.status ≠ .failed) :
    t.add index r = { t with results := t.results ++ [r] } := by
  simp [add, h]

theorem failure_add_of_none (ht : t.failure = none) (h : r.status = .failed) :
    (t.add index r).failure = some (.of index r) := by
  simp [add, h, ht]

theorem failure_add_of_some (ht : t.failure = some f) : (t.add index r).failure = some f := by
  simp [add, ht]

theorem results_addAll (t : Tally) (index : Nat) (rs : List StatementResult) :
    (t.addAll index rs).results = t.results ++ rs := by
  induction rs generalizing t index with
  | nil => rw [addAll, List.append_nil]
  | cons r rs ih => rw [addAll, ih, add, List.append_assoc, List.singleton_append]

theorem addAll_append (t : Tally) (index : Nat) (before rs : List StatementResult) :
    t.addAll index (before ++ rs) =
      (t.addAll index before).addAll (index + before.length) rs := by
  induction before generalizing t index with
  | nil => rfl
  | cons r before ih =>
    rw [List.cons_append, addAll, addAll, ih, List.length_cons, Nat.add_right_comm, Nat.add_assoc]

theorem addAll_of_unfailed (h : ∀ r ∈ rs, r.status ≠ .failed) :
    t.addAll index rs = { t with results := t.results ++ rs } := by
  induction rs generalizing t index with
  | nil => rw [addAll, List.append_nil]
  | cons r rs ih =>
    rw [List.forall_mem_cons] at h
    rw [addAll, ih h.2, add_of_ne h.1, List.append_assoc, List.singleton_append]

theorem failure_addAll_of_some (ht : t.failure = some f) :
    (t.addAll index rs).failure = some f := by
  induction rs generalizing t index with
  | nil => exact ht
  | cons r rs ih => exact ih (failure_add_of_some ht)

/-- Neither the results before the first failure nor those after it count. -/
theorem failure_addAll_of_failed (hbefore : ∀ q ∈ before, q.status ≠ .failed)
    (h : r.status = .failed) :
    (({} : Tally).addAll index (before ++ r :: later)).failure =
      some (.of (index + before.length : Nat) r) := by
  rw [addAll_append, addAll_of_unfailed hbefore, addAll]
  exact failure_addAll_of_some (failure_add_of_none rfl h)

theorem failure_addAll_eq_none_iff :
    (({} : Tally).addAll index rs).failure = none ↔ ∀ r ∈ rs, r.status ≠ .failed := by
  obtain hall | ⟨before, r, later, rfl, hbefore, hr⟩ := unfailed_or_exists rs
  · rw [addAll_of_unfailed hall]
    exact iff_of_true rfl hall
  · rw [failure_addAll_of_failed hbefore hr]
    exact iff_of_false nofun fun hall ↦ hall r (List.mem_append_right _ List.mem_cons_self) hr

end Tally

namespace RunResult

variable {runId : String} {total : Nat} {milliseconds : Int}

theorem ofTally_of_unfailed (h : t.failure = none) :
    let result := ofTally runId total t milliseconds
    result.failedIndex = none ∧ result.errorMessage = none ∧ result.status = .succeeded := by
  rw [ofTally, h]
  exact ⟨rfl, rfl, rfl⟩

theorem ofTally_of_failed (h : t.failure = some f) :
    let result := ofTally runId total t milliseconds
    result.failedIndex = some f.index ∧ result.errorMessage = some f.message ∧
      result.status =
        if ∀ q ∈ t.results, q.status ≠ .succeeded then .failed else .partly := by
  rw [ofTally, h]
  refine ⟨rfl, rfl, ?_⟩
  simp only [List.countP_eq_zero, decide_eq_true_eq, ne_eq]

theorem status_ofTally :
    (ofTally runId total t milliseconds).status = .succeeded ↔ t.failure = none := by
  cases h : t.failure with
  | none => exact iff_of_true (ofTally_of_unfailed h).2.2 rfl
  | some f =>
    refine iff_of_false ?_ nofun
    rw [(ofTally_of_failed h).2.2]
    split <;> decide

end RunResult

end RevisionScript
