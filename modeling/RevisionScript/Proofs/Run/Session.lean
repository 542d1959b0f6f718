import RevisionScript.Proofs.Except
import RevisionScript.Run.Database

namespace RevisionScript

namespace Act

variable {W α β : Type}

def reply (act : Act W α) (s : Session W) : Except Failure α :=
  match act s with
  | .ok a _ => .ok a
  | .error e _ => .error e

def final (act : Act W α) (s : Session W) : Session W :=
  match act s with
  | .ok _ s => s
  | .error _ s => s

variable {act : Act W α} {next : α → Act W β} {s : Session W}

theorem bind_of_ok (next : α → Act W β) {a : α} (h : reply act s = .ok a) :
    reply (act >>= next) s = reply (next a) (final act s) ∧
      final (act >>= next) s = final (next a) (final act s) := by
  unfold reply at h
  split at h
  · next hs =>
    cases h
    simp [reply, final, bind_apply, hs]
  · cases h

theorem bind_of_error (next : α → Act W β) {e : Failure} (h : reply act s = .error e) :
    reply (act >>= next) s = .error e ∧ final (act >>= next) s = final act s := by
  unfold reply at h
  split at h
  · cases h
  · next hs =>
    cases h
    simp [reply, final, bind_apply, hs]

theorem reply_bind_pure (f : α → β) :
    reply (act >>= fun a ↦ pure (f a)) s = (reply act s).map f := by
  cases h : reply act s with
  | ok a =>
    rw [(bind_of_ok _ h).1]
    rfl
  | error e =>
    rw [(bind_of_error _ h).1]
    rfl

theorem bind_observe {f : W → α} :
    (observe f >>= next : Act W β) s = next (f s.world) s := by
  rw [bind_apply]
  rfl

theorem reply_bind_observe {f : W → α} :
    reply (observe f >>= next : Act W β) s = reply (next (f s.world)) s := by
  rw [reply, bind_observe, ← reply]

theorem eq_ok_iff {a : α} {s' : Session W} :
    act s = .ok a s' ↔ reply act s = .ok a ∧ final act s = s' := by
  unfold reply final
  cases act s <;> simp

theorem eq_error_iff {e : Failure} {s' : Session W} :
    act s = .error e s' ↔ reply act s = .error e ∧ final act s = s' := by
  unfold reply final
  cases act s <;> simp

theorem exists_of_bind_eq_ok {b : β} {s'' : Session W} (h : (act >>= next) s = .ok b s'') :
    ∃ a s', act s = .ok a s' ∧ next a s' = .ok b s'' := by
  rw [bind_apply] at h
  cases hact : act s with
  | ok a s' =>
    rw [hact] at h
    exact ⟨a, s', rfl, h⟩
  | error e s' =>
    rw [hact] at h
    cases h

theorem ofExcept_eq_ok {r : Except Failure α} {a : α} {s' : Session W}
    (h : ofExcept r s = .ok a s') : r = .ok a ∧ s' = s := by
  cases r with
  | ok a' =>
    cases h
    exact ⟨rfl, rfl⟩
  | error e => cases h

theorem reply_ofExcept (r : Except Failure α) (s : Session W) : reply (ofExcept r) s = r := by
  cases r <;> rfl

theorem final_ofExcept (r : Except Failure α) (s : Session W) : final (ofExcept r) s = s := by
  cases r <;> rfl

theorem reply_call (c : Call) (step : W → Except Failure α × W) (s : Session W) :
    reply (call c step) s = (step s.world).1 := reply_ofExcept ..

theorem final_call (c : Call) (step : W → Except Failure α × W) (s : Session W) :
    final (call c step) s = { s with world := (step s.world).2, calls := s.calls ++ [c] } :=
  final_ofExcept ..

theorem reply_attempt (act : Act W α) (s : Session W) :
    reply (attempt act) s = .ok (reply act s) := by
  unfold reply attempt
  cases act s <;> rfl

theorem final_attempt (act : Act W α) (s : Session W) : final (attempt act) s = final act s := by
  unfold final attempt
  cases act s <;> rfl

theorem final_ending (act : Act W α) (last : Act W Unit) (s : Session W) :
    final (ending act last) s = final last (final act s) := by
  unfold final ending
  cases act s with
  | ok a s => cases h : last s <;> simp [h]
  | error e s => cases h : last s <;> simp [h]

end Act

end RevisionScript
