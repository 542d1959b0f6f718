import Mathlib.Data.List.Forall2
import Mathlib.Tactic.Common

namespace RevisionScript

section

variable {ε α β : Type} {x : Except ε α} {a : α} {b : β} {e : ε}

theorem except_bind_eq_ok {f : α → Except ε β} (h : (x >>= f) = .ok b) :
    ∃ a, x = .ok a ∧ f a = .ok b := by
  cases x with
  | error e => cases h
  | ok a => exact ⟨a, rfl, h⟩

theorem except_bind_eq_ok_iff {f : α → Except ε β} :
    (x >>= f) = .ok b ↔ ∃ a, x = .ok a ∧ f a = .ok b := by
  refine ⟨except_bind_eq_ok, ?_⟩
  rintro ⟨a, rfl, h⟩
  exact h

theorem except_map_eq_ok {f : α → β} (h : x.map f = .ok b) : ∃ a, x = .ok a ∧ f a = b := by
  cases x with
  | error e => cases h
  | ok a => exact ⟨a, rfl, Except.ok.inj h⟩

theorem except_map_eq_error {f : α → β} (h : x.map f = .error e) : x = .error e := by
  cases x with
  | error e' => exact congrArg Except.error (Except.error.inj h)
  | ok a => cases h

theorem except_mapError_eq_ok_iff {ε' : Type} {f : ε → ε'} : x.mapError f = .ok a ↔ x = .ok a := by
  cases x with
  | error e => exact ⟨nofun, nofun⟩
  | ok a' => exact ⟨fun h ↦ congrArg Except.ok (Except.ok.inj h), fun h ↦ h ▸ rfl⟩

theorem exists_of_isOk (h : x.isOk) : ∃ a, x = .ok a := by
  cases x with
  | error e => cases h
  | ok a => exact ⟨a, rfl⟩

end

section

variable {ε α β : Type} {f : α → Except ε β} {xs ys : List α} {zs : List β}

/-- A traversal comes to its end when each of its steps does. -/
theorem exists_mapM_eq_ok_iff : (∃ zs, xs.mapM f = .ok zs) ↔ ∀ x ∈ xs, ∃ z, f x = .ok z := by
  induction xs with
  | nil => exact iff_of_true ⟨[], rfl⟩ nofun
  | cons x xs ih =>
    rw [List.forall_mem_cons, ← ih, List.mapM_cons]
    simp only [except_bind_eq_ok_iff]
    constructor
    · rintro ⟨-, z, hz, zs, hzs, -⟩
      exact ⟨⟨z, hz⟩, zs, hzs⟩
    · rintro ⟨⟨z, hz⟩, zs, hzs⟩
      exact ⟨z :: zs, z, hz, zs, hzs, rfl⟩

theorem mapM_eq_ok_iff_forall₂ :
    xs.mapM f = .ok zs ↔ List.Forall₂ (fun x z ↦ f x = .ok z) xs zs := by
  induction xs generalizing zs with
  | nil =>
    rw [List.mapM_nil, List.forall₂_nil_left_iff]
    exact ⟨fun h ↦ (Except.ok.inj h).symm, fun h ↦ h ▸ rfl⟩
  | cons x xs ih =>
    rw [List.mapM_cons, List.forall₂_cons_left_iff]
    simp only [except_bind_eq_ok_iff, ih]
    constructor
    · rintro ⟨z, hz, zs', hzs, h⟩
      exact ⟨z, zs', hz, hzs, (Except.ok.inj h).symm⟩
    · rintro ⟨z, zs', hz, hzs, rfl⟩
      exact ⟨z, hz, zs', hzs, rfl⟩

theorem exists_of_mem_mapM {z : β} (h : xs.mapM f = .ok zs) (hz : z ∈ zs) :
    ∃ x ∈ xs, f x = .ok z := by
  have hall := mapM_eq_ok_iff_forall₂.1 h
  induction hall with
  | nil => cases hz
  | @cons x z' xs zs hx hxs ih =>
    rcases List.mem_cons.1 hz with rfl | hz
    · exact ⟨x, List.mem_cons_self, hx⟩
    · obtain ⟨y, hy, hfy⟩ := ih (mapM_eq_ok_iff_forall₂.2 hxs) hz
      exact ⟨y, List.mem_cons_of_mem _ hy, hfy⟩

theorem mapM_append_eq_ok_iff :
    (xs ++ ys).mapM f = .ok zs ↔
      ∃ as bs, xs.mapM f = .ok as ∧ ys.mapM f = .ok bs ∧ zs = as ++ bs := by
  rw [List.mapM_append, except_bind_eq_ok_iff]
  refine exists_congr fun as ↦ ?_
  rw [except_bind_eq_ok_iff]
  constructor
  · rintro ⟨has, bs, hbs, h⟩
    cases h
    exact ⟨bs, has, hbs, rfl⟩
  · rintro ⟨bs, has, hbs, rfl⟩
    exact ⟨has, bs, hbs, rfl⟩

end

section

variable {ε α : Type} {p : α → Except ε Bool} {q : α → Bool} {xs : List α}

end

end RevisionScript
