import RevisionScript.Text.Basic

namespace RevisionScript

variable {s cs : List Char} {c : Char}

def pairsToFeeds : List Char → List Char
  | [] => []
  | '\r' :: '\n' :: cs => '\n' :: pairsToFeeds cs
  | c :: cs => c :: pairsToFeeds cs

def returnsToFeeds (s : List Char) : List Char := s.map fun c ↦ if c = '\r' then '\n' else c

theorem unifyLineEnds_eq (s : List Char) : unifyLineEnds s = returnsToFeeds (pairsToFeeds s) := by
  fun_induction pairsToFeeds s with
  | case1 => rfl
  | case2 cs ih =>
    rw [unifyLineEnds, ih]
    rfl
  | case3 c cs h ih =>
    rw [unifyLineEnds, ih]
    · rfl
    · exact h

theorem return_not_mem_unifyLineEnds (s : List Char) : '\r' ∉ unifyLineEnds s := by
  rw [unifyLineEnds_eq, returnsToFeeds, List.mem_map]
  rintro ⟨c, -, hc⟩
  split at hc
  · cases hc
  · next hne => exact hne hc

def ReturnsPaired (s : List Char) : Prop := ∀ a b, s = a ++ '\r' :: b → b.head? = some '\n'

theorem returnsPaired_nil : ReturnsPaired [] := by
  intro a b h
  simp at h

theorem returnsPaired_cons :
    ReturnsPaired (c :: cs) ↔ (c = '\r' → cs.head? = some '\n') ∧ ReturnsPaired cs := by
  constructor
  · intro h
    refine ⟨?_, fun a b hab ↦ h (c :: a) b (by rw [hab]; rfl)⟩
    rintro rfl
    exact h [] cs rfl
  · rintro ⟨hc, hcs⟩ a b hab
    cases a with
    | nil =>
      cases hab
      exact hc rfl
    | cons d a =>
      cases hab
      exact hcs a b rfl

instance decidableReturnsPaired : (s : List Char) → Decidable (ReturnsPaired s)
  | [] => .isTrue returnsPaired_nil
  | _ :: cs =>
    have := decidableReturnsPaired cs
    decidable_of_iff' _ returnsPaired_cons

theorem ReturnsPaired.ne_return_of_not_pair (h : ReturnsPaired (c :: cs))
    (hpair : ∀ rest, c = '\r' → cs = '\n' :: rest → False) : c ≠ '\r' := by
  intro hc
  obtain ⟨rest, hrest⟩ := List.head?_eq_some_iff.1 ((returnsPaired_cons.1 h).1 hc)
  exact hpair rest hc hrest

/-- Without single carriage returns, no carriage return is left. -/
theorem return_not_mem_pairsToFeeds (h : ReturnsPaired s) : '\r' ∉ pairsToFeeds s := by
  fun_induction pairsToFeeds s with
  | case1 => simp
  | case2 cs ih =>
    rw [returnsPaired_cons, returnsPaired_cons] at h
    simpa using ih h.2.2
  | case3 c cs hpair ih =>
    have hc := h.ne_return_of_not_pair hpair
    simpa [hc.symm] using ih (returnsPaired_cons.1 h).2

theorem unifyLineEnds_of_returnsPaired (h : ReturnsPaired s) :
    unifyLineEnds s = pairsToFeeds s := by
  have hreturn : ∀ c ∈ pairsToFeeds s, (if c = '\r' then '\n' else c) = c := by
    intro c hc
    rw [if_neg]
    rintro rfl
    exact return_not_mem_pairsToFeeds h hc
  rw [unifyLineEnds_eq, returnsToFeeds, List.map_congr_left hreturn, List.map_id']

end RevisionScript
