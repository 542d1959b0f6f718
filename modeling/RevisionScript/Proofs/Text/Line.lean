import Mathlib.Data.List.TakeWhile
import RevisionScript.Text.Basic

namespace RevisionScript

theorem not_mem_of_mem_splitOn {separator : Char} {s piece : List Char}
    (h : piece ∈ s.splitOn separator) : separator ∉ piece := by
  induction s generalizing piece with
  | nil => simp_all
  | cons c cs ih =>
    rw [List.splitOn_cons_eq_if_modifyHead] at h
    split at h
    · obtain rfl | h := List.mem_cons.1 h
      · simp
      · exact ih h
    · next hc =>
      cases hs : cs.splitOn separator with
      | nil => simp [hs] at h
      | cons p ps =>
        rw [hs] at h ih
        obtain rfl | h := List.mem_cons.1 h
        · rw [List.mem_cons, not_or]
          exact ⟨fun he ↦ hc (by simp [he]), ih (List.mem_cons_self ..)⟩
        · exact ih (List.mem_cons_of_mem _ h)

def firstLine (s : List Char) : List Char := s.takeWhile (· ≠ '\n')

def unlines (ls : List (List Char)) : List Char := ls.flatMap (· ++ ['\n'])

variable {a b s : List Char}

theorem firstLine_append (h : '\n' ∉ a) (b : List Char) : firstLine (a ++ b) = a ++ firstLine b :=
  List.takeWhile_append_of_pos fun c hc ↦ by simp; rintro rfl; exact h hc

theorem firstLine_prefix_self (s b : List Char) : firstLine s <+: firstLine (s ++ b) := by
  rw [firstLine, firstLine, List.takeWhile_append]
  split
  · exact (List.takeWhile_prefix _).trans (List.prefix_append _ _)
  · exact List.prefix_rfl

theorem splitOn_newline (s : List Char) :
    List.splitOn '\n' s = firstLine s :: (List.splitOn '\n' s).tail := by
  induction s with
  | nil => rfl
  | cons c cs ih =>
    rw [List.splitOn_cons_eq_if_modifyHead, ih]
    by_cases hc : c = '\n' <;> simp [firstLine, hc]

/-- The lines after the first are what follows some line feed. -/
theorem mem_tail_splitOn_iff {line : List Char} :
    line ∈ (List.splitOn '\n' s).tail ↔ ∃ a b, s = a ++ '\n' :: b ∧ line = firstLine b := by
  constructor
  · intro h
    induction s with
    | nil => simp at h
    | cons c cs ih =>
      rw [List.splitOn_cons_eq_if_modifyHead] at h
      by_cases hc : c = '\n'
      · subst c
        simp only [beq_self_eq_true, if_true, List.tail_cons] at h
        rw [splitOn_newline] at h
        obtain rfl | h := List.mem_cons.1 h
        · exact ⟨[], cs, rfl, rfl⟩
        · obtain ⟨a, b, rfl, hl⟩ := ih h
          exact ⟨'\n' :: a, b, rfl, hl⟩
      · obtain ⟨a, b, rfl, hl⟩ := ih (by simpa [hc] using h)
        exact ⟨c :: a, b, rfl, hl⟩
  · intro hp
    rcases hp with ⟨a, b, rfl, rfl⟩
    rw [List.splitOn_append_cons_self, splitOn_newline a, splitOn_newline b]
    simp

theorem splitOn_unlines_append {ls : List (List Char)} (h : ∀ l ∈ ls, '\n' ∉ l) (s : List Char) :
    List.splitOn '\n' (unlines ls ++ s) = ls ++ List.splitOn '\n' s := by
  induction ls with
  | nil => rfl
  | cons l ls ih =>
    rw [List.forall_mem_cons] at h
    have hl : unlines (l :: ls) ++ s = l ++ '\n' :: (unlines ls ++ s) := by simp [unlines]
    rw [hl, List.splitOn_append_cons_self_of_not_mem h.1, ih h.2, List.cons_append]

theorem splitOn_unlines {ls : List (List Char)} (h : ∀ l ∈ ls, '\n' ∉ l) :
    List.splitOn '\n' (unlines ls) = ls ++ [[]] := by
  have hs := splitOn_unlines_append h []
  rwa [List.append_nil] at hs

theorem unlines_splitOn (s : List Char) : unlines (List.splitOn '\n' s) = s ++ ['\n'] := by
  induction s with
  | nil => rfl
  | cons c cs ih =>
    rw [List.splitOn_cons_eq_if_modifyHead]
    split
    · simp_all [unlines]
    · cases h : cs.splitOn '\n' with
      | nil => exact absurd h (List.splitOn_ne_nil _ _)
      | cons p ps => simp_all [unlines]

def EndsLine (s : List Char) : Prop := s = [] ∨ s.getLast? = some '\n'

theorem EndsLine.exists_unlines (h : EndsLine s) : ∃ ls, (∀ l ∈ ls, '\n' ∉ l) ∧ s = unlines ls := by
  obtain rfl | h := h
  · exact ⟨[], List.forall_mem_nil _, rfl⟩
  · obtain ⟨init, rfl⟩ := List.getLast?_eq_some_iff.1 h
    exact ⟨List.splitOn '\n' init, fun _ ↦ not_mem_of_mem_splitOn, (unlines_splitOn init).symm⟩

end RevisionScript
