import Mathlib.Data.List.DropRight
import RevisionScript.Text.Basic

namespace RevisionScript

def IsTrimmed (s : List Char) : Prop :=
  (∀ c ∈ s.head?, isBlank c = false) ∧ ∀ c ∈ s.getLast?, isBlank c = false

def AllBlank (s : List Char) : Prop := ∀ c ∈ s, isBlank c = true

variable {a b s : List Char}

theorem dropEndWhile_eq_rdropWhile (p : Char → Bool) (s : List Char) :
    dropEndWhile p s = s.rdropWhile p := rfl

theorem exists_dropEndWhile (p : Char → Bool) (s : List Char) :
    ∃ b, (∀ c ∈ b, p c = true) ∧ s = dropEndWhile p s ++ b := by
  refine ⟨(s.reverse.takeWhile p).reverse, ?_, ?_⟩
  · intro c hc
    exact List.mem_takeWhile_imp (List.mem_reverse.1 hc)
  · rw [dropEndWhile, ← List.reverse_append, List.takeWhile_append_dropWhile, List.reverse_reverse]

theorem trimStart_append_of_blank (ha : AllBlank a) : trimStart (a ++ s) = trimStart s :=
  List.dropWhile_append_of_pos ha

theorem trimStart_append (h : trimStart a ≠ []) : trimStart (a ++ b) = trimStart a ++ b := by
  rw [trimStart] at h
  rw [trimStart, trimStart, List.dropWhile_append, if_neg (by simpa using h)]

theorem trimStart_trimStart (s : List Char) : trimStart (trimStart s) = trimStart s :=
  List.dropWhile_idempotent _ _

theorem trimStart_eq_self_iff : trimStart s = s ↔ ∀ c ∈ s.head?, isBlank c = false := by
  rw [trimStart, List.dropWhile_eq_self_iff]
  cases s <;> simp

theorem trimEnd_eq_reverse (s : List Char) : trimEnd s = (trimStart s.reverse).reverse := rfl

theorem trimEnd_append_of_blank (hb : AllBlank b) : trimEnd (s ++ b) = trimEnd s := by
  have hr : AllBlank b.reverse := fun c hc ↦ hb c (List.mem_reverse.1 hc)
  simp only [trimEnd_eq_reverse, List.reverse_append, trimStart_append_of_blank hr]

theorem trimEnd_eq_self_iff : trimEnd s = s ↔ ∀ c ∈ s.getLast?, isBlank c = false := by
  rw [trimEnd_eq_reverse, List.reverse_eq_iff, trimStart_eq_self_iff, List.head?_reverse]

/-- What trimming takes away at the front. -/
theorem exists_trimStart (s : List Char) : ∃ a, AllBlank a ∧ s = a ++ trimStart s :=
  ⟨s.takeWhile isBlank, fun _ hc ↦ List.mem_takeWhile_imp hc, List.takeWhile_append_dropWhile.symm⟩

theorem exists_trimEnd (s : List Char) : ∃ b, AllBlank b ∧ s = trimEnd s ++ b :=
  exists_dropEndWhile isBlank s

theorem exists_trim (s : List Char) :
    ∃ a b, AllBlank a ∧ AllBlank b ∧ s = a ++ (trim s ++ b) := by
  obtain ⟨a, ha, hs⟩ := exists_trimStart s
  obtain ⟨b, hb, ht⟩ := exists_trimEnd (trimStart s)
  exact ⟨a, b, ha, hb, by rw [trim, ← ht, ← hs]⟩

theorem trim_append_of_blank (ha : AllBlank a) (hb : AllBlank b) (h : IsTrimmed s) :
    trim (a ++ (s ++ b)) = s := by
  rw [trim, trimStart_append_of_blank ha]
  cases s with
  | nil =>
    have hn : trimStart b = [] := List.dropWhile_eq_nil_iff.2 hb
    rw [List.nil_append, hn]
    rfl
  | cons c cs =>
    have hs := trimStart_eq_self_iff.2 h.1
    rw [trimStart_append (by simp [hs]), hs, trimEnd_append_of_blank hb, trimEnd_eq_self_iff.2 h.2]

theorem isTrimmed_trim (s : List Char) : IsTrimmed (trim s) := by
  constructor
  · obtain ⟨b, -, ht⟩ := exists_trimEnd (trimStart s)
    have hs := trimStart_eq_self_iff.1 (trimStart_trimStart s)
    rw [ht] at hs
    intro c hc
    apply hs c
    rw [trim, Option.mem_def] at hc
    rw [List.head?_append, hc]
    rfl
  · apply trimEnd_eq_self_iff.1
    simp only [trim, trimEnd, dropEndWhile_eq_rdropWhile]
    exact List.rdropWhile_idempotent _ _

/-- Nothing is trimmed away before a character that is not blank. -/
theorem prefix_trimEnd_append (hs : ∀ c ∈ s.getLast?, isBlank c = false) (t : List Char) :
    s <+: trimEnd (s ++ t) := by
  rw [trimEnd_eq_reverse, List.reverse_append]
  by_cases ht : trimStart t.reverse = []
  · have hr : trimStart s.reverse = s.reverse :=
      trimStart_eq_self_iff.2 (by rwa [List.head?_reverse])
    rw [trimStart_append_of_blank (List.dropWhile_eq_nil_iff.1 ht), hr]
    exact ⟨[], by rw [List.append_nil, List.reverse_reverse]⟩
  · rw [trimStart_append ht, List.reverse_append, List.reverse_reverse]
    exact List.prefix_append _ _

theorem trim_prefix_trim_append (h : trim s ≠ []) (t : List Char) : trim s <+: trim (s ++ t) := by
  have hstart : trimStart s ≠ [] := by
    intro hs
    rw [trim, hs] at h
    exact h rfl
  obtain ⟨b, -, hb⟩ := exists_trimEnd (trimStart s)
  have hsplit : trimStart (s ++ t) = trim s ++ (b ++ t) := by
    rw [trimStart_append hstart, ← List.append_assoc, trim, ← hb]
  have htrim : trim (s ++ t) = trimEnd (trim s ++ (b ++ t)) := congrArg trimEnd hsplit
  rw [htrim]
  exact prefix_trimEnd_append (isTrimmed_trim s).2 _

theorem trim_append_blank (hb : AllBlank b) (s : List Char) : trim (s ++ b) = trim s := by
  by_cases hs : trimStart s = []
  · have hblank : AllBlank s := List.dropWhile_eq_nil_iff.1 hs
    have hnil : trimStart b = [] := List.dropWhile_eq_nil_iff.2 hb
    rw [trim, trim, trimStart_append_of_blank hblank, hs, hnil]
  · rw [trim, trim, trimStart_append hs, trimEnd_append_of_blank hb]

end RevisionScript
