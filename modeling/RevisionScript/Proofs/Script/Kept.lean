import Mathlib.Algebra.GroupWithZero.Nat
import Mathlib.Algebra.Order.BigOperators.Group.List
import Mathlib.Algebra.Order.Group.Nat
import Mathlib.Data.List.Flatten
import RevisionScript.Proofs.Script.Comment

namespace RevisionScript

variable {s line : List Char} {c : Char}

structure IsKept (line : List Char) : Prop where
  code : isCommentLine line = false
  noReturn : line.getLast? ≠ some '\r'

theorem dropReturn_concat (line : List Char) : dropReturn (line ++ ['\r']) = line := by
  simp [dropReturn]

theorem dropReturn_of_ne (h : line.getLast? ≠ some '\r') : dropReturn line = line := if_neg h

theorem dropReturn_sublist (line : List Char) : (dropReturn line).Sublist line := by
  unfold dropReturn
  split
  · exact List.dropLast_sublist line
  · exact List.Sublist.refl line

theorem scriptLines_append_newline (s : List Char) :
    scriptLines (s ++ ['\n']) = (List.splitOn '\n' s).map dropReturn := by
  have hlines : ∀ l ∈ List.splitOn '\n' s, '\n' ∉ l := fun l hl ↦ not_mem_of_mem_splitOn hl
  rw [← unlines_splitOn, scriptLines_unlines hlines]

theorem dropComments_of_kept (h : ∀ l ∈ List.splitOn '\n' s, IsKept l) :
    dropComments (s ++ ['\n']) = s ++ ['\n'] := by
  have hreturn : (List.splitOn '\n' s).map dropReturn = List.splitOn '\n' s := by
    rw [List.map_congr_left fun l hl ↦ dropReturn_of_ne (h l hl).noReturn, List.map_id']
  have hcode : (List.splitOn '\n' s).filter (!isCommentLine ·) = List.splitOn '\n' s :=
    List.filter_eq_self.2 fun l hl ↦ by simp [(h l hl).code]
  rw [dropComments_eq_unlines, scriptLines_append_newline, hreturn, hcode, unlines_splitOn]

theorem exists_lines (s : List Char) :
    ∃ ls l, (∀ l ∈ ls, '\n' ∉ l) ∧ '\n' ∉ l ∧ s = unlines ls ++ l := by
  obtain h | ⟨ls, l, h⟩ := List.eq_nil_or_concat (List.splitOn '\n' s)
  · exact absurd h (List.splitOn_ne_nil '\n' s)
  rw [List.concat_eq_append] at h
  have hmem : ∀ l' ∈ ls ++ [l], '\n' ∉ l' := fun l' hl' ↦ not_mem_of_mem_splitOn (h ▸ hl')
  have hs := unlines_splitOn s
  rw [h, unlines, List.flatMap_append, List.flatMap_singleton, ← List.append_assoc] at hs
  rw [List.forall_mem_append] at hmem
  exact ⟨ls, l, hmem.1, hmem.2 l (List.mem_singleton_self l), (List.append_cancel_right hs).symm⟩

theorem splitOn_unlines_append_of_not_mem {ls : List (List Char)} (h : ∀ l ∈ ls, '\n' ∉ l)
    (hline : '\n' ∉ line) : List.splitOn '\n' (unlines ls ++ line) = ls ++ [line] := by
  rw [splitOn_unlines_append h, List.splitOn_eq_singleton hline]

/-- A character at the end of a text goes to its last line. -/
theorem exists_splitOn_concat (hc : c ≠ '\n') (s : List Char) :
    ∃ ls l, List.splitOn '\n' s = ls ++ [l] ∧ List.splitOn '\n' (s ++ [c]) = ls ++ [l ++ [c]] := by
  obtain ⟨ls, l, hls, hl, rfl⟩ := exists_lines s
  have hlc : '\n' ∉ l ++ [c] := by simp [hl, hc.symm]
  refine ⟨ls, l, splitOn_unlines_append_of_not_mem hls hl, ?_⟩
  rw [List.append_assoc, splitOn_unlines_append_of_not_mem hls hlc]

/-- The line feed at the end of a script need not be written. -/
theorem dropComments_append_newline (hc : c ≠ '\n') (hreturn : c ≠ '\r') (s : List Char) :
    dropComments (s ++ [c] ++ ['\n']) = dropComments (s ++ [c]) := by
  obtain ⟨ls, l, -, hs⟩ := exists_splitOn_concat hc s
  have hl : dropReturn (l ++ [c]) = l ++ [c] := dropReturn_of_ne (by simp [hreturn])
  have hlines : scriptLines (s ++ [c]) = (List.splitOn '\n' (s ++ [c])).map dropReturn := by
    simp [scriptLines, hs, hl]
  rw [dropComments_eq_unlines, dropComments_eq_unlines, scriptLines_append_newline, hlines]

theorem return_infix_iff (hline : '\n' ∉ line) (rest : List Char) :
    ['\r', '\n'] <:+: line ++ '\n' :: rest ↔
      line.getLast? = some '\r' ∨ ['\r', '\n'] <:+: rest := by
  induction line with
  | nil => simp [List.infix_cons_iff]
  | cons d line ih =>
    rw [List.mem_cons, not_or] at hline
    rw [List.cons_append, List.infix_cons_iff, ih hline.2, List.cons_prefix_cons, ← or_assoc]
    refine or_congr_left ?_
    cases line with
    | nil => simp [eq_comm]
    | cons e line =>
      have he : '\n' ≠ e := fun he ↦ hline.2 (he ▸ List.mem_cons_self)
      simp [he]

theorem exists_return_iff {ls : List (List Char)} (h : ∀ l ∈ ls, '\n' ∉ l) :
    (∃ l ∈ ls, l.getLast? = some '\r') ↔ ['\r', '\n'] <:+: unlines ls := by
  induction ls with
  | nil => simp [unlines]
  | cons l ls ih =>
    rw [List.forall_mem_cons] at h
    have hl : unlines (l :: ls) = l ++ '\n' :: unlines ls := by simp [unlines]
    rw [hl, return_infix_iff h.1, ← ih h.2]
    simp

theorem noReturn_iff :
    (∀ l ∈ List.splitOn '\n' s, l.getLast? ≠ some '\r') ↔ ¬ ['\r', '\n'] <:+: s ++ ['\n'] := by
  rw [← unlines_splitOn, ← exists_return_iff fun l hl ↦ not_mem_of_mem_splitOn hl]
  simp

def keptText (line : List Char) : List Char :=
  if isCommentLine (dropReturn line) then [] else dropReturn line ++ ['\n']

theorem flatMap_keptText (ls : List (List Char)) :
    ls.flatMap keptText = unlines ((ls.map dropReturn).filter (!isCommentLine ·)) := by
  induction ls with
  | nil => rfl
  | cons l ls ih =>
    rw [List.flatMap_cons, ih, List.map_cons, List.filter_cons, keptText]
    cases isCommentLine (dropReturn l) <;> rfl

theorem dropComments_sublist (s : List Char) :
    (dropComments s).Sublist ((List.splitOn '\n' s).flatMap keptText) := by
  have hlines : (scriptLines s).Sublist ((List.splitOn '\n' s).map dropReturn) := by
    unfold scriptLines
    dsimp only
    split
    · exact List.dropLast_sublist _
    · exact List.Sublist.refl _
  rw [dropComments_eq_unlines, flatMap_keptText]
  exact (hlines.filter _).flatMap _

theorem count_unlines (hc : c ≠ '\n') (ls : List (List Char)) :
    (unlines ls).count c = (ls.map (·.count c)).sum := by
  rw [unlines, List.count_flatMap]
  congr 2
  funext l
  simp [hc.symm]

theorem sum_count_splitOn (hc : c ≠ '\n') (s : List Char) :
    ((List.splitOn '\n' s).map (·.count c)).sum = s.count c := by
  rw [← count_unlines hc, unlines_splitOn]
  simp [hc.symm]

theorem count_keptText_le (hc : c ≠ '\n') (line : List Char) :
    (keptText line).count c ≤ line.count c := by
  unfold keptText
  split
  · simp
  · have h := (dropReturn_sublist line).count_le c
    simpa [hc.symm] using h

/-- A line that is not kept loses a character other than the separators of a script. -/
theorem exists_count_keptText_lt (h : ¬ IsKept line) :
    ∃ c, c ≠ '\n' ∧ c ≠ ';' ∧ (keptText line).count c < line.count c := by
  by_cases hreturn : line.getLast? = some '\r'
  · obtain ⟨init, rfl⟩ := List.getLast?_eq_some_iff.1 hreturn
    refine ⟨'\r', by decide, by decide, ?_⟩
    have hle : (keptText (init ++ ['\r'])).count '\r' ≤ init.count '\r' := by
      unfold keptText
      rw [dropReturn_concat]
      split <;> simp
    simpa [Nat.lt_succ_iff] using hle
  · have hcode : isCommentLine line = true := by
      by_contra hcode
      exact h ⟨Bool.eq_false_iff.2 hcode, hreturn⟩
    have hmem : '-' ∈ line := by
      have hdash : '-' ∈ trimStart line := (isCommentLine_iff.1 hcode).subset List.mem_cons_self
      exact (List.dropWhile_suffix isBlank).subset hdash
    refine ⟨'-', by decide, by decide, ?_⟩
    rw [keptText, dropReturn_of_ne hreturn, if_pos hcode, List.count_nil]
    exact List.count_pos_iff.2 hmem

/-- A script that loses no characters but separators keeps all its lines. -/
theorem isKept_of_count_le (h : ∀ c, c ≠ '\n' → c ≠ ';' → s.count c ≤ (dropComments s).count c) :
    ∀ l ∈ List.splitOn '\n' s, IsKept l := by
  intro l hl
  by_contra hkept
  obtain ⟨c, hc, hsemicolon, hlt⟩ := exists_count_keptText_lt hkept
  have hsum : ((List.splitOn '\n' s).map fun l ↦ (keptText l).count c).sum <
      ((List.splitOn '\n' s).map (·.count c)).sum :=
    List.sum_lt_sum _ _ (fun l _ ↦ count_keptText_le hc l) ⟨l, hl, hlt⟩
  have hdrop := (dropComments_sublist s).count_le c
  rw [List.count_flatMap] at hdrop
  rw [sum_count_splitOn hc] at hsum
  exact absurd (h c hc hsemicolon) (not_le_of_gt (hdrop.trans_lt hsum))

end RevisionScript
